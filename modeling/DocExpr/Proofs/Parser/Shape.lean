import DocExpr.Proofs.Inside
import DocExpr.Proofs.Lexer.Reading
import DocExpr.Proofs.Parser.Follow

/-! Every tree that the parser gives is well formed down to its last part: what the evaluation of
paths, matches and regexes relies on holds at every node, whatever encloses it. Each reader is
shown to build sound trees from sound parts. -/
namespace DocExpr.Expr

/-- The patterns that a pattern holds directly. -/
def Pattern.parts : Pattern → List Pattern
  | .object entries => entries.map (·.2.2)
  | .array front _ back => front ++ back
  | _ => []

/-- What matching relies on at a pattern: only behind a spread are there last items. -/
def Pattern.Shaped : Pattern → Prop
  | .regex pattern flags => RegexShaped pattern flags
  | .array _ spread back => spread = false → back = []
  | _ => True

/-- Every part of the pattern is well formed. -/
def Pattern.Sound : Pattern → Prop := Throughout Pattern.parts Pattern.Shaped

/-- What evaluation relies on at a node: a path has accessors and its base is no path, an index is
not negative, a match has arms of which only the last one may match everything, and a negated
number is a number. -/
def Node.Shaped : Node → Prop
  | .regex pattern flags => RegexShaped pattern flags
  | .path base segments =>
    segments ≠ [] ∧ (∀ base' segments', base ≠ .path base' segments') ∧
      ∀ i, .index i ∈ segments → 0 ≤ i
  | .matching _ arms =>
    arms ≠ [] ∧ (∀ arm ∈ arms.dropLast, arm.1 ≠ .wildcard) ∧ ∀ arm ∈ arms, arm.1.Sound
  | .unary .negate operand => ∀ x, operand ≠ .number x
  | _ => True

/-- Every part of the tree is well formed. -/
def Node.Sound : Node → Prop := Throughout Node.parts Node.Shaped

/-- The accessor is well formed, and so are the trees in it. -/
structure Segment.Sound (segment : Segment) : Prop where
  index : ∀ i, segment = .index i → 0 ≤ i
  parts : ∀ part ∈ segment.parts, part.Sound

theorem Node.sound_leaf {node : Node} (here : node.Shaped) (leaf : node.parts = []) :
    node.Sound := by
  refine .of_parts here fun part isPart => ?_
  rw [leaf] at isPart
  exact absurd isPart List.not_mem_nil

theorem Node.sound_ofName (name : String) : (Node.ofName name).Sound := by
  unfold Node.ofName
  split <;> exact Node.sound_leaf trivial rfl

theorem Node.sound_applyUnary {op : UnaryOp} {operand : Node} (below : operand.Sound) :
    (Node.applyUnary op operand).Sound := by
  unfold Node.applyUnary
  split
  next => exact Node.sound_leaf trivial rfl
  next other =>
    refine .of_parts ?_ fun part isPart => ?_
    · cases op with
      | negate => exact fun x number => other x rfl number
      | _ => trivial
    · cases List.mem_singleton.mp isPart
      exact below

theorem Node.sound_withSegment {node : Node} {segment : Segment} (below : node.Sound)
    (last : segment.Sound) : (node.withSegment segment).Sound := by
  unfold Node.withSegment
  split
  next base segments =>
    obtain ⟨some, noPath, indexes⟩ := below.here
    refine .of_parts ⟨by simp, noPath, fun i isIn => ?_⟩ fun part isPart => ?_
    · rcases List.mem_append.mp isIn with old | new
      · exact indexes i old
      · exact last.index i (List.mem_singleton.mp new).symm
    · rcases List.mem_cons.mp isPart with rfl | inside
      · exact below.below List.mem_cons_self
      · rw [List.flatMap_append, List.flatMap_singleton] at inside
        rcases List.mem_append.mp inside with old | new
        · exact below.below (List.mem_cons_of_mem _ old)
        · exact last.parts part new
  next noPath =>
    refine .of_parts ⟨by simp, fun _ _ => noPath _ _, fun i isIn => ?_⟩ fun part isPart => ?_
    · exact last.index i (List.mem_singleton.mp isIn).symm
    · rcases List.mem_cons.mp isPart with rfl | inside
      · exact below
      · rw [List.flatMap_singleton] at inside
        exact last.parts part inside

theorem Pattern.sound_leaf {p : Pattern} (here : p.Shaped) (leaf : p.parts = []) : p.Sound := by
  refine .of_parts here fun part isPart => ?_
  rw [leaf] at isPart
  exact absurd isPart List.not_mem_nil

/-- Without a spread all items are first ones. -/
theorem Pattern.sound_ofItems {items : List (Option Pattern)}
    (below : ∀ p, some p ∈ items → p.Sound) : (Pattern.ofItems items).Sound := by
  refine .of_parts (fun noSpread => ?_) fun part isPart => ?_
  · have all : ∀ item ∈ items, item.isSome = true := by
      intro item isIn
      have notNone := List.any_eq_false.mp noSpread item isIn
      rwa [Option.isNone_iff_eq_none, ← ne_eq, Option.ne_none_iff_isSome] at notNone
    have front : items.takeWhile (·.isSome) = items := by
      have taken := @List.takeWhile_append_of_pos _ _ items [] all
      rwa [List.append_nil, List.takeWhile_nil, List.append_nil] at taken
    rw [front, List.drop_length]
    rfl
  · rcases List.mem_append.mp isPart with isIn | isIn
    all_goals
      obtain ⟨item, isIn, found⟩ := List.mem_filterMap.mp isIn
      cases found
      refine below part ?_
    · exact (List.takeWhile_prefix _).subset isIn
    · exact List.mem_of_mem_drop isIn

/-- All literals among the tokens are as a text can write them. -/
def Lexed (ts : List Spanned) : Prop := ∀ t ∈ ts, t.token.Shaped

theorem Lexed.suffix {rest ts : List Spanned} (lexed : Lexed ts) (left : rest <:+ ts) :
    Lexed rest :=
  fun t isIn => lexed t (left.subset isIn)

/-- What a reader makes of the tokens of a text is good. -/
def Builds {α : Type} (p : Parse α) (Good : α → Prop) : Prop :=
  ∀ {ts x rest}, Lexed ts → p ts = .ok (x, rest) → Good x

/-- The readers of a level build sound trees. -/
structure Level.Sound (level : Level) : Prop where
  consumes : level.Consumes
  expression : ∀ power, Builds (level.expression power) Node.Sound
  pattern : Builds level.pattern Pattern.Sound

section
variable {source : List Char} {α : Type}

/-- A list of which each next item may depend on those before it. -/
theorem itemsUntil_builds {close : Symbol} {item : List α → Parse α} (Inv : List α → Prop)
    (consumes : ∀ done, Consumes (item done))
    (step : ∀ done, Inv done → Builds (item done) fun x => Inv (x :: done)) {done : List α}
    (inv : Inv done) (fuel : Nat) :
    Builds (itemsUntil close item done fuel) fun xs => Inv xs.reverse := by
  intro ts xs rest lexed h
  induction fuel generalizing done ts with
  | zero =>
    cases h
    rwa [List.reverse_reverse]
  | succ fuel ih =>
    rw [itemsUntil] at h
    split at h
    · cases h
      rwa [List.reverse_reverse]
    · obtain ⟨⟨x, ts₁⟩, read, h⟩ := ok_of_bind h
      have inv₁ := step done inv lexed read
      have left := (consumes done read).1
      dsimp only at h
      split at h
      · exact ih inv₁ (lexed.suffix ((List.suffix_cons _ _).trans left)) h
      · cases h
        rwa [List.reverse_reverse]

/-- A list of items that do not depend on each other. -/
theorem itemsUntil_builds_all {close : Symbol} {item : List α → Parse α} {Good : α → Prop}
    (consumes : ∀ done, Consumes (item done)) (each : ∀ done, Builds (item done) Good)
    (fuel : Nat) : Builds (itemsUntil close item [] fuel) fun xs => ∀ x ∈ xs, Good x := by
  have step : ∀ done, (∀ x ∈ done, Good x) →
      Builds (item done) fun x => ∀ y ∈ x :: done, Good y := by
    intro done inv ts x rest lexed h y isIn
    rcases List.mem_cons.mp isIn with rfl | old
    · exact each done lexed h
    · exact inv y old
  intro ts xs rest lexed h x isIn
  exact itemsUntil_builds (fun xs => ∀ x ∈ xs, Good x) consumes step
    (fun _ isIn => absurd isIn List.not_mem_nil) fuel lexed h x (List.mem_reverse.mpr isIn)

theorem enclosed_builds {close : Symbol} {item : List α → Parse α} {Good : List α → Prop}
    (listed : ∀ fuel, Builds (itemsUntil close item [] fuel) Good) (openedAt : Nat) :
    Builds (enclosed source close item openedAt) Good := by
  intro ts xs rest lexed h
  obtain ⟨⟨xs, ts₁⟩, read, h⟩ := ok_of_bind h
  obtain ⟨⟨⟨⟩, ts₂⟩, closed, h⟩ := ok_of_bind h
  cases h
  exact listed _ lexed read

section
variable {inner : Parse Pattern} (inners : Builds inner Pattern.Sound)
include inners

theorem objectPatternEntry_builds (start : Nat) :
    Builds (objectPatternEntry source inner start) fun entry => entry.2.2.Sound := by
  intro ts x rest lexed h
  obtain ⟨⟨key, ts₁⟩, keyed, h⟩ := ok_of_bind h
  obtain ⟨⟨⟨⟩, ts₂⟩, colon, h⟩ := ok_of_bind h
  obtain ⟨⟨value, ts₃⟩, read, h⟩ := ok_of_bind h
  cases h
  have left := ((expect_consumes _ _ colon).trans_suffix (spanPresence_suffix ts₁)).trans
    (patternKey_consumes _ keyed)
  exact inners (lexed.suffix left.1) read

theorem arrayPatternItem_builds (done : List (Option Pattern)) :
    Builds (arrayPatternItem source inner done) fun item => ∀ p, item = some p → p.Sound := by
  intro ts x rest lexed h
  unfold arrayPatternItem at h
  split at h
  · split at h
    · cases h
    · cases h
      exact fun _ none => nomatch none
  · obtain ⟨⟨p, ts₁⟩, read, h⟩ := ok_of_bind h
    cases h
    rintro _ ⟨⟩
    exact inners lexed read

theorem patternWith_builds (consumes : Consumes inner) :
    Builds (patternWith source inner) Pattern.Sound := by
  intro ts x rest lexed h
  unfold patternWith at h
  dsimp only at h
  split at h
  case h_1 =>
    split at h
    · cases h
      exact Pattern.sound_leaf trivial rfl
    · cases h
  case h_7 =>
    cases h
    have shaped : RegexShaped _ _ := lexed _ List.mem_cons_self
    exact Pattern.sound_leaf shaped rfl
  case h_8 =>
    obtain ⟨⟨entries, ts₁⟩, read, h⟩ := ok_of_bind h
    cases h
    have below := enclosed_builds (itemsUntil_builds_all
      (fun _ => objectPatternEntry_consumes consumes _)
      (fun _ => objectPatternEntry_builds inners _)) _ (lexed.suffix (List.suffix_cons _ _)) read
    refine .of_parts trivial fun part isPart => ?_
    obtain ⟨entry, isIn, rfl⟩ := List.mem_map.mp isPart
    exact below entry isIn
  case h_9 =>
    obtain ⟨⟨items, ts₁⟩, read, h⟩ := ok_of_bind h
    cases h
    have below := enclosed_builds (itemsUntil_builds_all (arrayPatternItem_consumes consumes)
      (arrayPatternItem_builds inners)) _ (lexed.suffix (List.suffix_cons _ _)) read
    exact Pattern.sound_ofItems fun p isIn => below _ isIn p rfl
  case h_10 => cases h
  all_goals
    cases h
    exact Pattern.sound_leaf trivial rfl

end

theorem pattern_builds (maxDepth depth : Nat) :
    Builds (pattern source maxDepth depth) Pattern.Sound := by
  induction depth with
  | zero => exact fun _ h => nomatch h
  | succ depth ih => exact patternWith_builds ih (pattern_consumes maxDepth depth)

variable {level : Level} (levels : level.Sound)
include levels

theorem arguments_builds :
    Builds (arguments source level) fun args => ∀ arg ∈ args, arg.Sound := by
  intro ts x rest lexed h
  unfold arguments at h
  obtain ⟨⟨⟨⟩, ts₁⟩, opened, h⟩ := ok_of_bind h
  obtain ⟨⟨args, ts₂⟩, read, h⟩ := ok_of_bind h
  have below := itemsUntil_builds_all (fun _ => levels.consumes.expression 0)
    (fun _ => levels.expression 0) _ (lexed.suffix (expect_consumes _ _ opened).1) read
  dsimp only at h
  split at h
  · cases h
    exact below
  · cases h
  · cases h

theorem objectEntry_builds (start : Nat) :
    Builds (objectEntry source level start) fun entry => entry.2.Sound := by
  intro ts x rest lexed h
  obtain ⟨⟨key, ts₁⟩, keyed, h⟩ := ok_of_bind h
  obtain ⟨⟨⟨⟩, ts₂⟩, colon, h⟩ := ok_of_bind h
  obtain ⟨⟨value, ts₃⟩, read, h⟩ := ok_of_bind h
  cases h
  have left := (expect_consumes _ _ colon).trans (objectKey_consumes _ keyed)
  exact levels.expression 0 (lexed.suffix left.1) read

theorem lambdaBody_builds (params : List String) : Builds (lambdaBody level params) Node.Sound := by
  intro ts x rest lexed h
  obtain ⟨⟨body, ts₁⟩, read, h⟩ := ok_of_bind h
  cases h
  refine .of_parts trivial fun part isPart => ?_
  cases List.mem_singleton.mp isPart
  exact levels.expression 0 lexed read

/-- An arm is read only where no arm before it matches everything. -/
theorem matchArm_builds (braceAt : Nat) (done : List (Pattern × Node)) :
    Builds (matchArm source level braceAt done) fun arm =>
      arm.1.Sound ∧ arm.2.Sound ∧ ∀ arm ∈ done, arm.1 ≠ .wildcard := by
  intro ts x rest lexed h
  unfold matchArm at h
  split at h
  · cases h
  · obtain ⟨⟨p, ts₁⟩, pattern, h⟩ := ok_of_bind h
    dsimp only at h
    split at h
    · cases h
    next noneBefore =>
      obtain ⟨⟨⟨⟩, ts₂⟩, arrow, h⟩ := ok_of_bind h
      obtain ⟨⟨body, ts₃⟩, read, h⟩ := ok_of_bind h
      cases h
      have left := (expect_consumes _ _ arrow).trans (levels.consumes.pattern pattern)
      refine ⟨levels.pattern lexed pattern, levels.expression 0 (lexed.suffix left.1) read, ?_⟩
      intro arm isIn wildcard
      refine noneBefore (List.any_eq_true.mpr ⟨arm, isIn, ?_⟩)
      rw [wildcard]
      rfl

/-- The arms of a match, the last one first. -/
structure ArmsSound (arms : List (Pattern × Node)) : Prop where
  pattern : ∀ arm ∈ arms, arm.1.Sound
  body : ∀ arm ∈ arms, arm.2.Sound
  wildcard : ∀ arm ∈ arms.tail, arm.1 ≠ .wildcard

theorem arms_builds (braceAt fuel : Nat) :
    Builds (itemsUntil .rightBrace (matchArm source level braceAt) [] fuel) fun arms =>
      ArmsSound arms.reverse := by
  refine itemsUntil_builds ArmsSound (matchArm_consumes levels.consumes braceAt) ?_ ?_ fuel
  · intro done inv ts arm rest lexed h
    obtain ⟨pattern, body, noneBefore⟩ := matchArm_builds levels braceAt done lexed h
    exact ⟨List.forall_mem_cons.mpr ⟨pattern, inv.pattern⟩,
      List.forall_mem_cons.mpr ⟨body, inv.body⟩, noneBefore⟩
  · constructor <;> exact fun _ isIn => absurd isIn List.not_mem_nil

theorem matching_builds (start : Nat) : Builds (matching source level start) Node.Sound := by
  intro ts x rest lexed h
  obtain ⟨⟨subject, ts₁⟩, read, h⟩ := ok_of_bind h
  obtain ⟨⟨⟨⟩, ts₂⟩, opened, h⟩ := ok_of_bind h
  obtain ⟨⟨arms, ts₃⟩, listed, h⟩ := ok_of_bind h
  have left := (expect_consumes _ _ opened).trans (levels.consumes.expression 0 read)
  have sound := enclosed_builds (arms_builds levels _) _ (lexed.suffix left.1) listed
  dsimp only at h
  split at h
  · cases h
  next some =>
    cases h
    refine .of_parts ⟨?_, ?_, ?_⟩ fun part isPart => ?_
    · rintro rfl
      exact some rfl
    · intro arm isIn
      refine sound.wildcard arm ?_
      rw [List.tail_reverse]
      exact List.mem_reverse.mpr isIn
    · exact fun arm isIn => sound.pattern arm (List.mem_reverse.mpr isIn)
    · rcases List.mem_cons.mp isPart with rfl | isPart
      · exact levels.expression 0 lexed read
      · obtain ⟨arm, isIn, rfl⟩ := List.mem_map.mp isPart
        exact sound.body arm (List.mem_reverse.mpr isIn)

theorem namespaceMember_builds (space : String) :
    Builds (namespaceMember source level space) Node.Sound := by
  intro ts x rest lexed h
  unfold namespaceMember at h
  split at h
  · split at h
    · obtain ⟨⟨args, ts₁⟩, read, h⟩ := ok_of_bind h
      cases h
      have below := arguments_builds levels (lexed.suffix (List.suffix_cons _ _)) read
      exact .of_parts trivial below
    · cases h
      exact Node.sound_leaf trivial rfl
  · cases h

theorem afterName_builds (name : String) (start : Nat) :
    Builds (afterName source level name start) Node.Sound := by
  intro ts x rest lexed h
  unfold afterName at h
  split at h
  · exact lambdaBody_builds levels _ (lexed.suffix (List.suffix_cons _ _)) h
  · obtain ⟨⟨args, ts₁⟩, read, h⟩ := ok_of_bind h
    cases h
    exact .of_parts trivial (arguments_builds levels lexed read)
  · cases h
    exact Node.sound_ofName name
  · split at h
    · exact matching_builds levels _ lexed h
    · split at h
      · exact namespaceMember_builds levels _ (lexed.suffix (List.suffix_cons _ _)) h
      · cases h
        exact Node.sound_ofName name
  · split at h
    · exact matching_builds levels _ lexed h
    · cases h
      exact Node.sound_ofName name

theorem primary_builds : Builds (primary source level) Node.Sound := by
  intro ts x rest lexed h
  unfold primary at h
  split at h
  case h_5 =>
    cases h
    have shaped : RegexShaped _ _ := lexed _ List.mem_cons_self
    exact Node.sound_leaf shaped rfl
  case h_8 =>
    split at h
    next params ts₁ found =>
      have lexed' := lexed.suffix (List.suffix_cons _ _)
      exact lambdaBody_builds levels _ (lexed'.suffix (parameters?_suffix found)) h
    next =>
      obtain ⟨⟨inner, ts₁⟩, read, h⟩ := ok_of_bind h
      obtain ⟨⟨⟨⟩, ts₂⟩, closed, h⟩ := ok_of_bind h
      cases h
      exact levels.expression 0 (lexed.suffix (List.suffix_cons _ _)) read
  case h_9 =>
    obtain ⟨⟨items, ts₁⟩, read, h⟩ := ok_of_bind h
    cases h
    exact .of_parts trivial <| enclosed_builds (itemsUntil_builds_all
      (fun _ => levels.consumes.expression 0) (fun _ => levels.expression 0)) _
      (lexed.suffix (List.suffix_cons _ _)) read
  case h_10 =>
    obtain ⟨⟨entries, ts₁⟩, read, h⟩ := ok_of_bind h
    cases h
    have below := enclosed_builds (itemsUntil_builds_all
      (fun _ => objectEntry_consumes levels.consumes _) (fun _ => objectEntry_builds levels _)) _
      (lexed.suffix (List.suffix_cons _ _)) read
    refine .of_parts trivial fun part isPart => ?_
    obtain ⟨entry, isIn, rfl⟩ := List.mem_map.mp isPart
    exact below entry isIn
  case h_11 => exact afterName_builds levels _ _ (lexed.suffix (List.suffix_cons _ _)) h
  case h_12 => cases h
  all_goals
    cases h
    exact Node.sound_leaf trivial rfl

omit levels in
theorem Segment.sound_plain {segment : Segment} (index : ∀ i, segment = .index i → 0 ≤ i)
    (leaf : segment.parts = []) : segment.Sound := by
  refine ⟨index, fun part isPart => ?_⟩
  rw [leaf] at isPart
  exact absurd isPart List.not_mem_nil

theorem computed_builds : Builds (fun ts => do
    let (key, ts) ← level.expression 0 ts
    return (Segment.dynamic key, ts)) Segment.Sound := by
  intro ts x rest lexed h
  obtain ⟨⟨key, ts₁⟩, read, h⟩ := ok_of_bind h
  cases h
  refine ⟨by rintro _ ⟨⟩, fun part isPart => ?_⟩
  cases List.mem_singleton.mp isPart
  exact levels.expression 0 lexed read

theorem bracketSegment_builds (start : Nat) :
    Builds (bracketSegment source level start) Segment.Sound := by
  intro ts x rest lexed h
  unfold bracketSegment at h
  dsimp only at h
  split at h
  case h_2 =>
    split at h
    · cases h
      have signless : Number.signBit _ = false := lexed _ List.mem_cons_self
      refine Segment.sound_plain (fun i same => ?_) rfl
      cases same
      exact Number.toInt64_nonneg signless
    · exact computed_builds levels lexed h
  case h_4 => cases h
  case h_5 =>
    obtain ⟨⟨predicate, ts₁⟩, read, h⟩ := ok_of_bind h
    dsimp only at h
    split at h
    · cases h
      refine ⟨by rintro _ ⟨⟩, fun part isPart => ?_⟩
      cases List.mem_singleton.mp isPart
      exact levels.expression 0 (lexed.suffix ⟨[_, _], rfl⟩) read
    · cases h
  case h_6 => cases h
  case h_7 => exact computed_builds levels lexed h
  all_goals
    split at h
    · cases h
      exact Segment.sound_plain (by rintro _ ⟨⟩) rfl
    · exact computed_builds levels lexed h

theorem postfixes_builds {node : Node} (sound : node.Sound) (fuel : Nat) :
    Builds (postfixes source level fuel node) Node.Sound := by
  intro ts x rest lexed h
  have field (name : String) : (Segment.field name).Sound :=
    Segment.sound_plain (by rintro _ ⟨⟩) rfl
  induction fuel generalizing node ts with
  | zero =>
    cases h
    exact sound
  | succ fuel ih =>
    unfold postfixes at h
    split at h
    · have wildcard : Segment.wildcard.Sound :=
        Segment.sound_plain (by rintro _ ⟨⟩) rfl
      exact ih (Node.sound_withSegment sound wildcard) (lexed.suffix ⟨[_, _], rfl⟩) h
    · split at h
      next t ts₁ _ =>
        split at h
        next name _ =>
          have lexed₁ : Lexed ts₁ := lexed.suffix ⟨[_, t], rfl⟩
          split at h
          · obtain ⟨⟨args, ts₂⟩, read, h⟩ := ok_of_bind h
            have below := arguments_builds levels lexed₁ read
            have called : (Node.method node name args).Sound :=
              .of_parts trivial (List.forall_mem_cons.mpr ⟨sound, below⟩)
            have left := (arguments_consumes levels.consumes read).1
            exact ih called (lexed₁.suffix left) h
          · exact ih (Node.sound_withSegment sound (field name)) lexed₁ h
        · cases h
      · cases h
    · split at h
      next name _ _ =>
        have descent : (Segment.descent name).Sound :=
          Segment.sound_plain (by rintro _ ⟨⟩) rfl
        exact ih (Node.sound_withSegment sound descent) (lexed.suffix ⟨[_, _], rfl⟩) h
      · cases h
    · obtain ⟨⟨segment, ts₁⟩, read, h⟩ := ok_of_bind h
      have last := bracketSegment_builds levels _ (lexed.suffix (List.suffix_cons _ _)) read
      have left := (bracketSegment_consumes levels.consumes _ read).1
      dsimp only at h
      split at h
      · exact ih (Node.sound_withSegment sound last)
          (lexed.suffix ((List.suffix_cons _ _).trans (left.trans (List.suffix_cons _ _)))) h
      · cases h
    · cases h
      exact sound

theorem plainOperand_builds : Builds (fun ts => do
    let (node, ts) ← primary source level ts
    postfixes source level (ts.length + 1) node ts) Node.Sound := by
  intro ts x rest lexed h
  obtain ⟨⟨node, ts₁⟩, read, h⟩ := ok_of_bind h
  have left := (primary_consumes levels.consumes read).1
  exact postfixes_builds levels (primary_builds levels lexed read) _ (lexed.suffix left) h

theorem operand_builds : Builds (operand source level) Node.Sound := by
  intro ts x rest lexed h
  unfold operand at h
  dsimp only at h
  split at h
  · split at h
    · obtain ⟨⟨node, ts₁⟩, read, h⟩ := ok_of_bind h
      cases h
      exact Node.sound_applyUnary
        (levels.expression _ (lexed.suffix (List.suffix_cons _ _)) read)
    · exact plainOperand_builds levels lexed h
  · exact plainOperand_builds levels lexed h

theorem conditionalRest_builds {condition : Node} (sound : condition.Sound) (start : Nat) :
    Builds (conditionalRest source level condition start) Node.Sound := by
  intro ts x rest lexed h
  obtain ⟨⟨thenBranch, ts₁⟩, read, h⟩ := ok_of_bind h
  have left := (levels.consumes.expression 0 read).1
  dsimp only at h
  split at h
  · obtain ⟨⟨elseBranch, ts₂⟩, last, h⟩ := ok_of_bind h
    cases h
    have left' := (List.suffix_cons _ _).trans left
    refine .of_parts trivial (List.forall_mem_cons.mpr ⟨sound, List.forall_mem_cons.mpr ⟨?_,
      List.forall_mem_singleton.mpr ?_⟩⟩)
    · exact levels.expression 0 lexed read
    · exact levels.expression _ (lexed.suffix left') last
  · cases h
  · cases h

theorem operators_builds (power : Nat) {left : Node} (sound : left.Sound) (fuel : Nat) :
    Builds (operators source level power fuel left) Node.Sound := by
  intro ts x rest lexed h
  induction fuel generalizing left ts with
  | zero =>
    cases h
    exact sound
  | succ fuel ih =>
    unfold operators at h
    split at h
    · split at h
      · cases h
        exact sound
      · obtain ⟨⟨node, ts₁⟩, read, h⟩ := ok_of_bind h
        have lexed' := lexed.suffix (List.suffix_cons _ _)
        have left := (conditionalRest_consumes levels.consumes _ _ read).1
        exact ih (conditionalRest_builds levels sound _ lexed' read) (lexed'.suffix left) h
    · split at h
      · cases h
        exact sound
      · split at h
        · split at h
          next name _ =>
            have tested : (Node.instanceOf left name).Sound :=
              .of_parts trivial (List.forall_mem_singleton.mpr sound)
            exact ih tested (lexed.suffix ⟨[_, _], rfl⟩) h
          · cases h
        · cases h
    · split at h
      next op _ =>
        split at h
        · cases h
          exact sound
        · obtain ⟨⟨right, ts₁⟩, read, h⟩ := ok_of_bind h
          have lexed' := lexed.suffix (List.suffix_cons _ _)
          have taken := (levels.consumes.expression _ read).1
          have built := levels.expression _ lexed' read
          have joined : (Node.binary op left right).Sound := .of_parts trivial
            (List.forall_mem_cons.mpr ⟨sound, List.forall_mem_singleton.mpr built⟩)
          exact ih joined (lexed'.suffix taken) h
      · cases h
        exact sound
    · cases h
      exact sound

theorem expressionWith_builds (power : Nat) :
    Builds (expressionWith source level power) Node.Sound := by
  intro ts x rest lexed h
  obtain ⟨⟨left, ts₁⟩, read, h⟩ := ok_of_bind h
  have left := (operand_consumes levels.consumes read).1
  exact operators_builds levels power (operand_builds levels lexed read) _ (lexed.suffix left) h

omit levels in
theorem expression_builds (maxDepth depth power : Nat) :
    Builds (expression source maxDepth depth power) Node.Sound := by
  induction depth generalizing power with
  | zero => exact fun _ h => nomatch h
  | succ depth ih =>
    exact expressionWith_builds
      ⟨levelAt_consumes source maxDepth depth, ih, pattern_builds maxDepth depth⟩ power

end

/-- The value whose method a node calls. -/
def Node.receiver? : Node → Option Node
  | .method receiver .. => some receiver
  | _ => none

/-- The namespace whose function a node calls. -/
def Node.space? : Node → Option String
  | .namespaceCall space .. => some space
  | _ => none

/-- Whatever text a tree was parsed from, it is well formed at every node, and no call has both a
receiver and a namespace. -/
theorem parsed_nodes_shaped {text : String} {maxDepth : Nat} {tree : Node}
    (parsed : parseWithDepth text maxDepth = .ok tree) :
    ∀ node, Inside Node.parts tree node →
      node.Shaped ∧ (node.receiver? = none ∨ node.space? = none) := by
  obtain ⟨ts, read, parsed⟩ := ok_of_bind parsed
  obtain ⟨⟨node, rest⟩, whole, parsed⟩ := ok_of_bind parsed
  have lexed : Lexed ts := by
    intro t isIn
    exact (tokensOf_reads read).shaped t.token (List.mem_map.mpr ⟨t, isIn, rfl⟩)
  have sound := expression_builds _ _ _ lexed whole
  cases rest with
  | cons t rest => cases parsed
  | nil =>
    cases parsed
    intro part inside
    refine ⟨sound part inside, ?_⟩
    cases part <;> first | exact .inl rfl | exact .inr rfl

/-- A match on the value under test, in a filter of a path. -/
def kindTest : Node :=
  .matching (.path .current [.field "kind"])
    [(.array [.regex "^a" "gi", .wildcard] true [.null], .bool true), (.wildcard, .bool false)]

def kindPath : Node := .path (.name "items") [.filter kindTest, .field "name"]

def kindText : String :=
  "items[?(match @.kind \x7b[/^a/gi, _, ..., null] => true, _ => false\x7d)].name"

/-- The match in the filter has the shape of all nodes that are parsed. -/
theorem kind_test_shaped :
    parseWithDepth kindText 4 = .ok kindPath ∧ kindTest.Shaped ∧
      (kindTest.receiver? = none ∨ kindTest.space? = none) := by
  have parsed : parseWithDepth kindText 4 = .ok kindPath :=
    parseWithDepth_of_chars String.toList_ofList rfl
  have inside : Inside Node.parts kindPath kindTest :=
    .part .whole (List.mem_cons_of_mem _ List.mem_cons_self)
  exact ⟨parsed, parsed_nodes_shaped parsed kindTest inside⟩

end DocExpr.Expr
