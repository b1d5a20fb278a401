import DocExpr.Expr.Parser
import DocExpr.Proofs.Lexer.Mark

/-! Every reader that succeeds has taken at least one token from the front, and leaves the others
as they were. Loops may take none; their rounds do. -/
namespace DocExpr.Expr

/-- `rest` is what is left of `ts` after one token or more. -/
def Consumed (rest ts : List Spanned) : Prop := rest <:+ ts ∧ rest.length < ts.length

namespace Consumed
variable {rest middle ts : List Spanned}

theorem cons (t : Spanned) (left : rest <:+ ts) : Consumed rest (t :: ts) :=
  ⟨left.trans (List.suffix_cons t ts), Nat.lt_succ_of_le left.length_le⟩

theorem trans_suffix (first : Consumed rest middle) (second : middle <:+ ts) : Consumed rest ts :=
  ⟨first.1.trans second, Nat.lt_of_lt_of_le first.2 second.length_le⟩

theorem of_suffix (first : rest <:+ middle) (second : Consumed middle ts) : Consumed rest ts :=
  ⟨first.trans second.1, Nat.lt_of_le_of_lt first.length_le second.2⟩

theorem trans (first : Consumed rest middle) (second : Consumed middle ts) : Consumed rest ts :=
  .of_suffix first.1 second

theorem eq_nil_of_singleton {t : Spanned} (h : Consumed rest [t]) : rest = [] :=
  List.length_eq_zero_iff.mp (Nat.lt_one_iff.mp h.2)

theorem not_nil (h : Consumed rest []) : False := Nat.not_lt_zero _ h.2

end Consumed

/-- A reader that takes a token or more wherever it succeeds. -/
def Consumes {α : Type} (p : Parse α) : Prop :=
  ∀ {ts x rest}, p ts = .ok (x, rest) → Consumed rest ts

/-- All readers of a level do. -/
structure Level.Consumes (level : Level) : Prop where
  expression : ∀ power, Expr.Consumes (level.expression power)
  pattern : Expr.Consumes level.pattern

section
variable {source : List Char} {α : Type}

theorem expect_consumes (s : Symbol) (openedAt : Option Nat) :
    Consumes (expect source s openedAt) := by
  intro ts x rest h
  unfold expect at h
  split at h
  · split at h <;> cases h
  · split at h
    · split at h
      · cases h
        exact .cons _ (List.suffix_refl _)
      · cases h
    · cases h

theorem itemsUntil_suffix {close : Symbol} {item : List α → Parse α}
    (items : ∀ done, Consumes (item done)) {done : List α} {fuel : Nat} {ts : List Spanned}
    {xs : List α} {rest : List Spanned} (h : itemsUntil close item done fuel ts = .ok (xs, rest)) :
    rest <:+ ts := by
  induction fuel generalizing done ts with
  | zero =>
    cases h
    exact List.suffix_refl _
  | succ fuel ih =>
    rw [itemsUntil] at h
    split at h
    · cases h
      exact List.suffix_refl _
    · obtain ⟨⟨x, ts₁⟩, read, h⟩ := ok_of_bind h
      have taken := (items done read).1
      dsimp only at h
      split at h
      · exact (ih h).trans ((List.suffix_cons _ _).trans taken)
      · cases h
        exact taken

theorem enclosed_consumes (close : Symbol) {item : List α → Parse α}
    (items : ∀ done, Consumes (item done)) (openedAt : Nat) :
    Consumes (enclosed source close item openedAt) := by
  intro ts x rest h
  obtain ⟨⟨xs, ts₁⟩, read, h⟩ := ok_of_bind h
  obtain ⟨⟨⟨⟩, ts₂⟩, closed, h⟩ := ok_of_bind h
  cases h
  exact (expect_consumes close _ closed).trans_suffix (itemsUntil_suffix items read)

theorem patternKey_consumes (start : Nat) : Consumes (patternKey source start) := by
  intro ts x rest h
  unfold patternKey at h
  split at h
  · cases h
    exact .cons _ (List.suffix_refl _)
  · cases h
    exact .cons _ (List.suffix_refl _)
  · cases h
  · cases h

theorem spanPresence_suffix (ts : List Spanned) : (spanPresence ts).2 <:+ ts := by
  unfold spanPresence
  split
  · exact List.suffix_cons _ _
  · exact List.suffix_cons _ _
  · exact List.suffix_refl _

section
variable {inner : Parse Pattern} (inners : Consumes inner)
include inners

theorem objectPatternEntry_consumes (start : Nat) :
    Consumes (objectPatternEntry source inner start) := by
  intro ts x rest h
  obtain ⟨⟨key, ts₁⟩, keyed, h⟩ := ok_of_bind h
  obtain ⟨⟨⟨⟩, ts₂⟩, colon, h⟩ := ok_of_bind h
  obtain ⟨⟨value, ts₃⟩, read, h⟩ := ok_of_bind h
  have marked : Consumed ts₂ (spanPresence ts₁).2 := expect_consumes _ _ colon
  cases h
  exact (inners read).trans
    (marked.trans_suffix ((spanPresence_suffix ts₁).trans (patternKey_consumes _ keyed).1))

theorem arrayPatternItem_consumes (done : List (Option Pattern)) :
    Consumes (arrayPatternItem source inner done) := by
  intro ts x rest h
  unfold arrayPatternItem at h
  split at h
  · split at h
    · cases h
    · cases h
      exact .cons _ (List.suffix_refl _)
  · obtain ⟨⟨p, ts₁⟩, read, h⟩ := ok_of_bind h
    cases h
    exact inners read

theorem patternWith_consumes : Consumes (patternWith source inner) := by
  intro ts x rest h
  unfold patternWith at h
  dsimp only at h
  split at h
  case h_1 =>
    split at h
    · cases h
      exact .cons _ (List.suffix_refl _)
    · cases h
  case h_4 =>
    cases h
    exact .cons _ (List.suffix_cons _ _)
  case h_8 =>
    obtain ⟨⟨entries, ts₁⟩, read, h⟩ := ok_of_bind h
    cases h
    exact .cons _ (enclosed_consumes _ (fun _ => objectPatternEntry_consumes inners _) _ read).1
  case h_9 =>
    obtain ⟨⟨items, ts₁⟩, read, h⟩ := ok_of_bind h
    cases h
    exact .cons _ (enclosed_consumes _ (arrayPatternItem_consumes inners) _ read).1
  case h_10 => cases h
  all_goals
    cases h
    exact .cons _ (List.suffix_refl _)

end

theorem pattern_consumes (maxDepth depth : Nat) : Consumes (pattern source maxDepth depth) := by
  induction depth with
  | zero => exact fun h => nomatch h
  | succ depth ih => exact patternWith_consumes ih

theorem objectKey_consumes (start : Nat) : Consumes (objectKey source start) := by
  intro ts x rest h
  unfold objectKey at h
  split at h
  · cases h
  · split at h
    · cases h
      exact .cons _ (List.suffix_refl _)
    · cases h

theorem namesThenArrow?_suffix {ts : List Spanned} {names : List String} {rest : List Spanned}
    (h : namesThenArrow? ts = some (names, rest)) : rest <:+ ts := by
  fun_induction namesThenArrow? ts generalizing names with
  | case1 name _ _ ts ih =>
    obtain ⟨⟨names, ts'⟩, found, same⟩ := Option.map_eq_some_iff.mp h
    cases same
    exact (ih found).trans ((List.suffix_cons _ _).trans (List.suffix_cons _ _))
  | case2 name _ _ _ ts =>
    cases h
    exact ⟨[_, _, _], rfl⟩
  | case3 => cases h

theorem parameters?_suffix {ts : List Spanned} {names : List String} {rest : List Spanned}
    (h : parameters? ts = some (names, rest)) : rest <:+ ts := by
  unfold parameters? at h
  split at h
  · cases h
    exact ⟨[_, _], rfl⟩
  · exact namesThenArrow?_suffix h

variable {level : Level} (levels : level.Consumes)
include levels

theorem arguments_consumes : Consumes (arguments source level) := by
  intro ts x rest h
  unfold arguments at h
  obtain ⟨⟨⟨⟩, ts₁⟩, opened, h⟩ := ok_of_bind h
  obtain ⟨⟨args, ts₂⟩, read, h⟩ := ok_of_bind h
  have taken := itemsUntil_suffix (fun _ => levels.expression 0) read
  dsimp only at h
  split at h
  · cases h
    exact .of_suffix ((List.suffix_cons _ _).trans taken) (expect_consumes _ _ opened)
  · cases h
  · cases h

theorem objectEntry_consumes (start : Nat) : Consumes (objectEntry source level start) := by
  intro ts x rest h
  obtain ⟨⟨key, ts₁⟩, keyed, h⟩ := ok_of_bind h
  obtain ⟨⟨⟨⟩, ts₂⟩, colon, h⟩ := ok_of_bind h
  obtain ⟨⟨value, ts₃⟩, read, h⟩ := ok_of_bind h
  cases h
  exact ((levels.expression 0 read).trans (expect_consumes _ _ colon)).trans
    (objectKey_consumes _ keyed)

theorem lambdaBody_consumes (params : List String) : Consumes (lambdaBody level params) := by
  intro ts x rest h
  obtain ⟨⟨body, ts₁⟩, read, h⟩ := ok_of_bind h
  cases h
  exact levels.expression 0 read

theorem matchArm_consumes (braceAt : Nat) (done : List (Pattern × Node)) :
    Consumes (matchArm source level braceAt done) := by
  intro ts x rest h
  unfold matchArm at h
  split at h
  · cases h
  · obtain ⟨⟨p, ts₁⟩, pattern, h⟩ := ok_of_bind h
    dsimp only at h
    split at h
    · cases h
    · obtain ⟨⟨⟨⟩, ts₂⟩, arrow, h⟩ := ok_of_bind h
      obtain ⟨⟨body, ts₃⟩, read, h⟩ := ok_of_bind h
      cases h
      exact ((levels.expression 0 read).trans (expect_consumes _ _ arrow)).trans
        (levels.pattern pattern)

theorem matching_consumes (start : Nat) : Consumes (matching source level start) := by
  intro ts x rest h
  obtain ⟨⟨subject, ts₁⟩, read, h⟩ := ok_of_bind h
  obtain ⟨⟨⟨⟩, ts₂⟩, opened, h⟩ := ok_of_bind h
  obtain ⟨⟨arms, ts₃⟩, listed, h⟩ := ok_of_bind h
  have taken := enclosed_consumes _ (matchArm_consumes levels _) _ listed
  dsimp only at h
  split at h
  · cases h
  · cases h
    exact (taken.trans (expect_consumes _ _ opened)).trans (levels.expression 0 read)

theorem namespaceMember_consumes (space : String) :
    Consumes (namespaceMember source level space) := by
  intro ts x rest h
  unfold namespaceMember at h
  split at h
  · split at h
    · obtain ⟨⟨args, ts₁⟩, read, h⟩ := ok_of_bind h
      cases h
      exact .cons _ (arguments_consumes levels read).1
    · cases h
      exact .cons _ (List.suffix_refl _)
  · cases h

/-- Behind a name there may be nothing to take. -/
theorem afterName_suffix {name : String} {start : Nat} {ts : List Spanned} {node : Node}
    {rest : List Spanned} (h : afterName source level name start ts = .ok (node, rest)) :
    rest <:+ ts := by
  unfold afterName at h
  split at h
  · exact (Consumed.cons _ (lambdaBody_consumes levels _ h).1).1
  · obtain ⟨⟨args, ts₁⟩, read, h⟩ := ok_of_bind h
    cases h
    exact (arguments_consumes levels read).1
  · cases h
    exact List.suffix_refl _
  · split at h
    · exact (matching_consumes levels _ h).1
    · split at h
      · exact (Consumed.cons _ (namespaceMember_consumes levels _ h).1).1
      · cases h
        exact List.suffix_refl _
  · split at h
    · exact (matching_consumes levels _ h).1
    · cases h
      exact List.suffix_refl _

theorem primary_consumes : Consumes (primary source level) := by
  intro ts x rest h
  unfold primary at h
  split at h
  case h_8 =>
    split at h
    next params ts₁ found =>
      exact .cons _ ((lambdaBody_consumes levels _ h).1.trans (parameters?_suffix found))
    next =>
      obtain ⟨⟨inner, ts₁⟩, read, h⟩ := ok_of_bind h
      obtain ⟨⟨⟨⟩, ts₂⟩, closed, h⟩ := ok_of_bind h
      cases h
      exact .cons _ ((expect_consumes _ _ closed).trans (levels.expression 0 read)).1
  case h_9 =>
    obtain ⟨⟨items, ts₁⟩, read, h⟩ := ok_of_bind h
    cases h
    exact .cons _ (enclosed_consumes _ (fun _ => levels.expression 0) _ read).1
  case h_10 =>
    obtain ⟨⟨entries, ts₁⟩, read, h⟩ := ok_of_bind h
    cases h
    exact .cons _ (enclosed_consumes _ (fun _ => objectEntry_consumes levels _) _ read).1
  case h_11 => exact .cons _ (afterName_suffix levels h)
  case h_12 => cases h
  all_goals
    cases h
    exact .cons _ (List.suffix_refl _)

theorem computed_consumes : Consumes (fun ts => do
    let (key, ts) ← level.expression 0 ts
    return (Segment.dynamic key, ts)) := by
  intro ts x rest h
  obtain ⟨⟨key, ts₁⟩, read, h⟩ := ok_of_bind h
  cases h
  exact levels.expression 0 read

theorem bracketSegment_consumes (start : Nat) : Consumes (bracketSegment source level start) := by
  intro ts x rest h
  unfold bracketSegment at h
  dsimp only at h
  split at h
  case h_4 => cases h
  case h_5 =>
    obtain ⟨⟨predicate, ts₁⟩, read, h⟩ := ok_of_bind h
    have taken := (levels.expression 0 read).1
    dsimp only at h
    split at h
    · cases h
      exact .cons _ ((List.suffix_cons _ _).trans (taken.trans (List.suffix_cons _ _)))
    · cases h
  case h_6 => cases h
  case h_7 => exact computed_consumes levels h
  all_goals
    split at h
    · cases h
      exact .cons _ (List.suffix_refl _)
    · exact computed_consumes levels h

theorem postfixes_suffix {fuel : Nat} {node : Node} {ts : List Spanned} {x : Node}
    {rest : List Spanned} (h : postfixes source level fuel node ts = .ok (x, rest)) :
    rest <:+ ts := by
  induction fuel generalizing node ts with
  | zero =>
    cases h
    exact List.suffix_refl _
  | succ fuel ih =>
    unfold postfixes at h
    split at h
    · exact (ih h).trans ⟨[_, _], rfl⟩
    · split at h
      · split at h
        · split at h
          · obtain ⟨⟨args, ts₁⟩, read, h⟩ := ok_of_bind h
            exact (ih h).trans ((arguments_consumes levels read).1.trans ⟨[_, _], rfl⟩)
          · exact (ih h).trans ⟨[_, _], rfl⟩
        · cases h
      · cases h
    · split at h
      · exact (ih h).trans ⟨[_, _], rfl⟩
      · cases h
    · obtain ⟨⟨segment, ts₁⟩, read, h⟩ := ok_of_bind h
      have taken := (bracketSegment_consumes levels _ read).1
      dsimp only at h
      split at h
      · exact (ih h).trans
          ((List.suffix_cons _ _).trans (taken.trans (List.suffix_cons _ _)))
      · cases h
    · cases h
      exact List.suffix_refl _

theorem plainOperand_consumes : Consumes (fun ts => do
    let (node, ts) ← primary source level ts
    postfixes source level (ts.length + 1) node ts) := by
  intro ts x rest h
  obtain ⟨⟨node, ts₁⟩, read, h⟩ := ok_of_bind h
  exact .of_suffix (postfixes_suffix levels h) (primary_consumes levels read)

theorem operand_consumes : Consumes (operand source level) := by
  intro ts x rest h
  unfold operand at h
  dsimp only at h
  split at h
  · split at h
    · obtain ⟨⟨node, ts₁⟩, read, h⟩ := ok_of_bind h
      cases h
      exact .cons _ (levels.expression _ read).1
    · exact plainOperand_consumes levels h
  · exact plainOperand_consumes levels h

theorem conditionalRest_consumes (condition : Node) (start : Nat) :
    Consumes (conditionalRest source level condition start) := by
  intro ts x rest h
  obtain ⟨⟨thenBranch, ts₁⟩, read, h⟩ := ok_of_bind h
  have taken := levels.expression 0 read
  dsimp only at h
  split at h
  · obtain ⟨⟨elseBranch, ts₂⟩, last, h⟩ := ok_of_bind h
    cases h
    exact ((levels.expression _ last).trans_suffix (List.suffix_cons _ _)).trans taken
  · cases h
  · cases h

omit levels in
/-- A symbol other than a question mark goes on with the operands if it spells an operator. -/
theorem operators_symbol {s : Symbol} (other : s ≠ .question) (power fuel offset : Nat)
    (left : Node) (ts : List Spanned) :
    operators source level power (fuel + 1) left (⟨.symbol s, offset⟩ :: ts) =
      match s.binaryOp? with
      | some op =>
        if op.power < power then .ok (left, ⟨.symbol s, offset⟩ :: ts)
        else do
          let (right, ts) ← level.expression (op.power + 1) ts
          operators source level power fuel (.binary op left right) ts
      | none => .ok (left, ⟨.symbol s, offset⟩ :: ts) := by
  cases s with
  | question => exact absurd rfl other
  | _ => rfl

theorem operators_suffix {power fuel : Nat} {left : Node} {ts : List Spanned} {x : Node}
    {rest : List Spanned} (h : operators source level power fuel left ts = .ok (x, rest)) :
    rest <:+ ts := by
  induction fuel generalizing left ts with
  | zero =>
    cases h
    exact List.suffix_refl _
  | succ fuel ih =>
    unfold operators at h
    split at h
    · split at h
      · cases h
        exact List.suffix_refl _
      · obtain ⟨⟨node, ts₁⟩, read, h⟩ := ok_of_bind h
        exact (ih h).trans
          ((conditionalRest_consumes levels _ _ read).1.trans (List.suffix_cons _ _))
    · split at h
      · cases h
        exact List.suffix_refl _
      · split at h
        · split at h
          · exact (ih h).trans ⟨[_, _], rfl⟩
          · cases h
        · cases h
    · split at h
      · split at h
        · cases h
          exact List.suffix_refl _
        · obtain ⟨⟨right, ts₁⟩, read, h⟩ := ok_of_bind h
          exact (ih h).trans ((levels.expression _ read).1.trans (List.suffix_cons _ _))
      · cases h
        exact List.suffix_refl _
    · cases h
      exact List.suffix_refl _

theorem expressionWith_consumes (power : Nat) : Consumes (expressionWith source level power) := by
  intro ts x rest h
  obtain ⟨⟨left, ts₁⟩, read, h⟩ := ok_of_bind h
  exact .of_suffix (operators_suffix levels h) (operand_consumes levels read)

omit levels in
theorem expression_consumes (maxDepth depth power : Nat) :
    Consumes (expression source maxDepth depth power) := by
  induction depth generalizing power with
  | zero => exact fun h => nomatch h
  | succ depth ih => exact expressionWith_consumes ⟨ih, pattern_consumes maxDepth depth⟩ power

end

/-- The readers that an expression uses for its parts. -/
def levelAt (source : List Char) (maxDepth depth : Nat) : Level :=
  ⟨expression source maxDepth depth, pattern source maxDepth depth⟩

theorem levelAt_consumes (source : List Char) (maxDepth depth : Nat) :
    (levelAt source maxDepth depth).Consumes :=
  ⟨expression_consumes maxDepth depth, pattern_consumes maxDepth depth⟩

/-- A text is read by its characters. Those of a literal stand in it: computing `toList` would
decode them from its bytes. -/
theorem parseWithDepth_of_chars {text : String} {cs : List Char} {depth : Nat} {tree : Node}
    (chars : text.toList = cs) (parsed : (tokensOf cs >>= parseTokens cs depth) = .ok tree) :
    parseWithDepth text depth = .ok tree := by
  rw [parseWithDepth, chars, parsed]

end DocExpr.Expr
