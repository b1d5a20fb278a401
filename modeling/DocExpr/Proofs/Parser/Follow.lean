import DocExpr.Proofs.Parser.Consumption

/-! The same tokens at other places of another text, with more tokens behind them, and the readers
that give the same there. Lists, patterns, keys and parameters do whatever follows, up to the arrow
behind parameters, which no mark of a list can be taken for. -/
namespace DocExpr.Expr

/-- The trees that an accessor holds. -/
def Segment.parts : Segment → List Node
  | .filter predicate => [predicate]
  | .dynamic key => [key]
  | _ => []

/-- The trees that a tree holds directly. -/
def Node.parts : Node → List Node
  | .path base segments => base :: segments.flatMap Segment.parts
  | .call _ args | .namespaceCall _ _ args => args
  | .method receiver _ args => receiver :: args
  | .binary _ left right => [left, right]
  | .unary _ operand => [operand]
  | .instanceOf value _ => [value]
  | .conditional condition thenBranch elseBranch => [condition, thenBranch, elseBranch]
  | .matching subject arms => subject :: arms.map (·.2)
  | .lambda _ body => [body]
  | .array items => items
  | .object entries => entries.map (·.2)
  | _ => []

/-- The tree uses a name as a variable somewhere. -/
inductive Node.Mentions (name : String) : Node → Prop where
  | here : Mentions name (.name name)
  | inside {part node : Node} (isPart : part ∈ node.parts) (mention : Mentions name part) :
      Mentions name node

theorem Node.mentions_name {name other : String} (h : (Node.name other).Mentions name) :
    other = name := by
  generalize whole : Node.name other = node at h
  cases h with
  | here =>
    cases whole
    rfl
  | inside isPart =>
    subst whole
    cases isPart

theorem Node.unmentioned {name : String} {node : Node} (other : node ≠ .name name)
    (parts : ∀ part ∈ node.parts, ¬ part.Mentions name) : ¬ node.Mentions name := by
  intro mention
  cases mention with
  | here => exact other rfl
  | inside isPart mention => exact parts _ isPart mention

/-- `ts'` has the tokens of `ts`, perhaps at other places, and `more` behind them. -/
inductive Followed (more : List Spanned) : List Spanned → List Spanned → Prop where
  | nil : Followed more [] more
  | cons {ts ts' : List Spanned} (token : Token) (offset offset' : Nat)
      (tail : Followed more ts ts') :
      Followed more (⟨token, offset⟩ :: ts) (⟨token, offset'⟩ :: ts')

/-- The marks that may follow a part of a list. -/
def closers : List Symbol := [.comma, .rightParen, .rightBracket, .rightBrace]

/-- What reads as a token and others starts with that token, somewhere in the text. -/
theorem front_of_tokens {t : Token} {tokens : List Token} {ts : List Spanned}
    (same : ts.map (·.token) = t :: tokens) :
    ∃ offset rest, ts = ⟨t, offset⟩ :: rest ∧ rest.map (·.token) = tokens := by
  obtain ⟨⟨token, offset⟩, rest, rfl, head, tail⟩ := List.map_eq_cons_iff.mp same
  cases head
  exact ⟨offset, rest, rfl, tail⟩

/-- The marks that may follow a whole expression: those of a list, and the brace behind the subject
of a match. -/
def stops : List Symbol := .leftBrace :: closers

theorem stops_of_closers {s : Symbol} (closes : s ∈ closers) : s ∈ stops :=
  List.mem_cons_of_mem _ closes

/-- Nothing follows, or one of these marks does. -/
inductive Closed : List Spanned → Prop where
  | nil : Closed []
  | mark (s : Symbol) (offset : Nat) (ts : List Spanned) (isStop : s ∈ stops) :
      Closed (⟨.symbol s, offset⟩ :: ts)

section
variable {more ts ts' : List Spanned}

theorem Followed.length (follow : Followed more ts ts') :
    ts'.length = ts.length + more.length := by
  induction follow with
  | nil => exact (Nat.zero_add _).symm
  | cons token offset offset' tail ih =>
    simp only [List.length_cons, ih]
    omega

theorem Followed.startsWith (follow : Followed more ts ts') (goesOn : ts ≠ []) (s : Symbol) :
    startsWith s ts' = startsWith s ts := by
  cases follow with
  | nil => exact absurd rfl goesOn
  | cons token offset offset' tail =>
    unfold Expr.startsWith
    cases token <;> rfl

theorem Closed.startsWith (closed : Closed more) {s : Symbol} (other : s ∉ stops) :
    startsWith s more = false := by
  cases closed with
  | nil => rfl
  | mark s' offset ts isStop =>
    refine decide_eq_false ?_
    rintro rfl
    exact other isStop

theorem startsWith_followed (follow : Followed more ts ts') (closed : Closed more) {s : Symbol}
    (other : s ∉ stops) : startsWith s ts' = startsWith s ts := by
  cases ts with
  | nil =>
    cases follow
    exact closed.startsWith other
  | cons t ts => exact follow.startsWith (List.cons_ne_nil t ts) s

end

/-- Where `p` succeeds on some tokens, `p'` gives the same on the tokens with `more` behind them; if
`p` leaves nothing, this is asked only of results that are `Kept`. -/
def Stable {α : Type} (more : List Spanned) (Kept : α → Prop) (p p' : Parse α) : Prop :=
  ∀ {ts ts' x rest}, Followed more ts ts' → p ts = .ok (x, rest) → (rest = [] → Kept x) →
    ∃ rest', p' ts' = .ok (x, rest') ∧ Followed more rest rest'

/-- Nothing follows that could turn a name at the end of the tree into a keyword. -/
def Settled (more : List Spanned) (node : Node) : Prop := more = [] ∨ ¬ node.Mentions "match"

theorem Settled.part {more : List Spanned} {part node : Node} (settled : Settled more node)
    (isPart : part ∈ node.parts) : Settled more part :=
  settled.imp_right fun free mention => free (.inside isPart mention)

section
variable {more : List Spanned} {source source' : List Char} {α : Type}

theorem expect_stable (s : Symbol) (openedAt openedAt' : Option Nat) :
    Stable more (fun _ => True) (expect source s openedAt) (expect source' s openedAt') := by
  intro ts ts' x rest follow h _
  cases follow with
  | nil => exact (expect_consumes _ _ h).not_nil.elim
  | cons token offset offset' tail =>
    unfold expect at h ⊢
    cases token with
    | symbol s' =>
      dsimp only at h ⊢
      split at h
      next same =>
        cases h
        exact ⟨_, if_pos same, tail⟩
      next => cases h
    | _ => cases h

/-- A list that something follows is read alike. -/
theorem itemsUntil_stable {close : Symbol} {item item' : List α → Parse α} {Kept : α → Prop}
    (items : ∀ done, Stable more Kept (item done) (item' done))
    (taking : ∀ done, Consumes (item done)) {done : List α} {fuel fuel' : Nat}
    {ts ts' : List Spanned} {xs : List α} {rest : List Spanned} (follow : Followed more ts ts')
    (enough : ts.length < fuel) (enough' : ts.length + more.length < fuel')
    (h : itemsUntil close item done fuel ts = .ok (xs, rest)) (goesOn : rest ≠ []) :
    ∃ rest', itemsUntil close item' done fuel' ts' = .ok (xs, rest') ∧
      Followed more rest rest' := by
  induction fuel generalizing done ts ts' fuel' with
  | zero => exact absurd enough (Nat.not_lt_zero _)
  | succ fuel ih =>
    obtain ⟨fuel', rfl⟩ : ∃ n, fuel' = n + 1 := ⟨fuel' - 1, by omega⟩
    rw [itemsUntil] at h ⊢
    split at h
    next starts =>
      cases h
      rw [follow.startsWith goesOn, if_pos starts]
      exact ⟨ts', rfl, follow⟩
    next other =>
      obtain ⟨⟨x, ts₁⟩, read, h⟩ := ok_of_bind h
      have taken := taking done read
      have start : ts ≠ [] := by
        rintro rfl
        exact taken.not_nil
      rw [follow.startsWith start, if_neg other]
      cases ts₁ with
      | nil =>
        cases h
        exact absurd rfl goesOn
      | cons t ts₂ =>
        have kept : t :: ts₂ = [] → Kept x := fun none => absurd none (List.cons_ne_nil t ts₂)
        obtain ⟨ts₁', read', follow₁⟩ := items done follow read kept
        have shorter : (t :: ts₂).length < ts.length := taken.2
        cases follow₁ with
        | cons token offset offset' tail =>
        rw [List.length_cons] at shorter
        dsimp only at h
        split at h
        next found =>
          cases found
          have enough' : ts₂.length + more.length < fuel' := by omega
          obtain ⟨rest', read₂, follow₂⟩ := ih tail (by omega) enough' h
          exact ⟨rest', bind_ok read' read₂, follow₂⟩
        next other =>
          cases h
          refine ⟨_, bind_ok read' ?_, .cons token offset offset' tail⟩
          dsimp only
          split
          next found =>
            cases found
            exact (other _ _ rfl).elim
          next => rfl

theorem enclosed_stable (close : Symbol) {item item' : List α → Parse α} {Kept : α → Prop}
    (items : ∀ done, Stable more Kept (item done) (item' done))
    (taking : ∀ done, Consumes (item done)) (openedAt openedAt' : Nat) :
    Stable more (fun _ => True) (enclosed source close item openedAt)
      (enclosed source' close item' openedAt') := by
  intro ts ts' x rest follow h _
  obtain ⟨⟨xs, ts₁⟩, read, h⟩ := ok_of_bind h
  obtain ⟨⟨⟨⟩, ts₂⟩, closed, h⟩ := ok_of_bind h
  cases h
  have goesOn : ts₁ ≠ [] := by
    rintro rfl
    exact (expect_consumes _ _ closed).not_nil
  have enough : ts.length + more.length < ts'.length + 1 := by
    rw [follow.length]
    exact Nat.lt_succ_self _
  obtain ⟨_, read', follow₁⟩ :=
    itemsUntil_stable items taking follow (Nat.lt_succ_self _) enough read goesOn
  obtain ⟨rest', closed', follow₂⟩ :=
    expect_stable close _ (some openedAt') follow₁ closed fun _ => trivial
  exact ⟨rest', bind_ok read' (bind_ok closed' rfl), follow₂⟩

theorem patternKey_stable (start start' : Nat) :
    Stable more (fun _ => True) (patternKey source start) (patternKey source' start') := by
  intro ts ts' x rest follow h _
  cases follow with
  | nil => exact (patternKey_consumes _ h).not_nil.elim
  | cons token offset offset' tail =>
    cases token with
    | string | identifier =>
      cases h
      exact ⟨_, rfl, tail⟩
    | _ => cases h

theorem spanPresence_stable {ts ts' : List Spanned} (follow : Followed more ts ts')
    (goesOn : ts ≠ []) : (spanPresence ts').1 = (spanPresence ts).1 ∧
      Followed more (spanPresence ts).2 (spanPresence ts').2 := by
  cases follow with
  | nil => exact absurd rfl goesOn
  | cons token offset offset' tail =>
    unfold spanPresence
    split
    next found =>
      cases found
      exact ⟨rfl, tail⟩
    next found =>
      cases found
      exact ⟨rfl, tail⟩
    next question bang =>
      split
      next found =>
        cases found
        exact (question _ _ rfl).elim
      next found =>
        cases found
        exact (bang _ _ rfl).elim
      next => exact ⟨rfl, .cons token offset offset' tail⟩

section
variable {inner inner' : Parse Pattern} (inners : Stable more (fun _ => True) inner inner')
include inners

theorem objectPatternEntry_stable (start start' : Nat) :
    Stable more (fun _ => True) (objectPatternEntry source inner start)
      (objectPatternEntry source' inner' start') := by
  intro ts ts' x rest follow h _
  obtain ⟨⟨key, ts₁⟩, keyed, h⟩ := ok_of_bind h
  obtain ⟨⟨⟨⟩, ts₂⟩, colon, h⟩ := ok_of_bind h
  obtain ⟨⟨value, ts₃⟩, read, h⟩ := ok_of_bind h
  cases h
  have goesOn : ts₁ ≠ [] := by
    rintro rfl
    exact (expect_consumes _ _ colon).not_nil
  obtain ⟨ts₁', keyed', follow₁⟩ := patternKey_stable start start' follow keyed fun _ => trivial
  obtain ⟨same, marked⟩ := spanPresence_stable follow₁ goesOn
  obtain ⟨ts₂', colon', follow₂⟩ := expect_stable _ none none marked colon fun _ => trivial
  obtain ⟨ts₃', read', follow₃⟩ := inners follow₂ read fun _ => trivial
  refine ⟨ts₃', bind_ok keyed' (bind_ok colon' (bind_ok read' ?_)), follow₃⟩
  exact congrArg (fun presence => Except.ok ((key, presence, value), ts₃')) same

variable (taking : Consumes inner)
include taking

theorem arrayPatternItem_stable (done : List (Option Pattern)) :
    Stable more (fun _ => True) (arrayPatternItem source inner done)
      (arrayPatternItem source' inner' done) := by
  intro ts ts' x rest follow h _
  cases follow with
  | nil => exact (arrayPatternItem_consumes taking done h).not_nil.elim
  | cons token offset offset' tail =>
    unfold arrayPatternItem at h ⊢
    split at h
    next found =>
      cases found
      split at h
      · cases h
      next single =>
        cases h
        exact ⟨_, if_neg single, tail⟩
    next plain =>
      obtain ⟨⟨p, ts₁⟩, read, h⟩ := ok_of_bind h
      cases h
      obtain ⟨ts₁', read', follow₁⟩ :=
        inners (.cons token offset offset' tail) read fun _ => trivial
      refine ⟨ts₁', ?_, follow₁⟩
      split
      next found =>
        cases found
        exact (plain _ _ rfl).elim
      next => exact bind_ok read' rfl

theorem patternWith_stable :
    Stable more (fun _ => True) (patternWith source inner) (patternWith source' inner') := by
  intro ts ts' x rest follow h _
  cases follow with
  | nil => exact (patternWith_consumes taking h).not_nil.elim
  | cons token offset offset' tail =>
    cases token with
    | identifier name =>
      unfold patternWith at h ⊢
      dsimp only at h ⊢
      split at h
      next wildcard =>
        cases h
        exact ⟨_, if_pos wildcard, tail⟩
      next => cases h
    | symbol s =>
      cases s with
      | minus =>
        cases tail with
        | nil => cases h
        | cons token _ _ tail =>
          cases token with
          | number x =>
            cases h
            exact ⟨_, rfl, tail⟩
          | _ => cases h
      | leftBrace =>
        obtain ⟨⟨entries, ts₁⟩, read, h⟩ := ok_of_bind h
        cases h
        obtain ⟨ts₁', read', follow₁⟩ := enclosed_stable _
          (fun _ => objectPatternEntry_stable inners offset offset')
          (fun _ => objectPatternEntry_consumes taking _) offset offset' tail read
          fun _ => trivial
        exact ⟨ts₁', bind_ok read' rfl, follow₁⟩
      | leftBracket =>
        obtain ⟨⟨items, ts₁⟩, read, h⟩ := ok_of_bind h
        cases h
        obtain ⟨ts₁', read', follow₁⟩ := enclosed_stable _
          (arrayPatternItem_stable inners taking) (arrayPatternItem_consumes taking)
          offset offset' tail read fun _ => trivial
        exact ⟨ts₁', bind_ok read' rfl, follow₁⟩
      | _ => cases h
    | _ =>
      cases h
      exact ⟨_, rfl, tail⟩

end

/-- More nesting may be allowed. -/
theorem pattern_stable {maxDepth maxDepth' depth depth' : Nat} (deeper : depth ≤ depth') :
    Stable more (fun _ => True) (pattern source maxDepth depth)
      (pattern source' maxDepth' depth') := by
  induction depth generalizing depth' with
  | zero =>
    intro ts ts' x rest follow h _
    cases h
  | succ depth ih =>
    obtain ⟨depth', rfl⟩ := Nat.exists_eq_add_of_le' (Nat.le_of_add_left_le deeper)
    exact patternWith_stable (ih (Nat.le_of_add_le_add_right deeper))
      (pattern_consumes maxDepth depth)

theorem objectKey_stable (start start' : Nat) :
    Stable more (fun _ => True) (objectKey source start) (objectKey source' start') := by
  intro ts ts' x rest follow h _
  cases follow with
  | nil => exact (objectKey_consumes _ h).not_nil.elim
  | cons token offset offset' tail =>
    unfold objectKey at h ⊢
    dsimp only at h ⊢
    split at h
    next key found =>
      cases h
      exact ⟨_, rfl, tail⟩
    next => cases h

theorem namesThenArrow?_stable {ts ts' : List Spanned} (follow : Followed more ts ts')
    {names : List String} {rest : List Spanned} (h : namesThenArrow? ts = some (names, rest)) :
    ∃ rest', namesThenArrow? ts' = some (names, rest') ∧ Followed more rest rest' := by
  fun_induction namesThenArrow? ts generalizing names ts' with
  | case1 name _ _ ts ih =>
    obtain ⟨⟨names, ts₁⟩, found, same⟩ := Option.map_eq_some_iff.mp h
    cases same
    cases follow with
    | cons _ _ _ follow =>
    cases follow with
    | cons _ _ _ follow =>
    obtain ⟨rest', found', follow₁⟩ := ih follow found
    refine ⟨rest', ?_, follow₁⟩
    rw [namesThenArrow?, found']
    rfl
  | case2 name _ _ _ ts =>
    cases h
    cases follow with
    | cons _ _ _ follow =>
    cases follow with
    | cons _ _ _ follow =>
    cases follow with
    | cons _ _ _ follow => exact ⟨_, rfl, follow⟩
  | case3 => cases h

theorem Closed.not_arrow {offset : Nat} {ts : List Spanned}
    (closed : Closed (⟨.symbol .arrow, offset⟩ :: ts)) : False := by
  cases closed with
  | mark s offset ts isStop => exact absurd isStop (by decide)

/-- Behind a closed parenthesis there is no arrow unless there was one. -/
theorem namesThenArrow?_none {ts ts' : List Spanned} (follow : Followed more ts ts')
    (closed : Closed more) (close : ∃ t ∈ ts, t.token = .symbol .rightParen)
    (h : namesThenArrow? ts = none) : namesThenArrow? ts' = none := by
  obtain ⟨t, isIn, closes⟩ := close
  fun_induction namesThenArrow? ts' generalizing ts with
  | case1 name _ _ ts' ih =>
    cases follow with
    | nil => cases isIn
    | cons _ _ _ follow =>
    rcases List.mem_cons.mp isIn with rfl | isIn
    · cases closes
    cases follow with
    | nil => cases isIn
    | cons _ _ _ follow =>
    rcases List.mem_cons.mp isIn with rfl | isIn
    · cases closes
    rw [namesThenArrow?, Option.map_eq_none_iff] at h
    rw [ih follow h isIn]
    rfl
  | case2 name _ _ _ ts' =>
    cases follow with
    | nil => cases isIn
    | cons _ _ _ follow =>
    rcases List.mem_cons.mp isIn with rfl | isIn
    · cases closes
    cases follow with
    | nil => cases isIn
    | cons _ _ _ follow =>
    cases follow with
    | nil => exact closed.not_arrow.elim
    | cons _ _ _ follow => cases h
  | case3 => rfl

theorem parameters?_of_names {ts : List Spanned} {found : List String × List Spanned}
    (h : namesThenArrow? ts = some found) : parameters? ts = some found := by
  unfold parameters?
  split
  · cases h
  · exact h

theorem parameters?_stable {ts ts' : List Spanned} (follow : Followed more ts ts')
    {names : List String} {rest : List Spanned} (h : parameters? ts = some (names, rest)) :
    ∃ rest', parameters? ts' = some (names, rest') ∧ Followed more rest rest' := by
  unfold parameters? at h
  split at h
  · cases h
    cases follow with
    | cons _ _ _ follow =>
    cases follow with
    | cons _ _ _ follow => exact ⟨_, rfl, follow⟩
  · obtain ⟨rest', found, follow₁⟩ := namesThenArrow?_stable follow h
    exact ⟨rest', parameters?_of_names found, follow₁⟩

theorem parameters?_none {ts ts' : List Spanned} (follow : Followed more ts ts')
    (closed : Closed more) (close : ∃ t ∈ ts, t.token = .symbol .rightParen)
    (h : parameters? ts = none) : parameters? ts' = none := by
  have noNames : namesThenArrow? ts = none := by
    cases found : namesThenArrow? ts with
    | none => rfl
    | some names =>
      rw [parameters?_of_names found] at h
      cases h
  unfold parameters?
  split
  · cases follow with
    | nil =>
      obtain ⟨t, isIn, -⟩ := close
      cases isIn
    | cons _ _ _ follow =>
    cases follow with
    | nil => exact closed.not_arrow.elim
    | cons _ _ _ follow => cases h
  · exact namesThenArrow?_none follow closed close noNames

/-- A symbol that is passed over is there. -/
theorem closes_of_expect {s : Symbol} {openedAt : Option Nat} {middle ts rest : List Spanned}
    (left : middle <:+ ts) (h : expect source s openedAt middle = .ok ((), rest)) :
    ∃ t ∈ ts, t.token = .symbol s := by
  unfold expect at h
  split at h
  · split at h <;> cases h
  next t rest =>
    split at h
    next s' found =>
      split at h
      next same => exact ⟨t, left.subset List.mem_cons_self, found.trans (by rw [same])⟩
      next => cases h
    next => cases h

end
end DocExpr.Expr
