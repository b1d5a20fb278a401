import DocExpr.Proofs.Parser.Consumption

/-! Two texts with the same tokens, perhaps in other places. A reader finds the same in both texts,
or fails in both, as long as the readers of the next level do so; and those are asked only on tokens
that are left after one token or more. What it means for two places or two errors to correspond is
left open. -/
namespace DocExpr.Expr

/-- Which places of two texts correspond, and which errors: the same fault at corresponding places
does. -/
structure Correspondence (source source' : List Char) where
  place : Nat → Nat → Prop
  error : EvalError → EvalError → Prop
  ends : place source.length source'.length
  fault : ∀ (fault : TextFault) {offset offset' : Nat}, place offset offset' →
    error (faultAt source fault offset) (faultAt source' fault offset')
  pathFault : ∀ (fault : TextFault) {offset offset' : Nat}, place offset offset' →
    error (pathFaultAt source fault offset) (pathFaultAt source' fault offset')

namespace Correspondence
section
variable {source source' : List Char} (c : Correspondence source source')

/-- The same tokens in corresponding places. -/
inductive Tokens : List Spanned → List Spanned → Prop where
  | nil : Tokens [] []
  | cons {ts ts' : List Spanned} (token : Token) {offset offset' : Nat}
      (here : c.place offset offset') (tail : Tokens ts ts') :
      Tokens (⟨token, offset⟩ :: ts) (⟨token, offset'⟩ :: ts')

/-- The same is found in front of the same tokens, or both fail alike. -/
inductive Agree {α : Type} :
    Except EvalError (α × List Spanned) → Except EvalError (α × List Spanned) → Prop where
  | found (x : α) {rest rest' : List Spanned} (left : c.Tokens rest rest') :
      Agree (.ok (x, rest)) (.ok (x, rest'))
  | failed {e e' : EvalError} (alike : c.error e e') : Agree (.error e) (.error e')

/-- Two readers agree on everything that is left of `whole` after one token or more. -/
def Agreeing {α : Type} (whole : List Spanned) (p p' : Parse α) : Prop :=
  ∀ {ts ts'}, Consumed ts whole → c.Tokens ts ts' → c.Agree (p ts) (p' ts')

/-- All readers of two levels do. -/
structure Levels (whole : List Spanned) (level level' : Level) : Prop where
  expression : ∀ power, c.Agreeing whole (level.expression power) (level'.expression power)
  pattern : c.Agreeing whole level.pattern level'.pattern

end

section
variable {source source' : List Char} {c : Correspondence source source'} {α β : Type}
  {ts ts' : List Spanned}

theorem Agree.bind {r r' : Except EvalError (α × List Spanned)}
    {f f' : α × List Spanned → Except EvalError (β × List Spanned)} (first : c.Agree r r')
    (next : ∀ {x rest rest'}, r = .ok (x, rest) → c.Tokens rest rest' →
      c.Agree (f (x, rest)) (f' (x, rest'))) : c.Agree (r >>= f) (r' >>= f') := by
  cases first with
  | found x left => exact next rfl left
  | failed alike => exact .failed alike

theorem Tokens.length (tokens : c.Tokens ts ts') : ts'.length = ts.length := by
  induction tokens with
  | nil => rfl
  | cons token here tail ih => exact congrArg (· + 1) ih

theorem Tokens.isEmpty (tokens : c.Tokens ts ts') : ts'.isEmpty = ts.isEmpty := by
  cases tokens <;> rfl

theorem Tokens.startsWith (tokens : c.Tokens ts ts') (s : Symbol) :
    startsWith s ts' = startsWith s ts := by
  cases tokens with
  | nil => rfl
  | cons token here tail => cases token <;> rfl

theorem Tokens.offsetOf (tokens : c.Tokens ts ts') :
    c.place (offsetOf source ts) (offsetOf source' ts') := by
  cases tokens with
  | nil => exact c.ends
  | cons token here tail => exact here

theorem Tokens.unexpected (tokens : c.Tokens ts ts') :
    c.error (unexpected source ts) (unexpected source' ts') := by
  cases tokens with
  | nil => exact c.fault _ c.ends
  | cons token here tail => exact c.fault _ here

theorem expect_agree (s : Symbol) {openedAt openedAt' : Option Nat}
    (opened : Option.Rel c.place openedAt openedAt') (tokens : c.Tokens ts ts') :
    c.Agree (expect source s openedAt ts) (expect source' s openedAt' ts') := by
  cases tokens with
  | nil =>
    cases opened with
    | some here => exact .failed (c.fault _ here)
    | none => exact .failed (c.fault _ c.ends)
  | cons token here tail =>
    cases token with
    | symbol s' =>
      unfold expect
      dsimp only
      split
      · exact .found _ tail
      · exact .failed (c.fault _ here)
    | _ => exact .failed (c.fault _ here)

section
variable {whole : List Spanned}

/-- The two loops may be given different amounts of fuel, if either has enough. -/
theorem itemsUntil_agree (close : Symbol) {item item' : List α → Parse α}
    (items : ∀ done, c.Agreeing whole (item done) (item' done))
    (taking : ∀ done, Consumes (item done)) {fuel fuel' : Nat} {done : List α}
    (inside : Consumed ts whole) (tokens : c.Tokens ts ts') (enough : ts.length < fuel)
    (enough' : ts.length < fuel') :
    c.Agree (itemsUntil close item done fuel ts) (itemsUntil close item' done fuel' ts') := by
  induction fuel generalizing done ts ts' fuel' with
  | zero => exact absurd enough (Nat.not_lt_zero _)
  | succ fuel ih =>
    obtain ⟨fuel', rfl⟩ : ∃ n, fuel' = n + 1 := ⟨fuel' - 1, by omega⟩
    rw [itemsUntil, itemsUntil, tokens.startsWith close]
    split
    · exact .found _ tokens
    · refine (items done inside tokens).bind fun read tokens => ?_
      have taken := taking done read
      cases tokens with
      | nil => exact .found _ .nil
      | cons token here tail =>
        have shorter := taken.2
        rw [List.length_cons] at shorter
        have behind := Consumed.of_suffix (List.suffix_cons _ _) (taken.trans inside)
        by_cases comma : token = .symbol .comma
        · subst comma
          exact ih behind tail (by omega) (by omega)
        · dsimp only
          split
          next found =>
            cases found
            exact (comma rfl).elim
          next =>
            split
            next found =>
              cases found
              exact (comma rfl).elim
            next => exact .found _ (.cons token here tail)

theorem enclosed_agree (close : Symbol) {item item' : List α → Parse α}
    (items : ∀ done, c.Agreeing whole (item done) (item' done))
    (taking : ∀ done, Consumes (item done)) {openedAt openedAt' : Nat}
    (opened : c.place openedAt openedAt') :
    c.Agreeing whole (enclosed source close item openedAt)
      (enclosed source' close item' openedAt') := by
  intro ts ts' inside tokens
  have enough' : ts.length < ts'.length + 1 := by
    rw [tokens.length]
    exact Nat.lt_succ_self _
  refine (itemsUntil_agree close items taking inside tokens (Nat.lt_succ_self _) enough').bind
    fun _ tokens => ?_
  exact (expect_agree close (.some opened) tokens).bind fun _ tokens => .found _ tokens

theorem patternKey_agree {start start' : Nat} (starts : c.place start start')
    (tokens : c.Tokens ts ts') :
    c.Agree (patternKey source start ts) (patternKey source' start' ts') := by
  cases tokens with
  | nil => exact .failed (c.fault _ starts)
  | cons token here tail =>
    cases token with
    | string | identifier => exact .found _ tail
    | _ => exact .failed (c.fault _ here)

theorem spanPresence_agree (tokens : c.Tokens ts ts') :
    (spanPresence ts').1 = (spanPresence ts).1 ∧
      c.Tokens (spanPresence ts).2 (spanPresence ts').2 := by
  cases tokens with
  | nil => exact ⟨rfl, .nil⟩
  | cons token here tail =>
    cases token with
    | symbol s =>
      cases s with
      | question | bang => exact ⟨rfl, tail⟩
      | _ => exact ⟨rfl, .cons _ here tail⟩
    | _ => exact ⟨rfl, .cons _ here tail⟩

section
variable {inner inner' : Parse Pattern} (inners : c.Agreeing whole inner inner')
include inners

theorem objectPatternEntry_agree {start start' : Nat} (starts : c.place start start') :
    c.Agreeing whole (objectPatternEntry source inner start)
      (objectPatternEntry source' inner' start') := by
  intro ts ts' inside tokens
  refine (patternKey_agree starts tokens).bind fun {key ts₁ ts₁'} keyed tokens => ?_
  obtain ⟨same, tokens⟩ := spanPresence_agree tokens
  dsimp only
  rw [same]
  refine (expect_agree .colon .none tokens).bind fun {_ ts₂ ts₂'} colon tokens => ?_
  have inside : Consumed ts₂ whole :=
    (expect_consumes _ _ colon).trans
      (.of_suffix (spanPresence_suffix ts₁) ((patternKey_consumes _ keyed).trans inside))
  exact (inners inside tokens).bind fun _ tokens => .found _ tokens

theorem arrayPatternItem_agree (done : List (Option Pattern)) :
    c.Agreeing whole (arrayPatternItem source inner done)
      (arrayPatternItem source' inner' done) := by
  intro ts ts' inside tokens
  have plain : c.Agree (inner ts >>= fun read => pure (some read.1, read.2))
      (inner' ts' >>= fun read => pure (some read.1, read.2)) :=
    (inners inside tokens).bind fun _ tokens => .found _ tokens
  cases tokens with
  | nil => exact plain
  | cons token here tail =>
    cases token with
    | symbol s =>
      cases s with
      | ellipsis =>
        unfold arrayPatternItem
        dsimp only
        split
        · exact .failed (c.fault _ here)
        · exact .found _ tail
      | _ => exact plain
    | _ => exact plain

end

theorem patternWith_agree {inner inner' : Parse Pattern} (inners : c.Agreeing ts inner inner')
    (taking : Consumes inner) (tokens : c.Tokens ts ts') :
    c.Agree (patternWith source inner ts) (patternWith source' inner' ts') := by
  cases tokens with
  | nil => exact .failed (c.fault _ c.ends)
  | cons token here tail =>
    cases token with
    | identifier name =>
      unfold patternWith
      dsimp only
      split
      · exact .found _ tail
      · exact .failed (c.fault _ here)
    | symbol s =>
      cases s with
      | minus =>
        cases tail with
        | nil => exact .failed (c.fault _ here)
        | cons token _ tail =>
          cases token with
          | number x => exact .found _ tail
          | _ => exact .failed (c.fault _ here)
      | leftBrace =>
        exact (enclosed_agree .rightBrace (fun _ => objectPatternEntry_agree inners here)
          (fun _ => objectPatternEntry_consumes taking _) here (.cons _ (List.suffix_refl _))
          tail).bind fun _ tokens => .found _ tokens
      | leftBracket =>
        exact (enclosed_agree .rightBracket (arrayPatternItem_agree inners)
          (arrayPatternItem_consumes taking) here (.cons _ (List.suffix_refl _)) tail).bind
          fun _ tokens => .found _ tokens
      | _ => exact .failed (c.fault _ here)
    | _ => exact .found _ tail

theorem objectKey_agree {start start' : Nat} (starts : c.place start start')
    (tokens : c.Tokens ts ts') :
    c.Agree (objectKey source start ts) (objectKey source' start' ts') := by
  cases tokens with
  | nil => exact .failed (c.fault _ starts)
  | cons token here tail =>
    unfold objectKey
    dsimp only
    split
    · exact .found _ tail
    · exact .failed (c.fault _ here)

/-- The same parameters are found in front of the same tokens, or none are in either text. -/
def SameParameters (c : Correspondence source source') :
    Option (List String × List Spanned) → Option (List String × List Spanned) → Prop :=
  Option.Rel fun found found' => found.1 = found'.1 ∧ c.Tokens found.2 found'.2

theorem SameParameters.cons {found found' : Option (List String × List Spanned)}
    (same : c.SameParameters found found') (name : String) :
    c.SameParameters (found.map fun (names, ts) => (name :: names, ts))
      (found'.map fun (names, ts) => (name :: names, ts)) := by
  cases same with
  | none => exact .none
  | some same => exact .some ⟨congrArg (name :: ·) same.1, same.2⟩

theorem namesThenArrow?_agree (tokens : c.Tokens ts ts') :
    c.SameParameters (namesThenArrow? ts) (namesThenArrow? ts') := by
  fun_induction namesThenArrow? ts generalizing ts' with
  | case1 name _ _ ts ih =>
    obtain - | ⟨_, _, - | ⟨_, _, tail⟩⟩ := tokens
    exact (ih tail).cons name
  | case2 name _ _ _ ts =>
    obtain - | ⟨_, _, - | ⟨_, _, - | ⟨_, _, tail⟩⟩⟩ := tokens
    exact .some ⟨rfl, tail⟩
  | case3 ts more last =>
    unfold namesThenArrow?
    split
    next =>
      obtain - | ⟨_, _, - | ⟨_, _, tail⟩⟩ := tokens
      exact (more _ _ _ _ rfl).elim
    next =>
      obtain - | ⟨_, _, - | ⟨_, _, - | ⟨_, _, tail⟩⟩⟩ := tokens
      exact (last _ _ _ _ _ rfl).elim
    next => exact .none

theorem parameters?_agree (tokens : c.Tokens ts ts') :
    c.SameParameters (parameters? ts) (parameters? ts') := by
  unfold parameters?
  split
  next =>
    obtain - | ⟨_, _, - | ⟨_, _, tail⟩⟩ := tokens
    exact .some ⟨rfl, tail⟩
  next some =>
    split
    next =>
      obtain - | ⟨_, _, - | ⟨_, _, tail⟩⟩ := tokens
      exact (some _ _ _ rfl).elim
    next => exact namesThenArrow?_agree tokens

section
variable {level level' : Level} (levels : c.Levels whole level level')
include levels

theorem objectEntry_agree {start start' : Nat} (starts : c.place start start') :
    c.Agreeing whole (objectEntry source level start) (objectEntry source' level' start') := by
  intro ts ts' inside tokens
  refine (objectKey_agree starts tokens).bind fun {key ts₁ ts₁'} keyed tokens => ?_
  refine (expect_agree .colon .none tokens).bind fun {_ ts₂ ts₂'} colon tokens => ?_
  have inside : Consumed ts₂ whole :=
    (expect_consumes _ _ colon).trans ((objectKey_consumes _ keyed).trans inside)
  exact (levels.expression 0 inside tokens).bind fun _ tokens => .found _ tokens

theorem lambdaBody_agree (params : List String) :
    c.Agreeing whole (lambdaBody level params) (lambdaBody level' params) :=
  fun inside tokens =>
    (levels.expression 0 inside tokens).bind fun _ tokens => .found _ tokens

variable (taking : level.Consumes)
include taking

theorem matchArm_agree {braceAt braceAt' : Nat} (opens : c.place braceAt braceAt')
    (done : List (Pattern × Node)) :
    c.Agreeing whole (matchArm source level braceAt done)
      (matchArm source' level' braceAt' done) := by
  intro ts ts' inside tokens
  have starts := tokens.offsetOf
  unfold matchArm
  rw [tokens.isEmpty]
  split
  · exact .failed (c.fault _ opens)
  · refine (levels.pattern inside tokens).bind fun {p ts₁ ts₁'} read tokens => ?_
    dsimp only
    split
    · exact .failed (c.fault _ starts)
    · refine (expect_agree .arrow .none tokens).bind fun {_ ts₂ ts₂'} arrow tokens => ?_
      have inside : Consumed ts₂ whole :=
        (expect_consumes _ _ arrow).trans ((taking.pattern read).trans inside)
      exact (levels.expression 0 inside tokens).bind fun _ tokens => .found _ tokens

theorem arguments_agree :
    c.Agreeing whole (arguments source level) (arguments source' level') := by
  intro ts ts' inside tokens
  have starts := tokens.offsetOf
  refine (expect_agree .leftParen .none tokens).bind fun {_ ts₁ ts₁'} opened tokens => ?_
  have inside := (expect_consumes _ _ opened).trans inside
  have enough' : ts₁.length < ts₁'.length + 1 := by
    rw [tokens.length]
    exact Nat.lt_succ_self _
  refine (itemsUntil_agree .rightParen (fun _ => levels.expression 0)
    (fun _ => taking.expression 0) inside tokens (Nat.lt_succ_self _) enough').bind
    fun _ tokens => ?_
  have other := tokens.unexpected
  cases tokens with
  | nil => exact .failed (c.fault _ starts)
  | cons token here tail =>
    cases token with
    | symbol s =>
      cases s with
      | rightParen => exact .found _ tail
      | _ => exact .failed other
    | _ => exact .failed other

theorem matching_agree {start start' : Nat} (starts : c.place start start') :
    c.Agreeing whole (matching source level start) (matching source' level' start') := by
  intro ts ts' inside tokens
  refine (levels.expression 0 inside tokens).bind fun {subject ts₁ ts₁'} read tokens => ?_
  have opens := tokens.offsetOf
  refine (expect_agree .leftBrace .none tokens).bind fun {_ ts₂ ts₂'} opened tokens => ?_
  have inside : Consumed ts₂ whole :=
    (expect_consumes _ _ opened).trans ((taking.expression 0 read).trans inside)
  refine (enclosed_agree .rightBrace (matchArm_agree levels taking opens)
    (matchArm_consumes taking _) opens inside tokens).bind fun {arms _ _} _ tokens => ?_
  dsimp only
  split
  · exact .failed (c.fault _ starts)
  · exact .found _ tokens

theorem namespaceMember_agree (space : String) :
    c.Agreeing whole (namespaceMember source level space)
      (namespaceMember source' level' space) := by
  intro ts ts' inside tokens
  have other := tokens.unexpected
  cases tokens with
  | nil => exact .failed other
  | cons token here tail =>
    cases token with
    | identifier name =>
      unfold namespaceMember
      dsimp only
      rw [tail.startsWith]
      have inside := Consumed.of_suffix (List.suffix_cons _ _) inside
      split
      · exact (arguments_agree levels taking inside tail).bind fun _ tokens => .found _ tokens
      · exact .found _ tail
    | _ => exact .failed other

theorem matchOrName_agree (name : String) {start start' : Nat} (starts : c.place start start')
    (inside : Consumed ts whole) (tokens : c.Tokens ts ts') :
    c.Agree
      (if name = "match" then matching source level start ts else .ok (.ofName name, ts))
      (if name = "match" then matching source' level' start' ts' else .ok (.ofName name, ts')) := by
  split
  · exact matching_agree levels taking starts inside tokens
  · exact .found _ tokens

theorem afterName_agree (name : String) {start start' : Nat} (starts : c.place start start') :
    c.Agreeing whole (afterName source level name start) (afterName source' level' name start') := by
  intro ts ts' inside tokens
  have plain := matchOrName_agree levels taking name starts inside tokens
  have called := arguments_agree levels taking inside tokens
  cases tokens with
  | nil => exact .found _ .nil
  | cons token here tail =>
    have behind := Consumed.of_suffix (List.suffix_cons _ _) inside
    cases token with
    | symbol s =>
      cases s with
      | arrow => exact lambdaBody_agree levels [name] behind tail
      | leftParen => exact called.bind fun _ tokens => .found _ tokens
      | dot =>
        unfold afterName
        dsimp only
        split
        · exact matching_agree levels taking starts inside (.cons _ here tail)
        · split
          · exact namespaceMember_agree levels taking name behind tail
          · exact .found _ (.cons _ here tail)
      | _ => exact plain
    | _ => exact plain

end

section
variable {level level' : Level}

theorem primary_agree (levels : c.Levels ts level level') (taking : level.Consumes)
    (tokens : c.Tokens ts ts') :
    c.Agree (primary source level ts) (primary source' level' ts') := by
  have other := tokens.unexpected
  cases tokens with
  | nil => exact .failed other
  | @cons ts ts' token offset offset' here tail =>
    have inside : ∀ token, Consumed ts (⟨token, offset⟩ :: ts) :=
      fun token => .cons _ (List.suffix_refl _)
    cases token with
    | identifier name => exact afterName_agree levels taking name here (inside _) tail
    | symbol s =>
      cases s with
      | dollar | «at» => exact .found _ tail
      | leftParen =>
        unfold primary
        dsimp only
        have same := parameters?_agree tail
        generalize found : parameters? ts = params, parameters? ts' = params' at same
        cases same with
        | none =>
          refine (levels.expression 0 (inside _) tail).bind fun _ tokens => ?_
          exact (expect_agree .rightParen (.some here) tokens).bind
            fun _ tokens => .found _ tokens
        | @some first second same =>
          obtain ⟨names, ts₁⟩ := first
          obtain ⟨names', ts₁'⟩ := second
          obtain ⟨rfl, tokens⟩ := same
          exact lambdaBody_agree levels names (.of_suffix (parameters?_suffix found) (inside _))
            tokens
      | leftBracket =>
        exact (enclosed_agree .rightBracket (fun _ => levels.expression 0)
          (fun _ => taking.expression 0) here (inside _) tail).bind
          fun _ tokens => .found _ tokens
      | leftBrace =>
        exact (enclosed_agree .rightBrace (fun _ => objectEntry_agree levels here)
          (fun _ => objectEntry_consumes taking _) here (inside _) tail).bind
          fun _ tokens => .found _ tokens
      | _ => exact .failed other
    | _ => exact .found _ tail

end

section
variable {level level' : Level} (levels : c.Levels whole level level') (taking : level.Consumes)
include levels

theorem computed_agree (inside : Consumed ts whole) (tokens : c.Tokens ts ts') :
    c.Agree (do let (key, ts) ← level.expression 0 ts; return (Segment.dynamic key, ts))
      (do let (key, ts) ← level'.expression 0 ts'; return (Segment.dynamic key, ts)) :=
  (levels.expression 0 inside tokens).bind fun _ tokens => .found _ tokens

theorem bracketSegment_agree {start start' : Nat} (starts : c.place start start') :
    c.Agreeing whole (bracketSegment source level start)
      (bracketSegment source' level' start') := by
  intro ts ts' inside tokens
  have computed := computed_agree levels inside tokens
  cases tokens with
  | nil => exact computed
  | cons token here tail =>
    cases token with
    | number | string =>
      unfold bracketSegment
      dsimp only
      rw [tail.startsWith]
      split
      · exact .found _ tail
      · exact computed
    | symbol s =>
      cases s with
      | star =>
        unfold bracketSegment
        dsimp only
        rw [tail.startsWith]
        split
        · exact .found _ tail
        · exact computed
      | rightBracket => exact .failed (c.pathFault _ starts)
      | question =>
        cases tail with
        | nil => exact .failed (c.pathFault _ starts)
        | cons token opens tail =>
          cases token with
          | symbol s =>
            cases s with
            | leftParen =>
              have inside := Consumed.of_suffix (List.suffix_append [_, _] _) inside
              refine (levels.expression 0 inside tail).bind fun _ tokens => ?_
              cases tokens with
              | nil => exact .failed (c.pathFault _ opens)
              | cons token here tail =>
                cases token with
                | symbol s =>
                  cases s with
                  | rightParen => exact .found _ tail
                  | _ => exact .failed (c.pathFault _ opens)
                | _ => exact .failed (c.pathFault _ opens)
            | _ => exact .failed (c.pathFault _ starts)
          | _ => exact .failed (c.pathFault _ starts)
      | _ => exact computed
    | _ => exact computed

include taking

/-- The two loops may be given different amounts of fuel, if either has enough. -/
theorem postfixes_agree {fuel fuel' : Nat} {node : Node} (inside : Consumed ts whole)
    (tokens : c.Tokens ts ts') (enough : ts.length < fuel) (enough' : ts.length < fuel') :
    c.Agree (postfixes source level fuel node ts) (postfixes source' level' fuel' node ts') := by
  induction fuel generalizing node ts ts' fuel' with
  | zero => exact absurd enough (Nat.not_lt_zero _)
  | succ fuel ih =>
    obtain ⟨fuel', rfl⟩ : ∃ n, fuel' = n + 1 := ⟨fuel' - 1, by omega⟩
    cases tokens with
    | nil => exact .found _ .nil
    | @cons ts ts' token offset offset' here tail =>
      rw [List.length_cons] at enough enough'
      have inside₁ := Consumed.of_suffix (List.suffix_cons _ _) inside
      cases token with
      | symbol s =>
        cases s with
        | dot =>
          cases tail with
          | nil => exact .failed (c.pathFault _ here)
          | @cons ts ts' token _ _ _ tail =>
            rw [List.length_cons] at enough enough'
            have inside₂ := Consumed.of_suffix (List.suffix_cons _ _) inside₁
            have field (name : String) : c.Agree
                (if startsWith .leftParen ts then arguments source level ts >>= fun read =>
                  postfixes source level fuel (.method node name read.1) read.2
                else postfixes source level fuel (node.withSegment (.field name)) ts)
                (if startsWith .leftParen ts' then arguments source' level' ts' >>= fun read =>
                  postfixes source' level' fuel' (.method node name read.1) read.2
                else postfixes source' level' fuel' (node.withSegment (.field name)) ts') := by
              rw [tail.startsWith]
              split
              · refine (arguments_agree levels taking inside₂ tail).bind fun read tokens => ?_
                have taken := arguments_consumes taking read
                have shorter := taken.2
                dsimp only
                exact ih (taken.trans inside₂) tokens (by omega) (by omega)
              · exact ih inside₂ tail (by omega) (by omega)
            cases token with
            | symbol s =>
              cases s with
              | star => exact ih inside₂ tail (by omega) (by omega)
              | _ => exact .failed (c.pathFault _ here)
            | identifier name => exact field name
            | bool b => exact field (if b then "true" else "false")
            | null => exact field "null"
            | _ => exact .failed (c.pathFault _ here)
        | dotDot =>
          cases tail with
          | nil => exact .failed (c.pathFault _ here)
          | @cons ts ts' token _ _ _ tail =>
            rw [List.length_cons] at enough enough'
            have inside₂ := Consumed.of_suffix (List.suffix_cons _ _) inside₁
            cases token with
            | identifier name => exact ih inside₂ tail (by omega) (by omega)
            | _ => exact .failed (c.pathFault _ here)
        | leftBracket =>
          refine (bracketSegment_agree levels here inside₁ tail).bind fun read tokens => ?_
          have taken := bracketSegment_consumes taking _ read
          cases tokens with
          | nil => exact .failed (c.pathFault _ here)
          | cons token _ tail =>
            have shorter := taken.2
            rw [List.length_cons] at shorter
            have inside₂ := Consumed.of_suffix (List.suffix_cons _ _) (taken.trans inside₁)
            cases token with
            | symbol s =>
              cases s with
              | rightBracket => exact ih inside₂ tail (by omega) (by omega)
              | _ => exact .failed (c.pathFault _ here)
            | _ => exact .failed (c.pathFault _ here)
        | _ => exact .found _ (.cons _ here tail)
      | _ => exact .found _ (.cons _ here tail)

theorem conditionalRest_agree (condition : Node) {start start' : Nat}
    (starts : c.place start start') :
    c.Agreeing whole (conditionalRest source level condition start)
      (conditionalRest source' level' condition start') := by
  intro ts ts' inside tokens
  refine (levels.expression 0 inside tokens).bind fun read tokens => ?_
  have inside := (taking.expression 0 read).trans inside
  have other := tokens.unexpected
  cases tokens with
  | nil => exact .failed (c.fault _ starts)
  | cons token here tail =>
    cases token with
    | symbol s =>
      cases s with
      | colon =>
        have inside := Consumed.of_suffix (List.suffix_cons _ _) inside
        exact (levels.expression conditionalPower inside tail).bind
          fun _ tokens => .found _ tokens
      | _ => exact .failed other
    | _ => exact .failed other

/-- The two loops may be given different amounts of fuel, if either has enough. -/
theorem operators_agree {power fuel fuel' : Nat} {left : Node} (inside : Consumed ts whole)
    (tokens : c.Tokens ts ts') (enough : ts.length < fuel) (enough' : ts.length < fuel') :
    c.Agree (operators source level power fuel left ts)
      (operators source' level' power fuel' left ts') := by
  induction fuel generalizing left ts ts' fuel' with
  | zero => exact absurd enough (Nat.not_lt_zero _)
  | succ fuel ih =>
    obtain ⟨fuel', rfl⟩ : ∃ n, fuel' = n + 1 := ⟨fuel' - 1, by omega⟩
    cases tokens with
    | nil => exact .found _ .nil
    | @cons ts ts' token offset offset' here tail =>
      rw [List.length_cons] at enough enough'
      have inside₁ := Consumed.of_suffix (List.suffix_cons _ _) inside
      cases token with
      | identifier word =>
        unfold operators
        dsimp only
        split
        · exact .found _ (.cons _ here tail)
        · have other := tail.unexpected
          cases tail with
          | nil => exact .failed other
          | @cons ts ts' token _ _ _ tail =>
            rw [List.length_cons] at enough enough'
            have inside₂ := Consumed.of_suffix (List.suffix_cons _ _) inside₁
            dsimp only
            split
            · exact ih inside₂ tail (by omega) (by omega)
            · exact .failed other
      | symbol s =>
        by_cases conditional : s = .question
        · subst conditional
          unfold operators
          dsimp only
          split
          · exact .found _ (.cons _ here tail)
          · refine (conditionalRest_agree levels taking left here inside₁ tail).bind
              fun read tokens => ?_
            dsimp only
            have taken := conditionalRest_consumes taking _ _ read
            have shorter := taken.2
            exact ih (taken.trans inside₁) tokens (by omega) (by omega)
        · rw [operators_symbol conditional, operators_symbol conditional]
          split
          · split
            · exact .found _ (.cons _ here tail)
            · refine (levels.expression _ inside₁ tail).bind fun read tokens => ?_
              have taken := taking.expression _ read
              have shorter := taken.2
              exact ih (taken.trans inside₁) tokens (by omega) (by omega)
          · exact .found _ (.cons _ here tail)
      | _ => exact .found _ (.cons _ here tail)

end

section
variable {level level' : Level} (levels : c.Levels ts level level') (taking : level.Consumes)
include levels taking

theorem plainOperand_agree (tokens : c.Tokens ts ts') : c.Agree
    (do let (node, rest) ← primary source level ts
        postfixes source level (rest.length + 1) node rest)
    (do let (node, rest) ← primary source' level' ts'
        postfixes source' level' (rest.length + 1) node rest) := by
  refine (primary_agree levels taking tokens).bind fun {_ ts₁ ts₁'} read tokens => ?_
  have enough' : ts₁.length < ts₁'.length + 1 := by
    rw [tokens.length]
    exact Nat.lt_succ_self _
  exact postfixes_agree levels taking (primary_consumes taking read) tokens (Nat.lt_succ_self _)
    enough'

theorem operand_agree (tokens : c.Tokens ts ts') :
    c.Agree (operand source level ts) (operand source' level' ts') := by
  have plain := plainOperand_agree levels taking tokens
  cases tokens with
  | nil => exact plain
  | cons token here tail =>
    unfold operand
    dsimp only
    split
    · exact (levels.expression unaryPower (.cons _ (List.suffix_refl _)) tail).bind
        fun _ tokens => .found _ tokens
    · exact plain

/-- An expression in front of the same tokens is the same, or wrong alike, if its parts are. -/
theorem expressionWith_agree (power : Nat) (tokens : c.Tokens ts ts') :
    c.Agree (expressionWith source level power ts) (expressionWith source' level' power ts') := by
  refine (operand_agree levels taking tokens).bind fun {_ ts₁ ts₁'} read tokens => ?_
  have enough' : ts₁.length < ts₁'.length + 1 := by
    rw [tokens.length]
    exact Nat.lt_succ_self _
  exact operators_agree levels taking (operand_consumes taking read) tokens (Nat.lt_succ_self _)
    enough'

end
end
end
end Correspondence
end DocExpr.Expr
