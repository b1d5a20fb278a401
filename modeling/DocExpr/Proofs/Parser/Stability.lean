import DocExpr.Proofs.Parser.Follow

/-! A part of an expression reads alike wherever it stands. What a reader gives for some tokens it
gives as well where the tokens stand at other places of another text, where more nesting is allowed,
and where a comma or a closing bracket follows. Readers look ahead in three places: at the arrow
behind parameters, at what follows the name `match`, and at the mark behind a literal in
brackets. -/
namespace DocExpr.Expr

/-- Every reader of a level is as stable as what it reads allows. -/
structure Level.StableTo (more : List Spanned) (level level' : Level) : Prop where
  expression : ∀ power,
    Stable more (Settled more) (level.expression power) (level'.expression power)
  pattern : Stable more (fun _ => True) level.pattern level'.pattern

section
variable {more : List Spanned} {source source' : List Char}

variable {level level' : Level} (stable : level.StableTo more level') (taking : level.Consumes)
include stable

theorem objectEntry_stable (start start' : Nat) :
    Stable more (fun x => Settled more x.2) (objectEntry source level start)
      (objectEntry source' level' start') := by
  intro ts ts' x rest follow h kept
  obtain ⟨⟨key, ts₁⟩, keyed, h⟩ := ok_of_bind h
  obtain ⟨⟨⟨⟩, ts₂⟩, colon, h⟩ := ok_of_bind h
  obtain ⟨⟨value, ts₃⟩, read, h⟩ := ok_of_bind h
  cases h
  obtain ⟨ts₁', keyed', follow₁⟩ := objectKey_stable start start' follow keyed fun _ => trivial
  obtain ⟨ts₂', colon', follow₂⟩ := expect_stable _ none none follow₁ colon fun _ => trivial
  obtain ⟨ts₃', read', follow₃⟩ := stable.expression 0 follow₂ read kept
  exact ⟨ts₃', bind_ok keyed' (bind_ok colon' (bind_ok read' rfl)), follow₃⟩

theorem lambdaBody_stable (params : List String) :
    Stable more (Settled more) (lambdaBody level params) (lambdaBody level' params) := by
  intro ts ts' x rest follow h kept
  obtain ⟨⟨body, ts₁⟩, read, h⟩ := ok_of_bind h
  cases h
  have part : body ∈ (Node.lambda params body).parts := List.mem_singleton_self body
  obtain ⟨ts₁', read', follow₁⟩ :=
    stable.expression 0 follow read fun none => (kept none).part part
  exact ⟨ts₁', bind_ok read' rfl, follow₁⟩

theorem matchArm_stable (braceAt braceAt' : Nat) (done : List (Pattern × Node)) :
    Stable more (fun x => Settled more x.2) (matchArm source level braceAt done)
      (matchArm source' level' braceAt' done) := by
  intro ts ts' x rest follow h kept
  unfold matchArm at h ⊢
  split at h
  · cases h
  next some =>
    obtain ⟨⟨p, ts₁⟩, pattern, h⟩ := ok_of_bind h
    dsimp only at h
    split at h
    · cases h
    next first =>
      obtain ⟨⟨⟨⟩, ts₂⟩, arrow, h⟩ := ok_of_bind h
      obtain ⟨⟨body, ts₃⟩, read, h⟩ := ok_of_bind h
      cases h
      obtain ⟨ts₁', pattern', follow₁⟩ := stable.pattern follow pattern fun _ => trivial
      obtain ⟨ts₂', arrow', follow₂⟩ := expect_stable _ none none follow₁ arrow fun _ => trivial
      obtain ⟨ts₃', read', follow₃⟩ := stable.expression 0 follow₂ read kept
      refine ⟨ts₃', ?_, follow₃⟩
      have some' : ¬ ts'.isEmpty := by
        cases follow with
        | nil => exact absurd rfl some
        | cons => exact Bool.false_ne_true
      rw [if_neg some']
      refine bind_ok pattern' ?_
      dsimp only
      rw [if_neg first]
      exact bind_ok arrow' (bind_ok read' rfl)

include taking

theorem arguments_stable :
    Stable more (fun _ => True) (arguments source level) (arguments source' level') := by
  intro ts ts' x rest follow h _
  obtain ⟨⟨⟨⟩, ts₁⟩, opened, h⟩ := ok_of_bind h
  obtain ⟨⟨args, ts₂⟩, read, h⟩ := ok_of_bind h
  obtain ⟨ts₁', opened', follow₁⟩ := expect_stable _ none none follow opened fun _ => trivial
  have enough : ts₁.length + more.length < ts₁'.length + 1 := by
    rw [follow₁.length]
    exact Nat.lt_succ_self _
  cases ts₂ with
  | nil => cases h
  | cons t ts₂ =>
    obtain ⟨ts₂', read', follow₂⟩ := itemsUntil_stable (fun _ => stable.expression 0)
      (fun _ => taking.expression 0) follow₁ (Nat.lt_succ_self _) enough read
      (List.cons_ne_nil t ts₂)
    cases follow₂ with
    | cons token offset offset' tail =>
    dsimp only at h
    split at h
    next found =>
      cases found
      cases h
      exact ⟨_, bind_ok opened' (bind_ok read' rfl), tail⟩
    next found => cases found
    next => cases h

theorem matching_stable (start start' : Nat) :
    Stable more (fun _ => True) (matching source level start) (matching source' level' start') := by
  intro ts ts' x rest follow h _
  obtain ⟨⟨subject, ts₁⟩, read, h⟩ := ok_of_bind h
  obtain ⟨⟨⟨⟩, ts₂⟩, opened, h⟩ := ok_of_bind h
  obtain ⟨⟨arms, ts₃⟩, listed, h⟩ := ok_of_bind h
  dsimp only at h
  split at h
  · cases h
  next some =>
    cases h
    have goesOn : ts₁ = [] → Settled more subject := by
      rintro rfl
      exact (expect_consumes _ _ opened).not_nil.elim
    obtain ⟨ts₁', read', follow₁⟩ := stable.expression 0 follow read goesOn
    obtain ⟨ts₂', opened', follow₂⟩ := expect_stable _ none none follow₁ opened fun _ => trivial
    obtain ⟨ts₃', listed', follow₃⟩ := enclosed_stable _
      (matchArm_stable stable (offsetOf source ts₁) (offsetOf source' ts₁'))
      (matchArm_consumes taking _) _ (offsetOf source' ts₁') follow₂ listed fun _ => trivial
    refine ⟨ts₃', bind_ok read' (bind_ok opened' (bind_ok listed' ?_)), follow₃⟩
    exact if_neg some

variable (closed : Closed more)
include closed

theorem namespaceMember_stable (space : String) :
    Stable more (fun _ => True) (namespaceMember source level space)
      (namespaceMember source' level' space) := by
  intro ts ts' x rest follow h _
  cases follow with
  | nil => exact (namespaceMember_consumes taking _ h).not_nil.elim
  | cons token offset offset' tail =>
    cases token with
    | identifier name =>
      have same := startsWith_followed tail closed (show .leftParen ∉ stops by decide)
      unfold namespaceMember at h ⊢
      dsimp only at h ⊢
      rw [same]
      split at h
      next call =>
        obtain ⟨⟨args, ts₁⟩, read, h⟩ := ok_of_bind h
        cases h
        obtain ⟨ts₁', read', follow₁⟩ := arguments_stable stable taking tail read fun _ => trivial
        rw [if_pos call]
        exact ⟨ts₁', bind_ok read' rfl, follow₁⟩
      next noCall =>
        cases h
        rw [if_neg noCall]
        exact ⟨_, rfl, tail⟩
    | _ => cases h

omit closed in
theorem matchOrName_stable (name : String) (start start' : Nat) {ts ts' : List Spanned} {x : Node}
    {rest : List Spanned} (follow : Followed more ts ts')
    (h : (if name = "match" then matching source level start ts
      else .ok (.ofName name, ts)) = .ok (x, rest)) :
    ∃ rest', (if name = "match" then matching source' level' start' ts'
      else .ok (.ofName name, ts')) = .ok (x, rest') ∧ Followed more rest rest' := by
  split at h
  next keyword =>
    rw [if_pos keyword]
    exact matching_stable stable taking start start' follow h fun _ => trivial
  next plain =>
    cases h
    rw [if_neg plain]
    exact ⟨ts', rfl, follow⟩

/-- The keyword `match` is a name where nothing follows it. -/
theorem afterName_stable (name : String) (start start' : Nat) :
    Stable more (Settled more) (afterName source level name start)
      (afterName source' level' name start') := by
  intro ts ts' x rest follow h kept
  cases follow with
  | nil =>
    cases h
    cases closed with
    | nil => exact ⟨[], rfl, .nil⟩
    | mark s offset ts isStop =>
      have plain : name ≠ "match" := by
        rintro rfl
        rcases kept rfl with none | free
        · cases none
        · exact free .here
      simp only [stops, closers, List.mem_cons, List.not_mem_nil, or_false] at isStop
      rcases isStop with rfl | rfl | rfl | rfl | rfl
      all_goals exact ⟨_, if_neg plain, .nil⟩
  | cons token offset offset' tail =>
    have follow := Followed.cons token offset offset' tail
    cases token with
    | symbol s =>
      cases s with
      | arrow => exact lambdaBody_stable stable [name] tail h kept
      | leftParen =>
        obtain ⟨⟨args, ts₁⟩, read, h⟩ := ok_of_bind h
        cases h
        obtain ⟨ts₁', read', follow₁⟩ :=
          arguments_stable stable taking follow read fun _ => trivial
        exact ⟨ts₁', bind_ok read' rfl, follow₁⟩
      | dot =>
        unfold afterName at h ⊢
        dsimp only at h ⊢
        split at h
        next keyword =>
          rw [if_pos keyword]
          exact matching_stable stable taking start start' follow h fun _ => trivial
        next plain =>
          rw [if_neg plain]
          split at h
          next space =>
            rw [if_pos space]
            exact namespaceMember_stable stable taking closed name tail h fun _ => trivial
          next noSpace =>
            cases h
            rw [if_neg noSpace]
            exact ⟨_, rfl, follow⟩
      | _ => exact matchOrName_stable stable taking name start start' follow h
    | _ => exact matchOrName_stable stable taking name start start' follow h

theorem primary_stable :
    Stable more (Settled more) (primary source level) (primary source' level') := by
  intro ts ts' x rest follow h kept
  cases follow with
  | nil => exact (primary_consumes taking h).not_nil.elim
  | cons token offset offset' tail =>
    cases token with
    | identifier name => exact afterName_stable stable taking closed name offset offset' tail h kept
    | symbol s =>
      cases s with
      | dollar | «at» =>
        cases h
        exact ⟨_, rfl, tail⟩
      | leftParen =>
        unfold primary at h ⊢
        dsimp only at h ⊢
        split at h
        next params ts₁ found =>
          obtain ⟨ts₁', found', follow₁⟩ := parameters?_stable tail found
          rw [found']
          exact lambdaBody_stable stable params follow₁ h kept
        next none =>
          obtain ⟨⟨inner, ts₁⟩, read, h⟩ := ok_of_bind h
          obtain ⟨⟨⟨⟩, ts₂⟩, close, h⟩ := ok_of_bind h
          have taken := (taking.expression 0 read).1
          have stops : ts₁ ≠ [] := by
            rintro rfl
            exact (expect_consumes _ _ close).not_nil
          obtain ⟨ts₁', read', follow₁⟩ :=
            stable.expression 0 tail read fun nothing => absurd nothing stops
          obtain ⟨ts₂', close', follow₂⟩ :=
            expect_stable _ (some offset) (some offset') follow₁ close fun _ => trivial
          cases h
          have isClosed := parameters?_none tail closed (closes_of_expect taken close) none
          rw [isClosed]
          exact ⟨ts₂', bind_ok read' (bind_ok close' rfl), follow₂⟩
      | leftBracket =>
        obtain ⟨⟨items, ts₁⟩, read, h⟩ := ok_of_bind h
        cases h
        obtain ⟨ts₁', read', follow₁⟩ := enclosed_stable _ (fun _ => stable.expression 0)
          (fun _ => taking.expression 0) offset offset' tail read fun _ => trivial
        exact ⟨ts₁', bind_ok read' rfl, follow₁⟩
      | leftBrace =>
        obtain ⟨⟨entries, ts₁⟩, read, h⟩ := ok_of_bind h
        cases h
        obtain ⟨ts₁', read', follow₁⟩ := enclosed_stable _
          (fun _ => objectEntry_stable stable offset offset')
          (fun _ => objectEntry_consumes taking _) offset offset' tail read fun _ => trivial
        exact ⟨ts₁', bind_ok read' rfl, follow₁⟩
      | _ => cases h
    | _ =>
      cases h
      exact ⟨_, rfl, tail⟩

omit closed taking in
theorem computed_stable {ts ts' : List Spanned} {x : Segment} {rest : List Spanned}
    (follow : Followed more ts ts') (goesOn : rest ≠ []) (h : (do
      let (key, ts) ← level.expression 0 ts
      return (Segment.dynamic key, ts)) = .ok (x, rest)) :
    ∃ rest', (do
      let (key, ts) ← level'.expression 0 ts'
      return (Segment.dynamic key, ts)) = .ok (x, rest') ∧ Followed more rest rest' := by
  obtain ⟨⟨key, ts₁⟩, read, h⟩ := ok_of_bind h
  cases h
  obtain ⟨ts₁', read', follow₁⟩ :=
    stable.expression 0 follow read fun nothing => absurd nothing goesOn
  exact ⟨ts₁', bind_ok read' rfl, follow₁⟩

omit closed taking in
/-- A literal alone between the brackets is a segment by itself; if more follows, it starts an
expression. -/
theorem literal_stable {alone : Prop} [Decidable alone] {segment x : Segment} {t t' : Spanned}
    {ts ts' rest : List Spanned} (follow : Followed more (t :: ts) (t' :: ts'))
    (tail : Followed more ts ts') (goesOn : rest ≠ [])
    (h : (if alone then .ok (segment, ts) else do
      let (key, ts) ← level.expression 0 (t :: ts)
      return (Segment.dynamic key, ts)) = .ok (x, rest)) :
    ∃ rest', (if alone then .ok (segment, ts') else do
      let (key, ts) ← level'.expression 0 (t' :: ts')
      return (Segment.dynamic key, ts)) = .ok (x, rest') ∧ Followed more rest rest' := by
  split at h
  next literal =>
    cases h
    exact ⟨ts', if_pos literal, tail⟩
  next computed =>
    rw [if_neg computed]
    exact computed_stable stable follow goesOn h

omit closed in
/-- The closing bracket that must follow is seen from both. -/
theorem bracketSegment_stable (start start' : Nat) :
    Stable more (fun _ => False) (bracketSegment source level start)
      (bracketSegment source' level' start') := by
  intro ts ts' x rest follow h kept
  have taken := bracketSegment_consumes taking start h
  cases follow with
  | nil => exact taken.not_nil.elim
  | @cons ts ts' token offset offset' tail =>
    have follow := Followed.cons token offset offset' tail
    have some : ts ≠ [] := by
      rintro rfl
      exact kept taken.eq_nil_of_singleton
    have same := tail.startsWith some .rightBracket
    cases token with
    | number | string =>
      unfold bracketSegment at h ⊢
      dsimp only at h ⊢
      rw [same]
      exact literal_stable stable follow tail kept h
    | symbol s =>
      cases s with
      | star =>
        unfold bracketSegment at h ⊢
        dsimp only at h ⊢
        rw [same]
        exact literal_stable stable follow tail kept h
      | rightBracket => cases h
      | question =>
        cases tail with
        | nil => cases h
        | cons token _ _ tail =>
          cases token with
          | symbol s =>
            cases s with
            | leftParen =>
              obtain ⟨⟨predicate, ts₁⟩, read, h⟩ := ok_of_bind h
              cases ts₁ with
              | nil => cases h
              | cons t ts₁ =>
                obtain ⟨ts₁', read', follow₁⟩ := stable.expression 0 tail read nofun
                cases follow₁ with
                | cons token _ _ tail =>
                dsimp only at h
                split at h
                next found =>
                  cases found
                  cases h
                  exact ⟨_, bind_ok read' rfl, tail⟩
                next => cases h
            | _ => cases h
          | _ => cases h
      | _ => exact computed_stable stable follow kept h
    | _ => exact computed_stable stable follow kept h

/-- What one loop makes of the tokens left over, the other one makes of them with `more` behind
them, while the fuel lasts. -/
def Continues (more : List Spanned) (loop loop' : Nat → Node → Parse Node) (fuel : Nat)
    (x : Node) (rest : List Spanned) : Prop :=
  ∀ {fuel' node ts ts'}, Followed more ts ts' → ts.length < fuel →
    ts.length + more.length < fuel' → loop fuel node ts = .ok (x, rest) →
    ∃ rest', loop' fuel' node ts' = .ok (x, rest') ∧ Followed more rest rest'

omit stable taking in
theorem postfixes_closed (fuel : Nat) (node : Node) :
    postfixes source level (fuel + 1) node more = .ok (node, more) := by
  cases closed with
  | nil => rfl
  | mark s offset ts isStop =>
    simp only [stops, closers, List.mem_cons, List.not_mem_nil, or_false] at isStop
    rcases isStop with rfl | rfl | rfl | rfl | rfl
    all_goals rfl

section
variable {fuel fuel' : Nat} {x : Node} {ts ts' rest : List Spanned}

theorem fieldOrMethod_stable (node : Node) (follow : Followed more ts ts')
    (enough : ts.length < fuel) (enough' : ts.length + more.length < fuel')
    (ih : Continues more (postfixes source level) (postfixes source' level') fuel x rest)
    (name : String) (h : (if startsWith .leftParen ts then do
        let (args, ts) ← arguments source level ts
        postfixes source level fuel (.method node name args) ts
      else postfixes source level fuel (node.withSegment (.field name)) ts) = .ok (x, rest)) :
    ∃ rest', (if startsWith .leftParen ts' then do
        let (args, ts) ← arguments source' level' ts'
        postfixes source' level' fuel' (.method node name args) ts
      else postfixes source' level' fuel' (node.withSegment (.field name)) ts') =
        .ok (x, rest') ∧ Followed more rest rest' := by
  rw [startsWith_followed follow closed (show .leftParen ∉ stops by decide)]
  split at h
  next call =>
    obtain ⟨⟨args, ts₁⟩, read, h⟩ := ok_of_bind h
    have taken := (arguments_consumes taking read).2
    obtain ⟨ts₁', read', follow₁⟩ := arguments_stable stable taking follow read fun _ => trivial
    have enough' : ts₁.length + more.length < fuel' := by omega
    obtain ⟨rest', read₂, follow₂⟩ := ih follow₁ (by omega) enough' h
    rw [if_pos call]
    exact ⟨rest', bind_ok read' read₂, follow₂⟩
  next noCall =>
    rw [if_neg noCall]
    exact ih follow enough enough' h

omit closed in
theorem bracketed_stable (node : Node) (start start' : Nat) (follow : Followed more ts ts')
    (enough : ts.length < fuel) (enough' : ts.length + more.length < fuel')
    (ih : Continues more (postfixes source level) (postfixes source' level') fuel x rest)
    (h : postfixes source level (fuel + 1) node (⟨.symbol .leftBracket, start⟩ :: ts) =
      .ok (x, rest)) :
    ∃ rest', postfixes source' level' (fuel' + 1) node (⟨.symbol .leftBracket, start'⟩ :: ts') =
      .ok (x, rest') ∧ Followed more rest rest' := by
  obtain ⟨⟨segment, ts₁⟩, read, h⟩ := ok_of_bind h
  have taken := (bracketSegment_consumes taking _ read).2
  cases ts₁ with
  | nil => cases h
  | cons t ts₁ =>
    obtain ⟨ts₁', read', follow₁⟩ :=
      bracketSegment_stable stable taking start start' follow read nofun
    cases follow₁ with
    | cons token _ _ tail =>
    rw [List.length_cons] at taken
    dsimp only at h
    split at h
    next found =>
      cases found
      have enough' : ts₁.length + more.length < fuel' := by omega
      obtain ⟨rest', read₂, follow₂⟩ := ih tail (by omega) enough' h
      exact ⟨rest', bind_ok read' read₂, follow₂⟩
    next => cases h

theorem postfixes_stable :
    Continues more (postfixes source level) (postfixes source' level') fuel x rest := by
  intro fuel' node ts ts' follow enough enough' h
  induction fuel generalizing node ts ts' fuel' with
  | zero => exact absurd enough (Nat.not_lt_zero _)
  | succ fuel ih =>
    obtain ⟨fuel', rfl⟩ : ∃ n, fuel' = n + 1 := ⟨fuel' - 1, by omega⟩
    cases follow with
    | nil =>
      cases h
      exact ⟨more, postfixes_closed closed fuel' _, .nil⟩
    | @cons ts ts' token offset offset' tail =>
      have follow := Followed.cons token offset offset' tail
      rw [List.length_cons] at enough enough'
      cases token with
      | symbol s =>
        cases s with
        | dot =>
          cases tail with
          | nil => cases h
          | @cons ts ts' token _ _ tail =>
            rw [List.length_cons] at enough enough'
            have enough' : ts.length + more.length < fuel' := by omega
            have field := fieldOrMethod_stable stable taking closed node tail (by omega) enough' ih
            cases token with
            | symbol s =>
              cases s with
              | star =>
                have h : postfixes source level fuel (node.withSegment .wildcard) ts =
                  .ok (x, rest) := h
                have answer := ih tail (by omega) enough' h
                exact answer
              | _ => cases h
            | identifier name => exact field name h
            | bool b => exact field (if b then "true" else "false") h
            | null => exact field "null" h
            | _ => cases h
        | dotDot =>
          cases tail with
          | nil => cases h
          | @cons ts ts' token _ _ tail =>
            rw [List.length_cons] at enough enough'
            cases token with
            | identifier name =>
              have h : postfixes source level fuel (node.withSegment (.descent name)) ts =
                .ok (x, rest) := h
              have enough' : ts.length + more.length < fuel' := by omega
              have answer := ih tail (by omega) enough' h
              exact answer
            | _ => cases h
        | leftBracket =>
          have enough' : ts.length + more.length < fuel' := by omega
          exact bracketed_stable stable taking node offset offset' tail (by omega) enough' ih h
        | _ =>
          cases h
          exact ⟨_, rfl, follow⟩
      | _ =>
        cases h
        exact ⟨_, rfl, follow⟩

end

omit stable taking closed in
theorem operand_plain {t : Spanned} (plain : unaryOp? t.token = none) (ts : List Spanned) :
    operand source level (t :: ts) = (do
      let (node, ts) ← primary source level (t :: ts)
      postfixes source level (ts.length + 1) node ts) := by
  unfold operand
  dsimp only
  rw [plain]

omit stable taking closed in
theorem operand_applied {t : Spanned} {op : UnaryOp} (spelled : unaryOp? t.token = some op)
    (ts : List Spanned) :
    operand source level (t :: ts) = (do
      let (node, ts) ← level.expression unaryPower ts
      return (.applyUnary op node, ts)) := by
  unfold operand
  dsimp only
  rw [spelled]

omit stable taking closed in
theorem Settled.operand {op : UnaryOp} {node : Node}
    (settled : Settled more (.applyUnary op node)) : Settled more node := by
  refine settled.imp_right fun free mention => free ?_
  unfold Node.applyUnary
  split
  next =>
    cases mention with
    | inside isPart => cases isPart
  next => exact .inside (List.mem_singleton_self node) mention

theorem plainOperand_stable : Stable more (Settled more)
    (fun ts => do
      let (node, ts) ← primary source level ts
      postfixes source level (ts.length + 1) node ts)
    (fun ts => do
      let (node, ts) ← primary source' level' ts
      postfixes source' level' (ts.length + 1) node ts) := by
  intro ts ts' x rest follow h kept
  obtain ⟨⟨node, ts₁⟩, read, h⟩ := ok_of_bind h
  have ended : ts₁ = [] → Settled more node := by
    rintro rfl
    cases h
    exact kept rfl
  obtain ⟨ts₁', read', follow₁⟩ := primary_stable stable taking closed follow read ended
  have enough' : ts₁.length + more.length < ts₁'.length + 1 := by
    rw [follow₁.length]
    exact Nat.lt_succ_self _
  obtain ⟨rest', read₂, follow₂⟩ :=
    postfixes_stable stable taking closed follow₁ (Nat.lt_succ_self _) enough' h
  exact ⟨rest', bind_ok read' read₂, follow₂⟩

theorem operand_stable :
    Stable more (Settled more) (operand source level) (operand source' level') := by
  intro ts ts' x rest follow h kept
  cases follow with
  | nil => exact (operand_consumes taking h).not_nil.elim
  | cons token offset offset' tail =>
    have follow := Followed.cons token offset offset' tail
    cases spelled : unaryOp? token with
    | some op =>
      rw [operand_applied spelled] at h ⊢
      obtain ⟨⟨node, ts₁⟩, read, h⟩ := ok_of_bind h
      cases h
      obtain ⟨ts₁', read', follow₁⟩ :=
        stable.expression unaryPower tail read fun nothing => (kept nothing).operand
      exact ⟨ts₁', bind_ok read' rfl, follow₁⟩
    | none =>
      rw [operand_plain spelled] at h ⊢
      exact plainOperand_stable stable taking closed follow h kept

omit taking closed in
theorem conditionalRest_stable (condition : Node) (start start' : Nat) :
    Stable more (Settled more) (conditionalRest source level condition start)
      (conditionalRest source' level' condition start') := by
  intro ts ts' x rest follow h kept
  obtain ⟨⟨thenBranch, ts₁⟩, read, h⟩ := ok_of_bind h
  cases ts₁ with
  | nil => cases h
  | cons t ts₁ =>
    obtain ⟨ts₁', read', follow₁⟩ := stable.expression 0 follow read nofun
    cases follow₁ with
    | cons token _ _ tail =>
    dsimp only at h
    split at h
    next found =>
      cases found
      obtain ⟨⟨elseBranch, ts₂⟩, last, h⟩ := ok_of_bind h
      cases h
      have part : elseBranch ∈ (Node.conditional condition thenBranch elseBranch).parts :=
        List.mem_cons_of_mem _ (List.mem_cons_of_mem _ (List.mem_singleton_self _))
      obtain ⟨ts₂', last', follow₂⟩ :=
        stable.expression conditionalPower tail last fun nothing => (kept nothing).part part
      exact ⟨ts₂', bind_ok read' (bind_ok last' rfl), follow₂⟩
    next found => cases found
    next => cases h

omit stable taking in
theorem operators_closed (power fuel : Nat) (left : Node) :
    operators source level power (fuel + 1) left more = .ok (left, more) := by
  cases closed with
  | nil => rfl
  | mark s offset ts isStop =>
    simp only [stops, closers, List.mem_cons, List.not_mem_nil, or_false] at isStop
    rcases isStop with rfl | rfl | rfl | rfl | rfl
    all_goals rfl

section
variable {power fuel fuel' : Nat} {left x : Node} {ts ts' rest : List Spanned}

omit stable taking closed in
/-- Where nothing is left over, what the operators start from is settled by the whole. -/
theorem Settled.of_operators (kept : rest = [] → Settled more x)
    (h : operators source level power fuel left [] = .ok (x, rest)) : Settled more left := by
  cases fuel
  all_goals
    cases h
    exact kept rfl

omit stable taking closed in
theorem test_stable (word : String) (offset offset' : Nat) (follow : Followed more ts ts')
    (enough : ts.length < fuel) (enough' : ts.length + more.length < fuel')
    (ih : Continues more (operators source level power) (operators source' level' power) fuel x
      rest)
    (h : operators source level power (fuel + 1) left (⟨.identifier word, offset⟩ :: ts) =
      .ok (x, rest)) :
    ∃ rest', operators source' level' power (fuel' + 1) left (⟨.identifier word, offset'⟩ :: ts') =
      .ok (x, rest') ∧ Followed more rest rest' := by
  unfold operators at h ⊢
  dsimp only at h ⊢
  split at h
  next stop =>
    cases h
    rw [if_pos stop]
    exact ⟨_, rfl, .cons _ _ _ follow⟩
  next test =>
    rw [if_neg test]
    cases follow with
    | nil => cases h
    | @cons ts ts' token _ _ tail =>
      rw [List.length_cons] at enough enough'
      have enough' : ts.length + more.length < fuel' := by omega
      dsimp only at h ⊢
      split at h
      next name named =>
        have answer := ih tail (by omega) enough' h
        exact answer
      next => cases h

omit closed in
theorem choice_stable (offset offset' : Nat) (follow : Followed more ts ts')
    (enough : ts.length < fuel) (enough' : ts.length + more.length < fuel')
    (ih : Continues more (operators source level power) (operators source' level' power) fuel x
      rest)
    (h : operators source level power (fuel + 1) left (⟨.symbol .question, offset⟩ :: ts) =
      .ok (x, rest)) (kept : rest = [] → Settled more x) :
    ∃ rest', operators source' level' power (fuel' + 1) left
        (⟨.symbol .question, offset'⟩ :: ts') = .ok (x, rest') ∧ Followed more rest rest' := by
  unfold operators at h ⊢
  dsimp only at h ⊢
  split at h
  next stop =>
    cases h
    rw [if_pos stop]
    exact ⟨_, rfl, .cons _ _ _ follow⟩
  next binds =>
    rw [if_neg binds]
    obtain ⟨⟨node, ts₁⟩, read, h⟩ := ok_of_bind h
    have taken := (conditionalRest_consumes taking left offset read).2
    have ended : ts₁ = [] → Settled more node := by
      rintro rfl
      exact .of_operators kept h
    obtain ⟨ts₁', read', follow₁⟩ :=
      conditionalRest_stable stable left offset offset' follow read ended
    have enough' : ts₁.length + more.length < fuel' := by omega
    obtain ⟨rest', read₂, follow₂⟩ := ih follow₁ (by omega) enough' h
    exact ⟨rest', bind_ok read' read₂, follow₂⟩

omit closed in
theorem binary_stable {s : Symbol} (other : s ≠ .question) (offset offset' : Nat)
    (follow : Followed more ts ts') (enough : ts.length < fuel)
    (enough' : ts.length + more.length < fuel')
    (ih : Continues more (operators source level power) (operators source' level' power) fuel x
      rest)
    (h : operators source level power (fuel + 1) left (⟨.symbol s, offset⟩ :: ts) =
      .ok (x, rest)) (kept : rest = [] → Settled more x) :
    ∃ rest', operators source' level' power (fuel' + 1) left (⟨.symbol s, offset'⟩ :: ts') =
      .ok (x, rest') ∧ Followed more rest rest' := by
  rw [operators_symbol other] at h ⊢
  split at h
  next op spelled =>
    split at h
    next stop =>
      cases h
      rw [if_pos stop]
      exact ⟨_, rfl, .cons _ _ _ follow⟩
    next binds =>
      rw [if_neg binds]
      obtain ⟨⟨right, ts₁⟩, read, h⟩ := ok_of_bind h
      have taken := (taking.expression _ read).2
      have part : right ∈ (Node.binary op left right).parts :=
        List.mem_cons_of_mem _ (List.mem_singleton_self _)
      have ended : ts₁ = [] → Settled more right := by
        rintro rfl
        exact (Settled.of_operators kept h).part part
      obtain ⟨ts₁', read', follow₁⟩ := stable.expression (op.power + 1) follow read ended
      have enough' : ts₁.length + more.length < fuel' := by omega
      obtain ⟨rest', read₂, follow₂⟩ := ih follow₁ (by omega) enough' h
      exact ⟨rest', bind_ok read' read₂, follow₂⟩
  next =>
    cases h
    exact ⟨_, rfl, .cons _ _ _ follow⟩

theorem operators_stable (kept : rest = [] → Settled more x) :
    Continues more (operators source level power) (operators source' level' power) fuel x
      rest := by
  intro fuel' left ts ts' follow enough enough' h
  induction fuel generalizing left ts ts' fuel' with
  | zero => exact absurd enough (Nat.not_lt_zero _)
  | succ fuel ih =>
    obtain ⟨fuel', rfl⟩ : ∃ n, fuel' = n + 1 := ⟨fuel' - 1, by omega⟩
    cases follow with
    | nil =>
      cases h
      exact ⟨more, operators_closed closed power fuel' _, .nil⟩
    | @cons ts ts' token offset offset' tail =>
      rw [List.length_cons] at enough enough'
      have enough : ts.length < fuel := Nat.lt_of_succ_lt_succ enough
      have enough' : ts.length + more.length < fuel' := by omega
      cases token with
      | identifier word => exact test_stable word offset offset' tail enough enough' ih h
      | symbol s =>
        by_cases conditional : s = .question
        · subst conditional
          exact choice_stable stable taking offset offset' tail enough enough' ih h kept
        · exact binary_stable stable taking conditional offset offset' tail enough enough' ih h
            kept
      | _ =>
        cases h
        exact ⟨_, rfl, .cons _ _ _ tail⟩

end

theorem expressionWith_stable (power : Nat) :
    Stable more (Settled more) (expressionWith source level power)
      (expressionWith source' level' power) := by
  intro ts ts' x rest follow h kept
  obtain ⟨⟨left, ts₁⟩, read, h⟩ := ok_of_bind h
  have ended : ts₁ = [] → Settled more left := by
    rintro rfl
    cases h
    exact kept rfl
  obtain ⟨ts₁', read', follow₁⟩ := operand_stable stable taking closed follow read ended
  have enough' : ts₁.length + more.length < ts₁'.length + 1 := by
    rw [follow₁.length]
    exact Nat.lt_succ_self _
  obtain ⟨rest', read₂, follow₂⟩ :=
    operators_stable stable taking closed kept follow₁ (Nat.lt_succ_self _) enough' h
  exact ⟨rest', bind_ok read' read₂, follow₂⟩

omit stable taking in
/-- An expression reads alike at other places of another text, under more nesting, and where a mark
of a list follows. -/
theorem expression_stable {maxDepth maxDepth' depth depth' : Nat} (deeper : depth ≤ depth')
    (power : Nat) :
    Stable more (Settled more) (expression source maxDepth depth power)
      (expression source' maxDepth' depth' power) := by
  induction depth generalizing depth' power with
  | zero =>
    intro ts ts' x rest follow h _
    cases h
  | succ depth ih =>
    obtain ⟨depth', rfl⟩ := Nat.exists_eq_add_of_le' (Nat.le_of_add_left_le deeper)
    have deeper := Nat.le_of_add_le_add_right deeper
    have stable : (levelAt source maxDepth depth).StableTo more
        (levelAt source' maxDepth' depth') := ⟨ih deeper, pattern_stable deeper⟩
    have parts := levelAt_consumes source maxDepth depth
    intro ts ts' x rest follow h kept
    exact expressionWith_stable stable parts closed power follow h kept

end
end DocExpr.Expr
