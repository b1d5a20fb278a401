import DocExpr.Proofs.Parser.Stability
import DocExpr.Proofs.Parser.Uniqueness

/-! Precedence climbing builds the tree that the precedences ask for. The loop over the operators of
one level takes links of a chain as long as they bind tightly enough; what it has built then binds
at least as tightly at its left edge, which is what the operator in front of it needs. -/
namespace DocExpr.Expr

/-- The operators that bind at least as tightly as `power` do not go on with this token. -/
def Token.Halts (power : Nat) : Token → Prop
  | .symbol .question => conditionalPower < power
  | .symbol s => ∀ op ∈ s.binaryOp?, op.power < power
  | .identifier word => word = "instanceof" → BinaryOp.less.power < power
  | _ => True

/-- The first token is a link of a chain, or joins chains. -/
def Token.trails : Token → Bool
  | .symbol s => s.binaryOp?.isSome || s = .question || s = .colon
  | .identifier word => word = "instanceof"
  | _ => false

/-- Nothing follows, or something that does not change the operand in front of it. -/
def Trails (tokens : List Token) : Prop := ∀ token ∈ tokens.head?, token.trails = true

/-- Nothing follows, or a mark that joins chains. -/
def Joins (tokens : List Token) : Prop :=
  ∀ token ∈ tokens.head?, token = .symbol .question ∨ token = .symbol .colon

theorem Joins.trails {tokens : List Token} (joins : Joins tokens) : Trails tokens := by
  intro token isHead
  rcases joins token isHead with rfl | rfl
  · rfl
  · rfl

section
variable {source : List Char} {level : Level} {ts : List Spanned}

theorem operators_halts {power : Nat} (halts : ∀ t ∈ ts.head?, t.token.Halts power) (fuel : Nat)
    (left : Node) : operators source level power (fuel + 1) left ts = .ok (left, ts) := by
  cases ts with
  | nil => rfl
  | cons t ts =>
    obtain ⟨token, offset⟩ := t
    have halt := halts _ rfl
    cases token with
    | identifier word =>
      refine if_pos ?_
      by_cases test : word = "instanceof"
      · exact .inr (halt test)
      · exact .inl test
    | symbol s =>
      by_cases conditional : s = .question
      · subst conditional
        exact if_pos halt
      · rw [operators_symbol conditional]
        split
        next op spelled =>
          have loose : op.power < power := by
            have halt : ∀ op ∈ s.binaryOp?, op.power < power := by
              cases s with
              | question => exact absurd rfl conditional
              | _ => exact halt
            exact halt op spelled
          exact if_pos loose
        next => rfl
    | _ => rfl

theorem postfixes_trails (trails : Trails (ts.map (·.token))) (fuel : Nat) (node : Node) :
    postfixes source level (fuel + 1) node ts = .ok (node, ts) := by
  cases ts with
  | nil => rfl
  | cons t ts =>
    obtain ⟨token, offset⟩ := t
    have trail := trails _ rfl
    cases token with
    | symbol s =>
      cases s with
      | dot | dotDot | leftBracket => cases trail
      | _ => rfl
    | _ => rfl

theorem afterName_trails (trails : Trails (ts.map (·.token))) {word : String}
    (plain : word ≠ "match") (start : Nat) :
    afterName source level word start ts = .ok (.ofName word, ts) := by
  cases ts with
  | nil => rfl
  | cons t ts =>
    obtain ⟨token, offset⟩ := t
    have trail := trails _ rfl
    cases token with
    | symbol s =>
      cases s with
      | arrow | leftParen | dot => cases trail
      | _ => exact if_neg plain
    | _ => exact if_neg plain

end

section
variable {source : List Char} {maxDepth : Nat} {ts : List Spanned} {others : List Token}

theorem primary_atom {level : Level} (atom : Atom) (trails : Trails others)
    (same : ts.map (·.token) = atom.token :: others) :
    ∃ rest, primary source level ts = .ok (atom.node, rest) ∧ rest.map (·.token) = others := by
  obtain ⟨offset, rest, rfl, tail⟩ := front_of_tokens same
  refine ⟨rest, ?_, tail⟩
  cases atom with
  | name word plain =>
    have noMatch : word ≠ "match" := by
      rintro rfl
      exact plain (by decide)
    rw [← tail] at trails
    exact afterName_trails trails noMatch offset
  | _ => rfl

theorem Atom.unaryOp?_token (atom : Atom) : unaryOp? atom.token = none := by
  cases atom with
  | name word plain =>
    refine if_neg ?_
    rintro rfl
    exact plain (by decide)
  | _ => rfl

theorem UnaryOp.unaryOp?_token (op : UnaryOp) : unaryOp? op.token = some op := by
  cases op <;> rfl

/-- The operators in front of an operand leave what follows the operand. -/
theorem Trails.halts (trails : Trails (ts.map (·.token))) :
    ∀ t ∈ ts.head?, t.token.Halts unaryPower := by
  cases ts with
  | nil => exact nofun
  | cons t ts =>
    rintro t ⟨⟩
    have trail := trails t.token rfl
    cases t.token with
    | identifier word => exact fun _ => by decide
    | symbol s =>
      cases s with
      | question => exact (by decide : conditionalPower < unaryPower)
      | _ =>
        intro op spelled
        cases spelled
        try decide
    | _ => exact trivial

theorem Operand.length_tokens (operand : Operand) :
    operand.tokens.length = operand.prefixes.length + 1 := by
  rw [Operand.tokens, List.length_append, List.length_map]
  rfl

theorem operand_chain (source : List Char) (maxDepth : Nat) (operand : Operand) {depth : Nat}
    (deep : operand.prefixes.length ≤ depth) (trails : Trails others)
    (same : ts.map (·.token) = operand.tokens ++ others) :
    ∃ rest, Expr.operand source (levelAt source maxDepth depth) ts = .ok (operand.node, rest) ∧
      rest.map (·.token) = others := by
  obtain ⟨prefixes, atom⟩ := operand
  induction prefixes generalizing ts depth with
  | nil =>
    have atomic : ts.map (·.token) = atom.token :: others := same
    obtain ⟨rest, read, left⟩ := primary_atom atom trails atomic
    obtain ⟨t, ts, rfl, head, -⟩ := List.map_eq_cons_iff.mp atomic
    have plain : unaryOp? t.token = none := by
      rw [head]
      exact atom.unaryOp?_token
    refine ⟨rest, ?_, left⟩
    rw [operand_plain plain]
    rw [← left] at trails
    exact bind_ok read (postfixes_trails trails _ _)
  | cons op prefixes ih =>
    obtain ⟨t, ts, rfl, head, tail⟩ := List.map_eq_cons_iff.mp same
    have spelled : unaryOp? t.token = some op := by
      rw [head]
      exact op.unaryOp?_token
    obtain ⟨depth, rfl⟩ := Nat.exists_eq_add_of_le' (Nat.le_of_add_left_le deep)
    obtain ⟨rest, read, left⟩ := ih (Nat.le_of_add_le_add_right deep) tail
    refine ⟨rest, ?_, left⟩
    rw [← left] at trails
    have inner : (levelAt source maxDepth (depth + 1)).expression unaryPower ts =
        .ok (Operand.node ⟨prefixes, atom⟩, rest) :=
      bind_ok read (operators_halts trails.halts _ _)
    rw [operand_applied spelled]
    exact bind_ok inner rfl

theorem BinaryOp.power_eq (op : BinaryOp) : op.power = 10 * op.precedence := rfl

theorem trails_links (links : List Link) (trails : Trails others) :
    Trails (links.flatMap Link.tokens ++ others) := by
  cases links with
  | nil => exact trails
  | cons link links =>
    cases link with
    | operator op operand =>
      rintro token ⟨⟩
      simp [Token.trails, op.symbol_binaryOp?]
    | test token name names =>
      rintro token ⟨⟩
      rfl

theorem BinaryOp.halts {op : BinaryOp} {power : Nat} (loose : op.power < power) :
    (Token.symbol op.symbol).Halts power := by
  cases op
  all_goals
    intro op spelled
    cases spelled
    exact loose

theorem length_of_tokens {rest : List Spanned} {front : List Token}
    (same : ts.map (·.token) = front ++ others) (left : rest.map (·.token) = others) :
    rest.length + front.length = ts.length := by
  have whole := congrArg List.length same
  have part := congrArg List.length left
  simp only [List.length_map, List.length_append] at whole part
  omega

/-- An operand in front of the links of a chain is read up to them. -/
theorem operand_links (source : List Char) (maxDepth : Nat) (operand : Operand) (links : List Link)
    {depth : Nat} (joins : Joins others)
    (same : ts.map (·.token) = operand.tokens ++ (links.flatMap Link.tokens ++ others))
    (deep : ts.length ≤ depth + 1) :
    ∃ rest, Expr.operand source (levelAt source maxDepth depth) ts = .ok (operand.node, rest) ∧
      rest.map (·.token) = links.flatMap Link.tokens ++ others ∧ rest.length < ts.length := by
  have nested : operand.prefixes.length ≤ depth := by
    have whole := congrArg List.length same
    simp only [List.length_map, List.length_append, operand.length_tokens] at whole
    omega
  obtain ⟨rest, read, left⟩ :=
    operand_chain source maxDepth operand nested (trails_links links joins.trails) same
  have taken := length_of_tokens same left
  rw [operand.length_tokens] at taken
  exact ⟨rest, read, left, by omega⟩

/-- A link that binds too loosely halts the operators, and so does what ends a chain, at every power
above that of a conditional. -/
theorem links_halt {power : Nat} {links : List Link}
    (stops : ∀ link ∈ links.head?, 10 * link.level < power)
    (ends : links = [] → ∀ token ∈ others.head?, token.Halts power)
    (same : ts.map (·.token) = links.flatMap Link.tokens ++ others) :
    ∀ t ∈ ts.head?, t.token.Halts power := by
  cases ts with
  | nil => exact nofun
  | cons t ts =>
    rintro t ⟨⟩
    cases links with
    | nil =>
      rw [List.flatMap_nil, List.nil_append] at same
      rw [← same] at ends
      exact ends rfl t.token rfl
    | cons link links =>
      have loose := stops link rfl
      cases link with
      | operator op operand =>
        have head : t.token = .symbol op.symbol := (List.cons.inj same).1
        rw [head]
        exact op.halts loose
      | test token name names =>
        have head : t.token = .identifier "instanceof" := (List.cons.inj same).1
        rw [head]
        exact fun _ => loose

theorem Joins.halts (joins : Joins others) {power : Nat} (tight : conditionalPower < power) :
    ∀ token ∈ others.head?, token.Halts power := by
  intro token isHead
  rcases joins token isHead with rfl | rfl
  · exact tight
  · exact nofun

/-- An operator that binds tightly enough takes its right side from the next level. -/
theorem operators_operator {level : Level} {op : BinaryOp} {power : Nat}
    (tight : ¬ op.power < power) (fuel offset : Nat) (left : Node) (ts : List Spanned) :
    operators source level power (fuel + 1) left (⟨.symbol op.symbol, offset⟩ :: ts) = (do
      let (right, ts) ← level.expression (op.power + 1) ts
      operators source level power fuel (.binary op left right) ts) := by
  have other : op.symbol ≠ .question := by cases op <;> decide
  rw [operators_symbol other, op.symbol_binaryOp?]
  exact if_neg tight

theorem operators_test {level : Level} {t : Spanned} {name : String}
    (names : typeName? t.token = some name) {power : Nat} (tight : ¬ BinaryOp.less.power < power)
    (fuel offset : Nat) (left : Node) (ts : List Spanned) :
    operators source level power (fuel + 1) left (⟨.identifier "instanceof", offset⟩ :: t :: ts) =
      operators source level power fuel (.instanceOf left name) ts := by
  have goesOn : ¬ ("instanceof" ≠ "instanceof" ∨ BinaryOp.less.power < power) := by
    rintro (other | loose)
    · exact other rfl
    · exact tight loose
  conv =>
    lhs
    unfold operators
  dsimp only
  rw [if_neg goesOn, names]

/-- The operators of a level take the front of a chain of links: what is left in front of them
becomes a grouped tree, and the next link, if any, binds too loosely. -/
structure Climbed (power : Nat) (left : Node) (links : List Link) (tree : Node)
    (after : List Link) : Prop where
  taken : ∃ front, links = front ++ after ∧
    tree.pieces = left.pieces ++ front.flatMap Link.pieces
  stops : ∀ link ∈ after.head?, 10 * link.level < power
  grouped : tree.Grouped
  edge : power ≤ 10 * tree.edge
  positive : 0 < tree.edge

/-- A tree that the operators of a level may have for what they have read so far. -/
structure Fits (power : Nat) (left : Node) (links : List Link) : Prop where
  grouped : left.Grouped
  ready : ∀ link ∈ links.head?, left.isTest = true ∨ link.level ≤ left.rank
  edge : power ≤ 10 * left.edge
  positive : 0 < left.edge

section
variable {power : Nat} {left right tree : Node} {links mid after : List Link}

theorem Fits.operand (operand : Operand) (loose : power ≤ unaryPower) (links : List Link) :
    Fits power operand.node links where
  grouped := .operand operand
  ready := by
    intro link _
    right
    rw [Node.rank_of_single operand.joins_node]
    cases link with
    | operator op operand => exact Nat.le_of_lt op.precedence_lt
    | test => exact (by decide : BinaryOp.less.precedence ≤ unaryPower / 10)
  edge := by
    rw [Node.edge_of_single operand.joins_node]
    exact loose
  positive := by
    rw [Node.edge_of_single operand.joins_node]
    decide

theorem Fits.done (fits : Fits power left links)
    (stops : ∀ link ∈ links.head?, 10 * link.level < power) :
    Climbed power left links left links where
  taken := ⟨[], rfl, by simp⟩
  stops := stops
  grouped := fits.grouped
  edge := fits.edge
  positive := fits.positive

theorem Fits.operator {op : BinaryOp} {operand : Operand}
    (fits : Fits power left (.operator op operand :: links)) (tight : ¬ op.power < power)
    (climbed : Climbed (op.power + 1) operand.node links right mid) :
    Fits power (.binary op left right) mid where
  grouped := by
    have inner := climbed.edge
    rw [op.power_eq] at inner
    exact .binary fits.grouped climbed.grouped (fits.ready _ rfl) (by omega)
  ready := by
    intro link isHead
    right
    have loose := climbed.stops link isHead
    rw [op.power_eq] at loose
    change link.level ≤ op.precedence
    omega
  edge := by
    have outer := fits.edge
    rw [op.power_eq] at tight
    change power ≤ 10 * min op.precedence left.edge
    omega
  positive := Nat.lt_min.mpr ⟨op.precedence_pos, fits.positive⟩

theorem Fits.test {token : Token} {name : String} {names : typeName? token = some name}
    (fits : Fits power left (.test token name names :: links))
    (tight : ¬ BinaryOp.less.power < power) : Fits power (.instanceOf left name) links where
  grouped := by
    refine .instanceOf name fits.grouped ?_
    rcases fits.ready _ rfl with isTest | loose
    · exact Nat.le_of_eq (Node.rank_of_isTest isTest).symm
    · exact loose
  ready := fun _ _ => .inl rfl
  edge := by
    have outer := fits.edge
    rw [BinaryOp.power_eq] at tight
    change power ≤ 10 * min BinaryOp.less.precedence left.edge
    omega
  positive := Nat.lt_min.mpr ⟨by decide, fits.positive⟩

theorem Climbed.operator {op : BinaryOp} {operand : Operand}
    (first : Climbed (op.power + 1) operand.node links right mid)
    (next : Climbed power (.binary op left right) mid tree after) :
    Climbed power left (.operator op operand :: links) tree after where
  taken := by
    obtain ⟨front, same, pieces⟩ := first.taken
    obtain ⟨front', same', pieces'⟩ := next.taken
    refine ⟨.operator op operand :: front ++ front', ?_, ?_⟩
    · rw [same, same', List.cons_append, List.cons_append, List.append_assoc]
    · rw [pieces', Node.pieces, pieces, Node.pieces_of_single operand.joins_node]
      simp [Link.pieces]
  stops := next.stops
  grouped := next.grouped
  edge := next.edge
  positive := next.positive

theorem Climbed.test {token : Token} {name : String} (names : typeName? token = some name)
    (next : Climbed power (.instanceOf left name) links tree after) :
    Climbed power left (.test token name names :: links) tree after where
  taken := by
    obtain ⟨front, same, pieces⟩ := next.taken
    refine ⟨.test token name names :: front, ?_, ?_⟩
    · rw [same]
      rfl
    · rw [pieces, Node.pieces]
      simp [Link.pieces]
  stops := next.stops
  grouped := next.grouped
  edge := next.edge
  positive := next.positive

end

theorem operators_links (source : List Char) (maxDepth bound : Nat) {links : List Link}
    (short : links.length ≤ bound) {power depth fuel : Nat} {left : Node} {ts : List Spanned}
    (joins : Joins others) (same : ts.map (·.token) = links.flatMap Link.tokens ++ others)
    (deep : ts.length ≤ depth) (enough : ts.length < fuel) (fits : Fits power left links) :
    ∃ tree after rest fuel', operators source (levelAt source maxDepth depth) power fuel left ts =
        operators source (levelAt source maxDepth depth) power fuel' tree rest ∧
      rest.map (·.token) = after.flatMap Link.tokens ++ others ∧ rest.length ≤ ts.length ∧
      rest.length < fuel' ∧ Climbed power left links tree after := by
  induction bound generalizing links power depth fuel left ts with
  | zero =>
    cases List.length_eq_zero_iff.mp (Nat.le_zero.mp short)
    exact ⟨left, [], ts, fuel, rfl, same, Nat.le_refl _, enough, fits.done nofun⟩
  | succ bound ih =>
    cases links with
    | nil => exact ⟨left, [], ts, fuel, rfl, same, Nat.le_refl _, enough, fits.done nofun⟩
    | cons link links =>
      have fewer : links.length ≤ bound := Nat.le_of_add_le_add_right short
      obtain ⟨fuel, rfl⟩ : ∃ n, fuel = n + 1 := ⟨fuel - 1, by omega⟩
      by_cases loose : 10 * link.level < power
      · refine ⟨left, link :: links, ts, fuel + 1, rfl, same, Nat.le_refl _, enough, fits.done ?_⟩
        rintro link ⟨⟩
        exact loose
      cases link with
      | operator op operand =>
        obtain ⟨offset, ts, rfl, tail⟩ := front_of_tokens same
        rw [List.length_cons] at deep enough
        obtain ⟨depth, rfl⟩ : ∃ n, depth = n + 1 := ⟨depth - 1, by omega⟩
        have tail : ts.map (·.token) =
            operand.tokens ++ (links.flatMap Link.tokens ++ others) := by
          rw [← List.append_assoc]
          exact tail
        obtain ⟨ts₁, read₁, left₁, taken⟩ :=
          operand_links source maxDepth operand links joins tail (Nat.le_of_succ_le deep)
        have deep₁ : ts₁.length ≤ depth := by omega
        obtain ⟨right, mid, ts₂, fuel₂, read₂, left₂, shorter, enough₂, climbed⟩ :=
          ih fewer left₁ deep₁ (Nat.lt_succ_self _) (.operand operand op.power_lt links)
        obtain ⟨fuel₂, rfl⟩ : ∃ n, fuel₂ = n + 1 := ⟨fuel₂ - 1, by omega⟩
        have tight : conditionalPower < op.power + 1 := Nat.lt_succ_of_lt op.lt_power
        have halts := links_halt climbed.stops (fun _ => joins.halts tight) left₂
        have inner : (levelAt source maxDepth (depth + 1)).expression (op.power + 1) ts =
            .ok (right, ts₂) :=
          bind_ok read₁ (read₂.trans (operators_halts halts fuel₂ right))
        have fewer₂ : mid.length ≤ bound := by
          obtain ⟨front, all, -⟩ := climbed.taken
          rw [all, List.length_append] at fewer
          omega
        have deep₂ : ts₂.length ≤ depth + 1 := by omega
        have enough₂ : ts₂.length < fuel := by omega
        obtain ⟨tree, after, rest, fuel₃, read₃, left₃, shorter₃, enough₃, next⟩ :=
          ih fewer₂ left₂ deep₂ enough₂ (fits.operator loose climbed)
        refine ⟨tree, after, rest, fuel₃, ?_, left₃, ?_, enough₃, climbed.operator next⟩
        · rw [operators_operator loose, inner]
          exact read₃
        · rw [List.length_cons]
          omega
      | test token name names =>
        obtain ⟨offset, ts, rfl, tail⟩ := front_of_tokens same
        obtain ⟨t, ts, rfl, named, behind⟩ := List.map_eq_cons_iff.mp tail
        have names' : typeName? t.token = some name := by rw [named, names]
        rw [List.length_cons, List.length_cons] at deep enough
        have deep' : ts.length ≤ depth := by omega
        have enough' : ts.length < fuel := by omega
        obtain ⟨tree, after, rest, fuel', read, left', shorter, enough', climbed⟩ :=
          ih fewer behind deep' enough' (fits.test loose)
        refine ⟨tree, after, rest, fuel', ?_, left', ?_, enough', climbed.test names⟩
        · rw [operators_test names' loose]
          exact read
        · rw [List.length_cons, List.length_cons]
          omega

/-- The loosest powers take every link of a chain. -/
theorem Climbed.all {power : Nat} {left tree : Node} {links after : List Link}
    (climbed : Climbed power left links tree after) (loose : power ≤ conditionalPower) :
    after = [] ∧ tree.pieces = left.pieces ++ links.flatMap Link.pieces := by
  have nothing : after = [] := by
    cases after with
    | nil => rfl
    | cons link after =>
      have stop := climbed.stops link rfl
      have positive := link.level_pos
      have atMost : power ≤ 5 := loose
      omega
  obtain ⟨front, same, pieces⟩ := climbed.taken
  subst nothing
  rw [List.append_nil] at same
  rw [same]
  exact ⟨rfl, pieces⟩

/-- A chain is read up to what joins it to another. -/
theorem chain_read (source : List Char) (maxDepth : Nat) (chain : Chain) {power depth : Nat}
    (loose : power ≤ conditionalPower) (joins : Joins others)
    (same : ts.map (·.token) = chain.tokens ++ others) (deep : ts.length ≤ depth + 1) :
    ∃ tree rest fuel,
      expression source maxDepth (depth + 1) power ts =
        operators source (levelAt source maxDepth depth) power fuel tree rest ∧
      rest.map (·.token) = others ∧ rest.length < ts.length ∧ rest.length < fuel ∧
      tree.pieces = chain.pieces ∧ tree.Grouped ∧ 0 < tree.rank := by
  rw [Chain.tokens, List.append_assoc] at same
  obtain ⟨middle, read, left, taken⟩ :=
    operand_links source maxDepth chain.first chain.links joins same deep
  have deep' : middle.length ≤ depth := by omega
  have power_le : power ≤ unaryPower := Nat.le_trans loose (by decide)
  obtain ⟨tree, after, rest, fuel, climb, left', shorter, enough, climbed⟩ :=
    operators_links source maxDepth chain.links.length (Nat.le_refl _) joins left deep'
      (Nat.lt_succ_self _) (.operand chain.first power_le chain.links)
  obtain ⟨rfl, pieces⟩ := climbed.all loose
  refine ⟨tree, rest, fuel, ?_, left', by omega, enough, ?_, climbed.grouped, ?_⟩
  · rw [← climb]
    change (operand source (levelAt source maxDepth depth) ts >>= _) = _
    rw [read]
    rfl
  · rw [pieces, Node.pieces_of_single chain.first.joins_node]
    rfl
  · exact Nat.lt_of_lt_of_le climbed.positive tree.edge_le_rank

theorem colon_halts (ends : ∀ token ∈ others.head?, token = .symbol .colon)
    (same : ts.map (·.token) = others) (power : Nat) :
    ∀ t ∈ ts.head?, t.token.Halts power := by
  cases ts with
  | nil => exact nofun
  | cons t ts =>
    rintro t ⟨⟩
    rw [← same] at ends
    rw [ends t.token rfl]
    exact nofun

theorem Joined.tokens_pos (joined : Joined) : 0 < joined.tokens.length := by
  cases joined with
  | single chain =>
    rw [Joined.tokens, Chain.tokens, List.length_append, chain.first.length_tokens]
    omega
  | choice condition thenBranch elseBranch =>
    rw [Joined.tokens, List.length_append, List.length_cons]
    omega

theorem Joined.length_pos (joined : Joined) (same : ts.map (·.token) = joined.tokens ++ others) :
    0 < ts.length := by
  have whole := congrArg List.length same
  have positive := joined.tokens_pos
  rw [List.length_map, List.length_append] at whole
  omega

/-- Joined chains are read up to a colon that follows them. -/
theorem expression_joined (source : List Char) (maxDepth : Nat) (joined : Joined)
    {power depth : Nat} (loose : power ≤ conditionalPower)
    (ends : ∀ token ∈ others.head?, token = .symbol .colon)
    (same : ts.map (·.token) = joined.tokens ++ others) (deep : ts.length ≤ depth) :
    ∃ tree rest, expression source maxDepth depth power ts = .ok (tree, rest) ∧
      rest.map (·.token) = others ∧ rest.length < ts.length ∧ tree.pieces = joined.pieces ∧
      tree.Grouped := by
  induction joined generalizing power depth ts others with
  | single chain =>
    have some := Joined.length_pos (.single chain) same
    obtain ⟨depth, rfl⟩ : ∃ n, depth = n + 1 := ⟨depth - 1, by omega⟩
    have joins : Joins others := fun token isHead => .inr (ends token isHead)
    obtain ⟨tree, rest, fuel, read, left, shorter, enough, pieces, grouped, -⟩ :=
      chain_read source maxDepth chain loose joins same deep
    obtain ⟨fuel, rfl⟩ : ∃ n, fuel = n + 1 := ⟨fuel - 1, by omega⟩
    have halts := colon_halts ends left power
    exact ⟨tree, rest, read.trans (operators_halts halts fuel tree), left, shorter, pieces,
      grouped⟩
  | choice condition thenBranch elseBranch ihThen ihElse =>
    have some := Joined.length_pos (.choice condition thenBranch elseBranch) same
    obtain ⟨depth, rfl⟩ : ∃ n, depth = n + 1 := ⟨depth - 1, by omega⟩
    simp only [Joined.tokens, List.append_assoc, List.cons_append] at same
    have joins : Joins (.symbol .question ::
        (thenBranch.tokens ++ .symbol .colon :: (elseBranch.tokens ++ others))) := by
      rintro token ⟨⟩
      exact .inl rfl
    obtain ⟨first, rest, fuel, read, left, shorter, enough, pieces, grouped, ranked⟩ :=
      chain_read source maxDepth condition loose joins same deep
    obtain ⟨fuel, rfl⟩ : ∃ n, fuel = n + 1 := ⟨fuel - 1, by omega⟩
    obtain ⟨start, ts₁, rfl, tail⟩ := front_of_tokens left
    rw [List.length_cons] at shorter enough
    have toColon : ∀ token ∈ (Token.symbol .colon :: (elseBranch.tokens ++ others)).head?,
        token = .symbol .colon := by
      rintro token ⟨⟩
      rfl
    have deep₁ : ts₁.length ≤ depth := by omega
    obtain ⟨second, rest₁, read₁, left₁, shorter₁, pieces₁, grouped₁⟩ :=
      ihThen (Nat.zero_le _) toColon tail deep₁
    obtain ⟨offset, ts₂, rfl, tail₁⟩ := front_of_tokens left₁
    rw [List.length_cons] at shorter₁
    have deep₂ : ts₂.length ≤ depth := by omega
    obtain ⟨third, rest₂, read₂, left₂, shorter₂, pieces₂, grouped₂⟩ :=
      ihElse (Nat.le_refl _) ends tail₁ deep₂
    have choice : conditionalRest source (levelAt source maxDepth depth) first start ts₁ =
        .ok (.conditional first second third, rest₂) :=
      bind_ok read₁ (bind_ok read₂ rfl)
    have halts := colon_halts ends left₂ power
    obtain ⟨fuel, rfl⟩ : ∃ n, fuel = n + 1 := ⟨fuel - 1, by omega⟩
    have whole : expression source maxDepth (depth + 1) power ts =
        .ok (.conditional first second third, rest₂) := by
      rw [read, operators, if_neg (Nat.not_lt.mpr loose)]
      exact bind_ok choice (operators_halts halts fuel _)
    refine ⟨.conditional first second third, rest₂, whole, left₂, ?_, ?_, ?_⟩
    · omega
    · rw [Node.pieces, pieces, pieces₁, pieces₂]
      rfl
    · exact .conditional grouped grouped₁ grouped₂ ranked

end

/-- The parser builds the tree that the precedences ask for: chains of operands, perhaps joined as
conditionals, parse to the one tree that reads in order as they do and is grouped by precedence. -/
theorem chains_parse_grouped {text : String} {maxDepth : Nat} (joined : Joined)
    (spelled : tokensIn text = joined.tokens) (deep : joined.tokens.length ≤ maxDepth) :
    ∃ tree, parseWithDepth text maxDepth = .ok tree ∧ tree.pieces = joined.pieces ∧
      tree.Grouped ∧
      ∀ other : Node, other.Grouped → other.pieces = joined.pieces → other = tree := by
  obtain ⟨token, tokens, some⟩ := List.exists_cons_of_length_pos joined.tokens_pos
  rw [some] at spelled
  obtain ⟨ts, read, same⟩ := tokensOf_of_tokensIn spelled
  rw [← some] at same
  have deep : ts.length ≤ maxDepth := by
    rw [← same, List.length_map] at deep
    exact deep
  have whole : ts.map (·.token) = joined.tokens ++ [] := by
    rw [same, List.append_nil]
  have ends : ∀ token ∈ ([] : List Token).head?, token = .symbol .colon := nofun
  obtain ⟨tree, rest, parsed, left, -, pieces, grouped⟩ :=
    expression_joined text.toList maxDepth joined (Nat.zero_le _) ends whole deep
  cases List.map_eq_nil_iff.mp left
  refine ⟨tree, bind_ok read (bind_ok parsed rfl), pieces, grouped, ?_⟩
  intro other grouped' pieces'
  exact grouped'.eq_of_pieces grouped (pieces'.trans pieces.symm)

/-- `!a - b * -c < d instanceof T && e ? f : g || h`. -/
def guarded : Joined :=
  let plain (word : String) (plain : word ∉ keywords) : Operand := ⟨[], .name word plain⟩
  .choice
    ⟨⟨[.not], .name "a" (by decide)⟩,
      [.operator .subtract (plain "b" (by decide)),
        .operator .multiply ⟨[.negate], .name "c" (by decide)⟩,
        .operator .less (plain "d" (by decide)),
        .test (.identifier "T") "T" rfl,
        .operator .and (plain "e" (by decide))]⟩
    (.single ⟨plain "f" (by decide), []⟩)
    (.single ⟨plain "g" (by decide), [.operator .or (plain "h" (by decide))]⟩)

/-- Operators of five precedences, two prefixes, a type test and a choice parse as one tree. -/
theorem guarded_parses_grouped :
    tokensIn "!a - b * -c < d instanceof T && e ? f : g || h" = guarded.tokens ∧
    guarded.tokens.length ≤ 32 ∧
    ∃ tree, parseWithDepth "!a - b * -c < d instanceof T && e ? f : g || h" 32 = .ok tree ∧
      tree.pieces = guarded.pieces ∧ tree.Grouped ∧
      ∀ other : Node, other.Grouped → other.pieces = guarded.pieces → other = tree := by
  have spelled : tokensIn "!a - b * -c < d instanceof T && e ? f : g || h" = guarded.tokens := rfl
  have deep : guarded.tokens.length ≤ 32 := by decide
  exact ⟨spelled, deep, chains_parse_grouped guarded spelled deep⟩

end DocExpr.Expr
