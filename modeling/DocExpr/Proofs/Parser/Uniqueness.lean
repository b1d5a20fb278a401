import DocExpr.Proofs.Parser.Chain

/-! Pieces in order determine the tree that is grouped by precedence. Two candidates for its root
exclude each other: the one further left binds looser than all that is right of it, and what stands
left of the other one holds nothing looser that is still open. Conditionals are matched like
parentheses, a question mark with its colon. -/
namespace DocExpr.Expr

/-- The precedence of a piece. -/
def Piece.level : Piece → Nat
  | .operand _ => unaryPower / 10
  | .operator op => op.precedence
  | .test _ => BinaryOp.less.precedence
  | .question | .colon => 0

section
variable {left left' right right' : List Piece} {piece piece' : Piece}

/-- Two pieces taken out of the same row are the same one, or one stands left of the other. -/
theorem split_cases (same : left ++ piece :: right = left' ++ piece' :: right') :
    (left = left' ∧ piece = piece' ∧ right = right') ∨
      (∃ middle, left' = left ++ piece :: middle ∧ right = middle ++ piece' :: right') ∨
        ∃ middle, left = left' ++ piece' :: middle ∧ right' = middle ++ piece :: right := by
  obtain ⟨between, atLeft, atRight⟩ | ⟨between, atLeft, atRight⟩ :=
    List.append_eq_append_iff.mp same
  · cases between with
    | nil =>
      cases atRight
      exact .inl ⟨by rw [atLeft, List.append_nil], rfl, rfl⟩
    | cons first middle =>
      cases atRight
      exact .inr (.inl ⟨middle, atLeft, rfl⟩)
  · cases between with
    | nil =>
      cases atRight
      exact .inl ⟨by rw [atLeft, List.append_nil], rfl, rfl⟩
    | cons first middle =>
      cases atRight
      exact .inr (.inr ⟨middle, atLeft, rfl⟩)

end

section
variable {node : Node}

/-- What is inside a tree binds at least as tightly as its left edge. -/
theorem Node.Grouped.level_ge (grouped : node.Grouped) :
    ∀ piece ∈ node.pieces, node.edge ≤ piece.level := by
  induction grouped with
  | operand operand =>
    rw [Node.pieces_of_single operand.joins_node, Node.edge_of_single operand.joins_node]
    intro piece isIn
    cases List.mem_singleton.mp isIn
    exact Nat.le_refl _
  | @binary op left right _ _ _ tight ihLeft ihRight =>
    intro piece isIn
    have atLeft : (Node.binary op left right).edge ≤ left.edge := Nat.min_le_right _ _
    have atRoot : (Node.binary op left right).edge ≤ op.precedence := Nat.min_le_left _ _
    rw [Node.pieces, List.mem_append, List.mem_cons] at isIn
    rcases isIn with inLeft | rfl | inRight
    · exact Nat.le_trans atLeft (ihLeft piece inLeft)
    · exact atRoot
    · exact Nat.le_trans atRoot (Nat.le_of_lt (Nat.lt_of_lt_of_le tight (ihRight piece inRight)))
  | @instanceOf value typeName _ _ ih =>
    intro piece isIn
    rw [Node.pieces, List.mem_append, List.mem_singleton] at isIn
    rcases isIn with inValue | rfl
    · exact Nat.le_trans (Nat.min_le_right _ _) (ih piece inValue)
    · exact Nat.min_le_left _ _
  | conditional => exact fun _ _ => Nat.zero_le _

/-- A tree that is no conditional has none on its left edge. -/
theorem Node.Grouped.edge_pos (grouped : node.Grouped) (ranked : 0 < node.rank) :
    0 < node.edge := by
  induction grouped with
  | operand operand =>
    rw [Node.edge_of_single operand.joins_node]
    decide
  | @binary op left right _ _ loose _ ihLeft _ =>
    refine Nat.lt_min.mpr ⟨op.precedence_pos, ihLeft ?_⟩
    rcases loose with isTest | loose
    · rw [Node.rank_of_isTest isTest]
      exact BinaryOp.precedence_pos .less
    · exact Nat.lt_of_lt_of_le op.precedence_pos loose
  | @instanceOf value typeName _ loose ih =>
    have positive := BinaryOp.precedence_pos .less
    exact Nat.lt_min.mpr ⟨positive, ih (Nat.lt_of_lt_of_le positive loose)⟩
  | conditional => cases ranked

theorem Node.Grouped.no_question (grouped : node.Grouped) (ranked : 0 < node.rank) :
    Piece.question ∉ node.pieces := by
  intro isIn
  exact absurd (grouped.level_ge _ isIn) (Nat.not_le.mpr (grouped.edge_pos ranked))

/-- An operator that binds looser than the root of its tree stands left of a test of the type, and
then something that binds no tighter follows it. -/
theorem Node.Grouped.looser_follows (grouped : node.Grouped) {op : BinaryOp}
    (looser : node.isTest = true ∨ op.precedence < node.rank) {before after : List Piece}
    (split : node.pieces = before ++ .operator op :: after) :
    ∃ piece ∈ after, piece.level ≤ op.precedence := by
  induction grouped generalizing before after with
  | operand operand =>
    rw [Node.pieces_of_single operand.joins_node] at split
    have isIn : Piece.operator op ∈ [Piece.operand operand.node] := by
      rw [split]
      exact List.mem_append_right _ List.mem_cons_self
    cases List.mem_singleton.mp isIn
  | @binary root left right _ isRight loose tight ihLeft ihRight =>
    have below : op.precedence < root.precedence := looser.resolve_left Bool.noConfusion
    obtain ⟨-, same, -⟩ | ⟨middle, -, inRight⟩ | ⟨middle, inLeft, rest⟩ := split_cases split
    · cases same
      exact absurd below (Nat.lt_irrefl _)
    · have isIn : Piece.operator op ∈ right.pieces := by
        rw [inRight]
        exact List.mem_append_right _ List.mem_cons_self
      have above : right.edge ≤ op.precedence := isRight.level_ge _ isIn
      omega
    · have looser : left.isTest = true ∨ op.precedence < left.rank :=
        loose.imp_right (Nat.lt_of_lt_of_le below)
      obtain ⟨piece, isIn, level⟩ := ihLeft looser inLeft
      rw [rest]
      exact ⟨piece, List.mem_append_left _ isIn, level⟩
  | @instanceOf value typeName _ loose ih =>
    obtain ⟨-, same, -⟩ | ⟨middle, -, inRight⟩ | ⟨middle, inLeft, rest⟩ := split_cases split
    · cases same
    · cases middle <;> cases inRight
    · rw [rest]
      by_cases low : BinaryOp.less.precedence ≤ op.precedence
      · exact ⟨.test typeName, List.mem_append_right _ List.mem_cons_self, low⟩
      · have looser := Nat.lt_of_lt_of_le (Nat.not_le.mp low) loose
        obtain ⟨piece, isIn, level⟩ := ih (.inr looser) inLeft
        exact ⟨piece, List.mem_append_left _ isIn, level⟩
  | conditional =>
    rcases looser with isTest | below
    · cases isTest
    · cases below

end

/-- A way to take the root out of the pieces of a grouped tree: what is left of it, itself, and what
is right of it. -/
structure Node.Rooted (node left : Node) (root : Piece) (right : List Piece) : Prop where
  whole : node.pieces = left.pieces ++ root :: right
  grouped : left.Grouped
  loose : left.isTest = true ∨ root.level ≤ left.rank
  tight : ∀ piece ∈ right, root.level < piece.level
  operator : right ≠ [] → ∃ op, root = .operator op

section
variable {node node' left left' right : Node} {root root' : Piece} {rest rest' : List Piece}

theorem Node.Rooted.binary {op : BinaryOp} (isLeft : left.Grouped) (isRight : right.Grouped)
    (loose : left.isTest = true ∨ op.precedence ≤ left.rank)
    (tight : op.precedence < right.edge) :
    (Node.binary op left right).Rooted left (.operator op) right.pieces where
  whole := rfl
  grouped := isLeft
  loose := loose
  tight piece isIn := Nat.lt_of_lt_of_le tight (isRight.level_ge piece isIn)
  operator _ := ⟨op, rfl⟩

theorem Node.Rooted.instanceOf (typeName : String) (isValue : left.Grouped)
    (loose : BinaryOp.less.precedence ≤ left.rank) :
    (Node.instanceOf left typeName).Rooted left (.test typeName) [] where
  whole := rfl
  grouped := isValue
  loose := .inr loose
  tight := nofun
  operator none := absurd rfl none

/-- Of two roots none stands left of the other. -/
theorem Node.Rooted.not_left (rooted : node.Rooted left root rest)
    (rooted' : node'.Rooted left' root' rest') {middle : List Piece}
    (inLeft : left'.pieces = left.pieces ++ root :: middle) :
    rest ≠ middle ++ root' :: rest' := by
  intro inRest
  have later : root' ∈ rest := by
    rw [inRest]
    exact List.mem_append_right _ List.mem_cons_self
  have below := rooted.tight root' later
  obtain ⟨op, rfl⟩ := rooted.operator (List.ne_nil_of_mem later)
  have looser : left'.isTest = true ∨ op.precedence < left'.rank :=
    rooted'.loose.imp_right (Nat.lt_of_lt_of_le below)
  obtain ⟨piece, isIn, level⟩ := rooted'.grouped.looser_follows looser inLeft
  have inside : piece ∈ rest := by
    rw [inRest]
    exact List.mem_append_left _ isIn
  exact absurd level (Nat.not_le.mpr (rooted.tight piece inside))

theorem Node.Rooted.unique (rooted : node.Rooted left root rest)
    (rooted' : node'.Rooted left' root' rest') (same : node.pieces = node'.pieces) :
    left.pieces = left'.pieces ∧ root = root' ∧ rest = rest' := by
  rw [rooted.whole, rooted'.whole] at same
  obtain equal | ⟨middle, inLeft, inRest⟩ | ⟨middle, inLeft, inRest⟩ := split_cases same
  · exact equal
  · exact absurd inRest (rooted.not_left rooted' inLeft)
  · exact absurd inRest (rooted'.not_left rooted inLeft)

end

/-- The question marks that are open after some pieces, or none if a colon closes no question mark;
`n` are open before. -/
def opened : Nat → List Piece → Option Nat
  | n, [] => some n
  | n, .question :: pieces => opened (n + 1) pieces
  | 0, .colon :: _ => none
  | n + 1, .colon :: pieces => opened n pieces
  | n, _ :: pieces => opened n pieces

section
variable {node node' : Node} {rest rest' : List Piece}

theorem Node.Grouped.opened_pieces (grouped : node.Grouped) (n : Nat) (rest : List Piece) :
    opened n (node.pieces ++ rest) = opened n rest := by
  induction grouped generalizing n rest with
  | operand operand =>
    rw [Node.pieces_of_single operand.joins_node]
    rfl
  | binary _ _ _ _ ihLeft ihRight =>
    rw [Node.pieces, List.append_assoc, ihLeft]
    exact ihRight n rest
  | instanceOf _ _ _ ih =>
    rw [Node.pieces, List.append_assoc, ih]
    rfl
  | conditional _ _ _ _ ihCondition ihThen ihElse =>
    rw [Node.pieces, List.append_assoc, List.append_assoc, ihCondition]
    exact (ihThen (n + 1) _).trans (ihElse n rest)

/-- A tree in front of a colon that it does not open reaches up to it. -/
theorem Node.Grouped.not_past_colon (grouped : node.Grouped) (grouped' : node'.Grouped)
    {middle : List Piece} : node'.pieces ≠ node.pieces ++ .colon :: middle := by
  intro same
  have closed := grouped'.opened_pieces 0 []
  rw [List.append_nil, same, grouped.opened_pieces] at closed
  cases closed

theorem Node.Grouped.colon_unique (grouped : node.Grouped) (grouped' : node'.Grouped)
    (same : node.pieces ++ .colon :: rest = node'.pieces ++ .colon :: rest') :
    node.pieces = node'.pieces ∧ rest = rest' := by
  obtain ⟨equal, -, equal'⟩ | ⟨middle, inLeft, -⟩ | ⟨middle, inLeft, -⟩ := split_cases same
  · exact ⟨equal, equal'⟩
  · exact absurd inLeft (grouped.not_past_colon grouped')
  · exact absurd inLeft (grouped'.not_past_colon grouped)

theorem question_unique {left left' : List Piece} (none : Piece.question ∉ left)
    (none' : Piece.question ∉ left')
    (same : left ++ .question :: rest = left' ++ .question :: rest') :
    left = left' ∧ rest = rest' := by
  obtain ⟨equal, -, equal'⟩ | ⟨middle, rfl, -⟩ | ⟨middle, rfl, -⟩ := split_cases same
  · exact ⟨equal, equal'⟩
  · exact absurd (List.mem_append_right _ List.mem_cons_self) none'
  · exact absurd (List.mem_append_right _ List.mem_cons_self) none

end

/-- Only an operand reads as one operand. -/
theorem Node.eq_of_pieces_operand {node operand : Node} (same : node.pieces = [.operand operand]) :
    node = operand := by
  have only : ∀ piece ∈ node.pieces, piece = .operand operand := by
    intro piece isIn
    rw [same] at isIn
    exact List.mem_singleton.mp isIn
  cases node with
  | binary op left right =>
    cases only (.operator op) (List.mem_append_right _ List.mem_cons_self)
  | instanceOf value typeName =>
    cases only (.test typeName) (List.mem_append_right _ List.mem_cons_self)
  | conditional condition thenBranch elseBranch =>
    cases only .colon (List.mem_append_right _ List.mem_cons_self)
  | _ =>
    cases same
    rfl

theorem Node.pieces_conditional (condition thenBranch elseBranch : Node) :
    (Node.conditional condition thenBranch elseBranch).pieces =
      condition.pieces ++ .question :: (thenBranch.pieces ++ .colon :: elseBranch.pieces) := by
  rw [Node.pieces, List.append_assoc]
  rfl

theorem Node.Grouped.ne_conditional {node : Node} (grouped : node.Grouped) (ranked : 0 < node.rank)
    (condition thenBranch elseBranch : Node) :
    node.pieces ≠ (Node.conditional condition thenBranch elseBranch).pieces := by
  intro same
  refine grouped.no_question ranked ?_
  rw [same, Node.pieces_conditional]
  exact List.mem_append_right _ List.mem_cons_self

/-- Two trees grouped by precedence that read alike in order are the same tree. -/
theorem Node.Grouped.eq_of_pieces {node node' : Node} (grouped : node.Grouped)
    (grouped' : node'.Grouped) (same : node.pieces = node'.pieces) : node = node' := by
  induction grouped generalizing node' with
  | operand operand =>
    rw [Node.pieces_of_single operand.joins_node] at same
    exact (Node.eq_of_pieces_operand same.symm).symm
  | @binary op left right isLeft isRight loose tight ihLeft ihRight =>
    have rooted := Node.Rooted.binary isLeft isRight loose tight
    cases grouped' with
    | operand operand =>
      rw [Node.pieces_of_single operand.joins_node] at same
      exact Node.eq_of_pieces_operand same
    | binary isLeft' isRight' loose' tight' =>
      obtain ⟨lefts, roots, rights⟩ :=
        rooted.unique (.binary isLeft' isRight' loose' tight') same
      cases roots
      rw [ihLeft isLeft' lefts, ihRight isRight' rights]
    | instanceOf typeName isValue loose' =>
      obtain ⟨-, roots, -⟩ := rooted.unique (.instanceOf typeName isValue loose') same
      cases roots
    | conditional =>
      have whole := Node.Grouped.binary isLeft isRight loose tight
      exact absurd same (whole.ne_conditional op.precedence_pos _ _ _)
  | @instanceOf value typeName isValue loose ih =>
    have rooted := Node.Rooted.instanceOf typeName isValue loose
    cases grouped' with
    | operand operand =>
      rw [Node.pieces_of_single operand.joins_node] at same
      exact Node.eq_of_pieces_operand same
    | binary isLeft isRight loose' tight =>
      obtain ⟨-, roots, -⟩ := rooted.unique (.binary isLeft isRight loose' tight) same
      cases roots
    | instanceOf typeName' isValue' loose' =>
      obtain ⟨values, roots, -⟩ := rooted.unique (.instanceOf typeName' isValue' loose') same
      cases roots
      rw [ih isValue' values]
    | conditional =>
      have whole := Node.Grouped.instanceOf typeName isValue loose
      exact absurd same (whole.ne_conditional (BinaryOp.precedence_pos .less) _ _ _)
  | @conditional condition thenBranch elseBranch isCondition isThen isElse loose ihCondition ihThen
      ihElse =>
    cases grouped' with
    | operand operand =>
      rw [Node.pieces_of_single operand.joins_node] at same
      exact Node.eq_of_pieces_operand same
    | @binary op _ _ isLeft isRight loose' tight =>
      have whole := Node.Grouped.binary isLeft isRight loose' tight
      exact absurd same.symm (whole.ne_conditional op.precedence_pos _ _ _)
    | instanceOf typeName isValue loose' =>
      have whole := Node.Grouped.instanceOf typeName isValue loose'
      exact absurd same.symm (whole.ne_conditional (BinaryOp.precedence_pos .less) _ _ _)
    | conditional isCondition' isThen' isElse' loose' =>
      rw [Node.pieces_conditional, Node.pieces_conditional] at same
      obtain ⟨conditions, branches⟩ := question_unique (isCondition.no_question loose)
        (isCondition'.no_question loose') same
      obtain ⟨thens, elses⟩ := isThen.colon_unique isThen' branches
      rw [ihCondition isCondition' conditions, ihThen isThen' thens, ihElse isElse' elses]

end DocExpr.Expr
