import DocExpr.Proofs.Inside
import DocExpr.Proofs.Parser.Stability

/-! How deep the trees of the parser nest. What is read inside brackets, behind an operator or in
front of a colon is one level of the parser further down; what a tree starts with, a left operand,
the base of a path or a condition, is read on the same level, so a chain of operators nests as deep
as it is long. Each reader is shown to give trees that nest so deep. -/
namespace DocExpr.Expr

/-- The tree that a tree starts with, if something follows it there. -/
def Node.leading : Node → List Node
  | .path base _ => [base]
  | .method receiver _ _ => [receiver]
  | .binary _ left _ => [left]
  | .instanceOf value _ => [value]
  | .conditional condition _ _ => [condition]
  | _ => []

/-- The other trees that a tree holds directly. -/
def Node.inner : Node → List Node
  | .path _ segments => segments.flatMap Segment.parts
  | .call _ args | .namespaceCall _ _ args => args
  | .method _ _ args => args
  | .binary _ _ right => [right]
  | .unary _ operand => [operand]
  | .conditional _ thenBranch elseBranch => [thenBranch, elseBranch]
  | .matching subject arms => subject :: arms.map (·.2)
  | .lambda _ body => [body]
  | .array items => items
  | .object entries => entries.map (·.2)
  | _ => []

theorem Node.parts_eq (node : Node) : node.parts = node.leading ++ node.inner := by
  cases node <;> rfl

theorem Segment.sizeOf_part {segment : Segment} {part : Node} (isPart : part ∈ segment.parts) :
    sizeOf part < sizeOf segment := by
  cases segment with
  | filter predicate =>
    cases List.mem_singleton.mp isPart
    simp
  | dynamic key =>
    cases List.mem_singleton.mp isPart
    simp
  | _ => cases isPart

theorem sizeOf_value {α : Type} [SizeOf α] {pairs : List (α × Node)} {part : Node}
    (isIn : part ∈ pairs.map (·.2)) : sizeOf part < sizeOf pairs := by
  obtain ⟨⟨key, value⟩, isPair, rfl⟩ := List.mem_map.mp isIn
  have smaller := List.sizeOf_lt_of_mem isPair
  rw [Prod.mk.sizeOf_spec] at smaller
  dsimp only
  omega

theorem Node.sizeOf_part {node part : Node} (isPart : part ∈ node.parts) :
    sizeOf part < sizeOf node := by
  cases node with
  | path base segments =>
    rw [Node.path.sizeOf_spec]
    rcases List.mem_cons.mp isPart with rfl | inside
    · omega
    · obtain ⟨segment, isIn, inside⟩ := List.mem_flatMap.mp inside
      have smaller := List.sizeOf_lt_of_mem isIn
      have within := Segment.sizeOf_part inside
      omega
  | call name args | namespaceCall space name args | array args =>
    have smaller : sizeOf part < sizeOf args := List.sizeOf_lt_of_mem isPart
    simp only [Node.call.sizeOf_spec, Node.namespaceCall.sizeOf_spec, Node.array.sizeOf_spec]
    omega
  | method receiver name args =>
    rw [Node.method.sizeOf_spec]
    rcases List.mem_cons.mp isPart with rfl | isIn
    · omega
    · have smaller := List.sizeOf_lt_of_mem isIn
      omega
  | matching subject arms =>
    rw [Node.matching.sizeOf_spec]
    rcases List.mem_cons.mp isPart with rfl | isIn
    · omega
    · have smaller := sizeOf_value isIn
      omega
  | object entries =>
    rw [Node.object.sizeOf_spec]
    have smaller := sizeOf_value isPart
    omega
  | binary | unary | instanceOf | conditional | lambda =>
    simp only [Node.parts, List.mem_cons, List.not_mem_nil, or_false] at isPart
    simp only [Node.binary.sizeOf_spec, Node.unary.sizeOf_spec, Node.instanceOf.sizeOf_spec,
      Node.conditional.sizeOf_spec, Node.lambda.sizeOf_spec]
    rcases isPart with rfl | rfl | rfl <;> omega
  | _ => cases isPart

theorem Node.mem_parts_of_leading {node part : Node} (isLeading : part ∈ node.leading) :
    part ∈ node.parts := by
  rw [node.parts_eq]
  exact List.mem_append_left _ isLeading

theorem Node.mem_parts_of_inner {node part : Node} (isInner : part ∈ node.inner) :
    part ∈ node.parts := by
  rw [node.parts_eq]
  exact List.mem_append_right _ isInner

theorem foldr_max_le {xs : List Nat} {least n : Nat} :
    xs.foldr max least ≤ n ↔ least ≤ n ∧ ∀ x ∈ xs, x ≤ n := by
  induction xs with
  | nil => simp
  | cons x xs ih =>
    rw [List.foldr_cons, Nat.max_le, ih, List.forall_mem_cons]
    constructor
    · rintro ⟨first, least, rest⟩
      exact ⟨least, first, rest⟩
    · rintro ⟨least, first, rest⟩
      exact ⟨first, least, rest⟩

/-- The most steps to a leading part on a way down the tree. -/
def Node.leads (node : Node) : Nat :=
  (node.leading.attach.map fun part => part.1.leads + 1).foldr max
    ((node.inner.attach.map fun part => part.1.leads).foldr max 0)
termination_by sizeOf node
decreasing_by
  · exact sizeOf_part (mem_parts_of_inner part.2)
  · exact sizeOf_part (mem_parts_of_leading part.2)

theorem Node.leads_le {node : Node} {n : Nat} : node.leads ≤ n ↔
    (∀ part ∈ node.leading, part.leads + 1 ≤ n) ∧ ∀ part ∈ node.inner, part.leads ≤ n := by
  rw [leads, foldr_max_le, foldr_max_le]
  simp only [List.mem_map, List.mem_attach, true_and, forall_exists_index, Subtype.forall]
  constructor
  · rintro ⟨⟨-, inner⟩, leading⟩
    exact ⟨fun part isPart => leading _ part isPart rfl, fun part isPart => inner _ part isPart rfl⟩
  · rintro ⟨leading, inner⟩
    refine ⟨⟨Nat.zero_le n, ?_⟩, ?_⟩
    · rintro _ part isPart rfl
      exact inner part isPart
    · rintro _ part isPart rfl
      exact leading part isPart

/-- The trees whose evaluation is part of that of a tree: all but the body of a lambda, which is
left for its calls. -/
def Node.operands : Node → List Node
  | .lambda _ _ => []
  | node => node.parts

theorem Node.mem_parts_of_operands {node part : Node} (isOperand : part ∈ node.operands) :
    part ∈ node.parts := by
  cases node with
  | lambda => cases isOperand
  | _ => exact isOperand

/-- How many evaluations of trees stand inside each other in that of a tree. -/
def Node.levels (node : Node) : Nat :=
  (node.operands.attach.map fun part => part.1.levels).foldr max 0 + 1
termination_by sizeOf node
decreasing_by exact sizeOf_part (mem_parts_of_operands part.2)

theorem Node.levels_le {node : Node} {n : Nat} :
    node.levels ≤ n + 1 ↔ ∀ part ∈ node.operands, part.levels ≤ n := by
  rw [levels, Nat.add_le_add_iff_right, foldr_max_le]
  simp only [List.mem_map, List.mem_attach, true_and, forall_exists_index, Subtype.forall]
  constructor
  · rintro ⟨-, all⟩ part isPart
    exact all _ part isPart rfl
  · intro all
    refine ⟨Nat.zero_le n, ?_⟩
    rintro _ part isPart rfl
    exact all part isPart

theorem Node.levels_pos (node : Node) : 0 < node.levels := by
  rw [levels]
  exact Nat.succ_pos _

/-- The tree nests at most so deep where a leading part counts as deep as what it leads. -/
inductive Node.Within : Nat → Node → Prop where
  | node {n : Nat} {node : Node} (leading : ∀ part ∈ node.leading, Within (n + 1) part)
      (inner : ∀ part ∈ node.inner, Within n part) : Within (n + 1) node

theorem Node.Within.mono {n m : Nat} {node : Node} (within : node.Within n) (le : n ≤ m) :
    node.Within m := by
  induction within generalizing m with
  | node leading inner ihLeading ihInner =>
    obtain ⟨m, rfl⟩ : ∃ k, m = k + 1 := ⟨m - 1, by omega⟩
    exact .node (fun part isPart => ihLeading part isPart le)
      fun part isPart => ihInner part isPart (Nat.le_of_succ_le_succ le)

/-- A leading part adds a level to the evaluation that nesting does not count. -/
theorem Node.Within.levels {n : Nat} {node : Node} (within : node.Within n) :
    node.levels ≤ n + node.leads := by
  induction within with
  | @node n node leading inner ihLeading ihInner =>
    obtain ⟨leads, deeper⟩ := Node.leads_le.mp (Nat.le_refl node.leads)
    have all : ∀ part ∈ node.operands, part.levels ≤ n + node.leads := by
      intro part isOperand
      have isPart := Node.mem_parts_of_operands isOperand
      rw [node.parts_eq] at isPart
      rcases List.mem_append.mp isPart with isLeading | isInner
      · have bound := ihLeading part isLeading
        have fewer := leads part isLeading
        omega
      · have bound := ihInner part isInner
        have fewer := deeper part isInner
        omega
    have bound := Node.levels_le.mpr all
    omega

theorem Node.Within.of_inner {n : Nat} {node : Node} (first : node.leading = [])
    (inner : ∀ part ∈ node.inner, part.Within n) : node.Within (n + 1) := by
  refine .node (fun part isPart => ?_) inner
  rw [first] at isPart
  exact absurd isPart List.not_mem_nil

theorem Node.within_leaf {n : Nat} {node : Node} (leaf : node.parts = []) :
    node.Within (n + 1) := by
  rw [node.parts_eq] at leaf
  obtain ⟨first, none⟩ := List.append_eq_nil_iff.mp leaf
  refine .of_inner first fun part isPart => ?_
  rw [none] at isPart
  exact absurd isPart List.not_mem_nil

theorem Node.within_ofName (n : Nat) (name : String) : (Node.ofName name).Within (n + 1) := by
  unfold Node.ofName
  split <;> exact Node.within_leaf rfl

theorem Node.Within.applyUnary {n : Nat} {op : UnaryOp} {operand : Node}
    (within : operand.Within n) : (Node.applyUnary op operand).Within (n + 1) := by
  unfold Node.applyUnary
  split
  · exact Node.within_leaf rfl
  · exact .of_inner rfl fun part isPart => List.mem_singleton.mp isPart ▸ within

/-- A path that goes on has the same base. -/
theorem Node.Within.withSegment {n : Nat} {node : Node} {segment : Segment}
    (within : node.Within (n + 1)) (below : ∀ part ∈ segment.parts, part.Within n) :
    (node.withSegment segment).Within (n + 1) := by
  unfold Node.withSegment
  split
  next base segments =>
    cases within with
    | node leading inner =>
    refine .node leading fun part isPart => ?_
    rw [Node.inner, List.flatMap_append, List.flatMap_singleton] at isPart
    rcases List.mem_append.mp isPart with old | last
    · exact inner part old
    · exact below part last
  next =>
    refine .node (fun part isPart => List.mem_singleton.mp isPart ▸ within) fun part isPart => ?_
    rw [Node.inner, List.flatMap_singleton] at isPart
    exact below part isPart

/-- Whatever a reader makes of some tokens is good. -/
def Makes {α : Type} (p : Parse α) (Good : α → Prop) : Prop :=
  ∀ {ts x rest}, p ts = .ok (x, rest) → Good x

section
variable {source : List Char} {α : Type} {Good : α → Prop}

theorem itemsUntil_makes {close : Symbol} {item : List α → Parse α}
    (items : ∀ done, Makes (item done) Good) {done : List α} (before : ∀ x ∈ done, Good x)
    (fuel : Nat) : Makes (itemsUntil close item done fuel) fun xs => ∀ x ∈ xs, Good x := by
  intro ts xs rest h
  induction fuel generalizing done ts with
  | zero =>
    cases h
    exact fun x isIn => before x (List.mem_reverse.mp isIn)
  | succ fuel ih =>
    rw [itemsUntil] at h
    split at h
    · cases h
      exact fun x isIn => before x (List.mem_reverse.mp isIn)
    · obtain ⟨⟨x, ts₁⟩, read, h⟩ := ok_of_bind h
      have more : ∀ y ∈ x :: done, Good y := List.forall_mem_cons.mpr ⟨items done read, before⟩
      dsimp only at h
      split at h
      · exact ih more h
      · cases h
        exact fun y isIn => more y (List.mem_reverse.mp isIn)

theorem enclosed_makes {close : Symbol} {item : List α → Parse α}
    (items : ∀ done, Makes (item done) Good) (openedAt : Nat) :
    Makes (enclosed source close item openedAt) fun xs => ∀ x ∈ xs, Good x := by
  intro ts xs rest h
  obtain ⟨⟨xs, ts₁⟩, read, h⟩ := ok_of_bind h
  obtain ⟨⟨⟨⟩, ts₂⟩, closed, h⟩ := ok_of_bind h
  cases h
  exact itemsUntil_makes items (List.forall_mem_nil _) _ read

variable {n : Nat} {level : Level} (below : ∀ power, Makes (level.expression power) (Node.Within n))
include below

theorem arguments_makes :
    Makes (arguments source level) fun args => ∀ arg ∈ args, arg.Within n := by
  intro ts x rest h
  obtain ⟨⟨⟨⟩, ts₁⟩, opened, h⟩ := ok_of_bind h
  obtain ⟨⟨args, ts₂⟩, read, h⟩ := ok_of_bind h
  have inner := itemsUntil_makes (fun _ => below 0) (List.forall_mem_nil _) _ read
  dsimp only at h
  split at h
  · cases h
    exact inner
  · cases h
  · cases h

theorem objectEntry_makes (start : Nat) :
    Makes (objectEntry source level start) fun entry => entry.2.Within n := by
  intro ts x rest h
  obtain ⟨⟨key, ts₁⟩, keyed, h⟩ := ok_of_bind h
  obtain ⟨⟨⟨⟩, ts₂⟩, colon, h⟩ := ok_of_bind h
  obtain ⟨⟨value, ts₃⟩, read, h⟩ := ok_of_bind h
  cases h
  exact below 0 read

theorem lambdaBody_makes (params : List String) :
    Makes (lambdaBody level params) (Node.Within (n + 1)) := by
  intro ts x rest h
  obtain ⟨⟨body, ts₁⟩, read, h⟩ := ok_of_bind h
  cases h
  exact .of_inner rfl fun part isPart => List.mem_singleton.mp isPart ▸ below 0 read

theorem matchArm_makes (braceAt : Nat) (done : List (Pattern × Node)) :
    Makes (matchArm source level braceAt done) fun arm => arm.2.Within n := by
  intro ts x rest h
  unfold matchArm at h
  split at h
  · cases h
  · obtain ⟨⟨p, ts₁⟩, pattern, h⟩ := ok_of_bind h
    dsimp only at h
    split at h
    · cases h
    · obtain ⟨⟨⟨⟩, ts₂⟩, arrow, h⟩ := ok_of_bind h
      obtain ⟨⟨body, ts₃⟩, read, h⟩ := ok_of_bind h
      cases h
      exact below 0 read

theorem matching_makes (start : Nat) :
    Makes (matching source level start) (Node.Within (n + 1)) := by
  intro ts x rest h
  obtain ⟨⟨subject, ts₁⟩, read, h⟩ := ok_of_bind h
  obtain ⟨⟨⟨⟩, ts₂⟩, opened, h⟩ := ok_of_bind h
  obtain ⟨⟨arms, ts₃⟩, listed, h⟩ := ok_of_bind h
  have bodies := enclosed_makes (matchArm_makes below _) _ listed
  dsimp only at h
  split at h
  · cases h
  · cases h
    refine .of_inner rfl (List.forall_mem_cons.mpr ⟨below 0 read, fun part isPart => ?_⟩)
    obtain ⟨arm, isIn, rfl⟩ := List.mem_map.mp isPart
    exact bodies arm isIn

theorem namespaceMember_makes (space : String) :
    Makes (namespaceMember source level space) (Node.Within (n + 1)) := by
  intro ts x rest h
  unfold namespaceMember at h
  split at h
  · split at h
    · obtain ⟨⟨args, ts₁⟩, read, h⟩ := ok_of_bind h
      cases h
      exact .of_inner rfl (arguments_makes below read)
    · cases h
      exact Node.within_leaf rfl
  · cases h

theorem afterName_makes (name : String) (start : Nat) :
    Makes (afterName source level name start) (Node.Within (n + 1)) := by
  intro ts x rest h
  unfold afterName at h
  split at h
  · exact lambdaBody_makes below _ h
  · obtain ⟨⟨args, ts₁⟩, read, h⟩ := ok_of_bind h
    cases h
    exact .of_inner rfl (arguments_makes below read)
  · cases h
    exact Node.within_ofName n name
  · split at h
    · exact matching_makes below _ h
    · split at h
      · exact namespaceMember_makes below _ h
      · cases h
        exact Node.within_ofName n name
  · split at h
    · exact matching_makes below _ h
    · cases h
      exact Node.within_ofName n name

theorem primary_makes : Makes (primary source level) (Node.Within (n + 1)) := by
  intro ts x rest h
  unfold primary at h
  split at h
  case h_8 =>
    split at h
    · exact lambdaBody_makes below _ h
    · obtain ⟨⟨inner, ts₁⟩, read, h⟩ := ok_of_bind h
      obtain ⟨⟨⟨⟩, ts₂⟩, closed, h⟩ := ok_of_bind h
      cases h
      exact (below 0 read).mono (Nat.le_succ n)
  case h_9 =>
    obtain ⟨⟨items, ts₁⟩, read, h⟩ := ok_of_bind h
    cases h
    exact .of_inner rfl (enclosed_makes (fun _ => below 0) _ read)
  case h_10 =>
    obtain ⟨⟨entries, ts₁⟩, read, h⟩ := ok_of_bind h
    cases h
    have values := enclosed_makes (fun _ => objectEntry_makes below _) _ read
    refine .of_inner rfl fun part isPart => ?_
    obtain ⟨entry, isIn, rfl⟩ := List.mem_map.mp isPart
    exact values entry isIn
  case h_11 => exact afterName_makes below _ _ h
  case h_12 => cases h
  all_goals
    cases h
    exact Node.within_leaf rfl

theorem computed_makes {ts rest : List Spanned} {x : Segment} (h : (do
      let (key, ts) ← level.expression 0 ts
      return (Segment.dynamic key, ts)) = .ok (x, rest)) : ∀ part ∈ x.parts, part.Within n := by
  obtain ⟨⟨key, ts₁⟩, read, h⟩ := ok_of_bind h
  cases h
  exact fun part isPart => List.mem_singleton.mp isPart ▸ below 0 read

theorem bracketSegment_makes (start : Nat) :
    Makes (bracketSegment source level start) fun segment =>
      ∀ part ∈ segment.parts, part.Within n := by
  intro ts x rest h
  unfold bracketSegment at h
  dsimp only at h
  split at h
  case h_4 => cases h
  case h_5 =>
    obtain ⟨⟨predicate, ts₁⟩, read, h⟩ := ok_of_bind h
    dsimp only at h
    split at h
    · cases h
      exact fun part isPart => List.mem_singleton.mp isPart ▸ below 0 read
    · cases h
  case h_6 => cases h
  case h_7 => exact computed_makes below h
  all_goals
    split at h
    · cases h
      exact List.forall_mem_nil _
    · exact computed_makes below h

theorem postfixes_makes {node : Node} (within : node.Within (n + 1)) (fuel : Nat) :
    Makes (postfixes source level fuel node) (Node.Within (n + 1)) := by
  intro ts x rest h
  induction fuel generalizing node ts with
  | zero =>
    cases h
    exact within
  | succ fuel ih =>
    unfold postfixes at h
    split at h
    · exact ih (within.withSegment (List.forall_mem_nil _)) h
    · split at h
      · split at h
        · split at h
          · obtain ⟨⟨args, ts₂⟩, read, h⟩ := ok_of_bind h
            refine ih (.node ?_ (arguments_makes below read)) h
            exact fun part isPart => List.mem_singleton.mp isPart ▸ within
          · exact ih (within.withSegment (List.forall_mem_nil _)) h
        · cases h
      · cases h
    · split at h
      · exact ih (within.withSegment (List.forall_mem_nil _)) h
      · cases h
    · obtain ⟨⟨segment, ts₁⟩, read, h⟩ := ok_of_bind h
      dsimp only at h
      split at h
      · exact ih (within.withSegment (bracketSegment_makes below _ read)) h
      · cases h
    · cases h
      exact within

theorem plainOperand_makes : Makes (fun ts => do
    let (node, ts) ← primary source level ts
    postfixes source level (ts.length + 1) node ts) (Node.Within (n + 1)) := by
  intro ts x rest h
  obtain ⟨⟨node, ts₁⟩, read, h⟩ := ok_of_bind h
  exact postfixes_makes below (primary_makes below read) _ h

theorem operand_makes : Makes (operand source level) (Node.Within (n + 1)) := by
  intro ts x rest h
  unfold operand at h
  dsimp only at h
  split at h
  · split at h
    · obtain ⟨⟨node, ts₁⟩, read, h⟩ := ok_of_bind h
      cases h
      exact (below unaryPower read).applyUnary
    · exact plainOperand_makes below h
  · exact plainOperand_makes below h

theorem conditionalRest_makes {condition : Node} (within : condition.Within (n + 1))
    (start : Nat) :
    Makes (conditionalRest source level condition start) (Node.Within (n + 1)) := by
  intro ts x rest h
  obtain ⟨⟨thenBranch, ts₁⟩, read, h⟩ := ok_of_bind h
  dsimp only at h
  split at h
  · obtain ⟨⟨elseBranch, ts₂⟩, last, h⟩ := ok_of_bind h
    cases h
    refine .node (fun part isPart => List.mem_singleton.mp isPart ▸ within) ?_
    exact List.forall_mem_cons.mpr
      ⟨below 0 read, List.forall_mem_singleton.mpr (below conditionalPower last)⟩
  · cases h
  · cases h

theorem operators_makes (power : Nat) {left : Node} (within : left.Within (n + 1)) (fuel : Nat) :
    Makes (operators source level power fuel left) (Node.Within (n + 1)) := by
  intro ts x rest h
  induction fuel generalizing left ts with
  | zero =>
    cases h
    exact within
  | succ fuel ih =>
    have leads : ∀ part ∈ [left], part.Within (n + 1) := List.forall_mem_singleton.mpr within
    unfold operators at h
    split at h
    · split at h
      · cases h
        exact within
      · obtain ⟨⟨node, ts₁⟩, read, h⟩ := ok_of_bind h
        exact ih (conditionalRest_makes below within _ read) h
    · split at h
      · cases h
        exact within
      · split at h
        · split at h
          next name _ =>
            have tested : (Node.instanceOf left name).Within (n + 1) :=
              .node leads (List.forall_mem_nil _)
            exact ih tested h
          · cases h
        · cases h
    · split at h
      next op _ =>
        split at h
        · cases h
          exact within
        · obtain ⟨⟨right, ts₁⟩, read, h⟩ := ok_of_bind h
          have joined : (Node.binary op left right).Within (n + 1) :=
            .node leads (List.forall_mem_singleton.mpr (below _ read))
          exact ih joined h
      · cases h
        exact within
    · cases h
      exact within

theorem expressionWith_makes (power : Nat) :
    Makes (expressionWith source level power) (Node.Within (n + 1)) := by
  intro ts x rest h
  obtain ⟨⟨left, ts₁⟩, read, h⟩ := ok_of_bind h
  exact operators_makes below power (operand_makes below read) _ h

omit below in
theorem expression_makes (maxDepth depth power : Nat) :
    Makes (expression source maxDepth depth power) (Node.Within depth) := by
  induction depth generalizing power with
  | zero => exact fun h => nomatch h
  | succ depth ih => exact expressionWith_makes ih power

end

/-- A tree that was read within a depth nests within it. -/
theorem parsed_within {text : String} {depth : Nat} {tree : Node}
    (parsed : parseWithDepth text depth = .ok tree) : tree.Within depth := by
  obtain ⟨ts, read, parsed⟩ := ok_of_bind parsed
  obtain ⟨⟨node, rest⟩, whole, parsed⟩ := ok_of_bind parsed
  cases rest with
  | cons t rest => cases parsed
  | nil =>
    cases parsed
    exact expression_makes depth depth 0 whole

end DocExpr.Expr
