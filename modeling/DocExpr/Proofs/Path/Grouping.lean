import DocExpr.Proofs.Evaluation.Frame
import DocExpr.Proofs.Evaluation.TextCallbacks
import DocExpr.Proofs.Limits.Widening
import DocExpr.Proofs.Path.Position

/-! Accessors behind an expression in parentheses. The parentheses leave nothing in the tree. Behind
a path the accessor goes on with it, from the value or the several values that it has come to; any
other expression is where a path starts. -/
namespace DocExpr
open DocExpr.Expr (Node Segment)

/-- The item of an array at an index, or the value of an object under the index in decimal. -/
def Value.element? (v : Value) (i : Nat) : Option Value :=
  match v with
  | .array items => items[i]?
  | .object entries => Entries.find? entries (toString i)
  | _ => none

namespace Path

theorem element?_natCast (i : Nat) (v : Value) : element? i v = v.element? i := by
  have noSign : ¬ (i : Int) < 0 := Int.not_lt.mpr (Int.natCast_nonneg i)
  cases v with
  | array items =>
    rw [element?, if_neg noSign]
    rfl
  | object entries =>
    have decimal : Number.intText i = toString i := by
      rw [Number.intText, if_neg noSign]
      rfl
    rw [element?, Value.element?, decimal]
  | _ => rfl

/-- The element of the value reached, which is null where there is none; of several values reached,
the elements of those that have one. -/
def Reached.element (at_ : Reached) (i : Nat) : Value :=
  match at_ with
  | .one v => (v.element? i).getD .null
  | .many vs => .array (vs.filterMap (·.element? i))

theorem index_result (i : Nat) (at_ : Reached) : (index i at_).result = at_.element i := by
  have same : element? i = (·.element? i) := funext (element?_natCast i)
  cases at_ with
  | one v => exact congrArg (·.getD .null) (element?_natCast i v)
  | many vs => exact congrArg (fun f => Value.array (vs.filterMap f)) same

theorem steps_append (guide : Guide) (at_ : Reached) (segments more : List Segment) :
    steps guide at_ (segments ++ more) =
      steps guide at_ segments >>= fun at_ => steps guide at_ more := by
  induction segments generalizing at_ with
  | nil => exact (pure_bind at_ fun at_ => steps guide at_ more).symm
  | cons s ss ih =>
    rw [List.cons_append, steps, steps, bind_assoc]
    exact congrArg (step guide at_ s >>= ·) (funext ih)

/-- The accessor leads to several values from wherever it is applied. -/
def branches : Segment → Bool
  | .wildcard | .descent _ | .filter _ => true
  | _ => false

/-- Several values are reached. -/
def Reached.isMany : Reached → Bool
  | .one _ => false
  | .many _ => true

theorem step_isMany (guide : Guide) {at_ : Reached} {s : Segment}
    (several : at_.isMany = true ∨ branches s = true) :
    (step guide at_ s).Always fun r => r.isMany = true := by
  have parted (many : at_.isMany = true) : ∃ vs, at_ = .many vs := by
    cases at_ with
    | one v => cases many
    | many vs => exact ⟨vs, rfl⟩
  cases s with
  | wildcard => exact .pure rfl
  | filter predicate => exact .last fun kept => .pure rfl
  | descent name =>
    refine .lift fun r found => ?_
    obtain ⟨ws, -, rfl⟩ := Expr.ok_of_map found
    rfl
  | field | index =>
    obtain ⟨vs, rfl⟩ := parted (several.resolve_right Bool.false_ne_true)
    exact .pure rfl
  | dynamic key =>
    obtain ⟨vs, rfl⟩ := parted (several.resolve_right Bool.false_ne_true)
    refine .last fun k => .pure ?_
    unfold dynamic
    split
    · rfl
    · split <;> rfl
    · rfl

/-- Behind an accessor that branches a path is at several values for good. -/
theorem steps_isMany (guide : Guide) {at_ : Reached} {segments : List Segment}
    (several : at_.isMany = true ∨ ∃ s ∈ segments, branches s = true) :
    (steps guide at_ segments).Always fun r => r.isMany = true := by
  induction segments generalizing at_ with
  | nil =>
    obtain many | ⟨s, isIn, -⟩ := several
    · exact .pure many
    · cases isIn
  | cons s ss ih =>
    by_cases here : at_.isMany = true ∨ branches s = true
    · exact EvalM.Always.bind (step_isMany guide here) fun r many => ih (.inl many)
    · have later : ∃ s ∈ ss, branches s = true := by
        obtain many | ⟨s', isIn, branching⟩ := several
        · exact absurd (.inl many) here
        · cases isIn with
          | head => exact absurd (.inr branching) here
          | tail _ isIn => exact ⟨s', isIn, branching⟩
      exact .last fun r => ih (.inr later)

end Path

namespace Expr
variable {depth : Nat} (part : Part depth)

/-- An accessor behind an expression in parentheses is an accessor of its tree. -/
theorem parse_group {p : Place} (small : p.isSmall) :
    parseWithDepth ("(" ++ part.text ++ ")" ++ String.ofList p.text) (depth + 1) =
      .ok (part.node.withSegment p.segment) := by
  have paren : ')' ∈ marks := by decide
  have right : Symbol.rightParen ∈ stops := by decide
  obtain ⟨token, lexes, follows⟩ := lexes_text small
  have accessor := (lexes.mark paren fun _ => rfl) .nil fun _ => .done rfl
  rw [List.append_nil, List.append_nil] at accessor
  have inside := part.reads.append (marks_end paren) accessor
  have reads : Reads true ("(" ++ part.text ++ ")" ++ String.ofList p.text).toList
      (.symbol .leftParen :: (part.tokens ++ .symbol .rightParen ::
        [.symbol .leftBracket, token, .symbol .rightBracket])) := by
    simp only [String.toList_append, String.toList_ofList, List.append_assoc]
    have opening : '(' ∈ marks := by decide
    exact Reads.opened opening rfl rfl inside true
  obtain ⟨ts, read, same⟩ := reads.tokensOf
  obtain ⟨offset, ts, rfl, tail⟩ := front_of_tokens same
  have group : parameters? ts = none := part.parameters?_none tail nofun
  obtain ⟨rest, inner, left⟩ := part.stands _ (depth + 1) right tail
  obtain ⟨closeAt, others, rfl, behind⟩ := front_of_tokens left
  have grouped (source : List Char) (level : Level)
      (inner : level.expression 0 ts =
        .ok (part.node, ⟨.symbol .rightParen, closeAt⟩ :: others)) :
      operand source level (⟨.symbol .leftParen, offset⟩ :: ts) =
        .ok (part.node.withSegment p.segment, []) := by
    have first : primary source level (⟨.symbol .leftParen, offset⟩ :: ts) =
        .ok (part.node, others) := by
      unfold primary
      dsimp only
      rw [group]
      exact bind_ok inner (bind_ok (expect_symbol _ _) rfl)
    rw [operand_plain rfl]
    exact bind_ok first (follows .nil source level _ part.node others behind (Nat.lt_succ_self _))
  exact parse_of_tokens read (bind_ok (grouped _ _ inner) rfl)

/-- The text of an element of an expression in parentheses. -/
def elementText (text : String) (i : Nat) : String := "(" ++ text ++ ")[" ++ toString i ++ "]"

theorem elementText_eq (text : String) (i : Nat) :
    elementText text i = "(" ++ text ++ ")" ++ String.ofList (Place.item i).text := by
  refine String.toList_inj.mp ?_
  simp [elementText, Place.text, Place.inner, Number.digitChars]

theorem parse_elementText {i : Nat} (small : i < 2 ^ 53) :
    parseWithDepth (elementText part.text i) (depth + 1) =
      .ok (part.node.withSegment (.index i)) := by
  have small : (Place.item i).isSmall := small
  rw [elementText_eq]
  exact parse_group part small

end Expr

namespace Eval
variable (eval : Eval) (root : Value)

/-- Where an expression leads: a path as far as its accessors do, and any other expression to its
value. -/
def reach : Node → EvalM Path.Reached
  | .path base segments => do
    let start ← eval base root
    let maxDepth := (← get).options.maxDepth
    Path.steps ⟨eval.test root, (eval · root), maxDepth⟩ (.one start) segments
  | expr => return .one (← eval expr root)

theorem node_path (base : Node) (segments : List Segment) :
    eval.node root (.path base segments) =
      eval.reach root (.path base segments) >>= fun at_ => pure at_.result := by
  simp only [node, reach, follow, Path.resolve, bind_assoc]

/-- A path that goes one accessor further goes on from where it has led. -/
theorem node_withSegment (expr : Node) (i : Int) :
    eval.node root (expr.withSegment (.index i)) =
      eval.reach root expr >>= fun at_ => pure (Path.index i at_).result := by
  unfold Node.withSegment
  split
  · simp only [node, reach, follow, Path.resolve, Path.steps_append, Path.steps, Path.step,
      bind_assoc, pure_bind]
  next noPath =>
    rw [reach]
    · simp only [node, follow, Path.resolve, Path.steps, Path.step, bind_assoc, pure_bind]
      exact congrArg (eval expr root >>= ·) (funext fun v => rfl)
    · exact noPath

end Eval

namespace EvalM
variable {α β : Type} {level : Eval → EvalM α}

/-- Enters a level, with the evaluation of what is below it at hand. -/
def enter (level : Eval → EvalM α) : EvalM α := do
  let ev ← get
  match ev.options.maxDepth - ev.depth with
  | 0 => do
    tick
    throw (.limit (.recursion (← get).options.maxDepth))
  | n + 1 => do
    tick
    deeper (level (Eval.levels n))

/-- Where an expression leads that is evaluated at this level. -/
def reach (expr : Node) (root : Value) : EvalM Path.Reached := enter (·.reach root expr)

theorem evaluate_eq_enter (expr : Node) (root : Value) :
    evaluate expr root = enter (·.node root expr) := by
  refine congrArg (get >>= ·) (funext fun ev => ?_)
  rw [Evaluator.eval]
  cases ev.options.maxDepth - ev.depth with
  | zero => rfl
  | succ n => rfl

theorem enter_map (level : Eval → EvalM α) (f : α → β) :
    (enter fun eval => level eval >>= fun a => pure (f a)) =
      enter level >>= fun a => pure (f a) := by
  unfold enter
  rw [bind_assoc]
  refine congrArg (get >>= ·) (funext fun ev => ?_)
  cases ev.options.maxDepth - ev.depth with
  | zero =>
    dsimp only
    rw [bind_assoc]
    rfl
  | succ n =>
    dsimp only
    rw [bind_assoc]
    refine congrArg (tick >>= ·) (funext fun _ => funext fun ev => ?_)
    change (deeper _).runOn ev = (deeper _ >>= _).runOn ev
    rw [runOn_bind, runOn_deeper, runOn_deeper, runOn_bind]
    dsimp only
    cases ((level (Eval.levels n)).runOn { ev with depth := ev.depth + 1 }).1 with
    | ok a => rfl
    | error e => rfl

theorem evaluate_path (base : Node) (segments : List Segment) (root : Value) :
    evaluate (.path base segments) root =
      reach (.path base segments) root >>= fun at_ => pure at_.result := by
  simp only [evaluate_eq_enter, Eval.node_path, enter_map, reach]

theorem evaluate_withSegment (expr : Node) (i : Int) (root : Value) :
    evaluate (expr.withSegment (.index i)) root =
      reach expr root >>= fun at_ => pure (Path.index i at_).result := by
  simp only [evaluate_eq_enter, Eval.node_withSegment, reach]
  exact enter_map _ fun at_ => (Path.index i at_).result

end EvalM

/-- An evaluator that comes back from the parts of an expression, one level up. -/
def Evaluator.left (ev : Evaluator) : Evaluator := { ev with depth := ev.depth - 1 }

namespace EvalM
variable {ev after : Evaluator} {n : Nat} {expr : Node} {root v : Value}

/-- An evaluation that succeeds had a level and a step left. -/
theorem room_of_value (ran : (Eval.levels n expr root).runOn ev = (.ok v, after)) :
    0 < n ∧ ev.steps + 1 ≤ ev.options.maxSteps := by
  have ran := congrArg Prod.fst ran
  cases n with
  | zero =>
    rw [Eval.levels, runOn_bind] at ran
    split at ran
    · cases ran
    · cases ran
  | succ n =>
    refine ⟨Nat.succ_pos n, Nat.le_of_not_lt fun exhausted => ?_⟩
    rw [Eval.levels, runOn_bind, runOn_tick, if_pos exhausted] at ran
    cases ran

theorem runOn_enter {α : Type} {level : Eval → EvalM α} {a : α}
    (levels : ev.options.maxDepth - ev.depth = n + 1)
    (steps : ev.steps + 1 ≤ ev.options.maxSteps)
    (ran : (level (Eval.levels n)).runOn ev.entered = (.ok a, after)) :
    (enter level).runOn ev = (.ok a, after.left) := by
  rw [enter, runOn_get, levels]
  dsimp only
  rw [runOn_bind, runOn_tick, if_neg (Nat.not_lt.mpr steps)]
  dsimp only
  rw [runOn_deeper]
  exact congrArg (fun there => (there.1, there.2.left)) ran

/-- What is no path leads to its value, as it is evaluated one level down and one step on. -/
theorem runOn_reach_one (noPath : ∀ base segments, expr ≠ .path base segments)
    (ran : (evaluate expr root).runOn ev.entered = (.ok v, after)) :
    (reach expr root).runOn ev = (.ok (.one v), after.left) := by
  have below : (evaluate expr root).runOn ev.entered =
      (Eval.levels (ev.options.maxDepth - (ev.depth + 1)) expr root).runOn ev.entered := rfl
  rw [below] at ran
  obtain ⟨levels, steps⟩ := room_of_value ran
  have steps : ev.steps + 1 + 1 ≤ ev.options.maxSteps := steps
  have succ : ev.options.maxDepth - ev.depth = ev.options.maxDepth - (ev.depth + 1) + 1 := by omega
  refine runOn_enter succ (by omega) ?_
  have starts (eval : Eval) :
      eval.reach root expr = eval expr root >>= fun v => pure (.one v) := by
    rw [Eval.reach]
    exact noPath
  rw [starts, runOn_bind, ran]
  rfl

/-- The value of a path is that of the place it leads to. -/
theorem reached_of_path {base : Node} {segments : List Segment}
    (ran : (evaluate (.path base segments) root).runOn ev = (.ok v, after)) :
    ∃ at_, (reach (.path base segments) root).runOn ev = (.ok at_, after) ∧ v = at_.result := by
  rw [evaluate_path, runOn_bind] at ran
  cases reached : (reach (.path base segments) root).runOn ev with
  | mk result there =>
    rw [reached] at ran
    cases result with
    | error e => cases ran
    | ok at_ =>
      cases ran
      exact ⟨at_, rfl, rfl⟩

/-- The elements are taken from where the expression leads. -/
theorem runOn_withSegment {at_ : Path.Reached}
    (reached : (reach expr root).runOn ev = (.ok at_, after)) (i : Nat) :
    (evaluate (expr.withSegment (.index i)) root).runOn ev = (.ok (at_.element i), after) := by
  rw [evaluate_withSegment, runOn_bind, reached, ← Path.index_result]
  rfl

/-- A path that branches leads to several values. -/
theorem reach_isMany (base : Node) {segments : List Segment}
    (branching : ∃ s ∈ segments, Path.branches s = true) (root : Value) :
    (reach (.path base segments) root).Always fun at_ => at_.isMany = true := by
  refine .last fun ev => ?_
  cases ev.options.maxDepth - ev.depth with
  | zero => exact .last fun _ => .last fun _ ev _ at_ failed => nomatch failed
  | succ n =>
    refine .last fun _ => .deeper ?_
    exact .last fun start => .last fun ev => Path.steps_isMany _ (.inr branching)

/-- A text is evaluated as the tree that it parses to. -/
theorem runOn_evaluateText {text : String}
    (parsed : Expr.parseWithDepth text ev.options.maxDepth = .ok expr) (root : Value) :
    (evaluateText text root).runOn ev = (evaluate expr root).runOn ev := by
  rw [evaluateText, runOn_get, Eval.text, runOn_get, parsed]
  rfl

end EvalM

/-- An index behind an expression in parentheses parses to the tree with that accessor. It takes the
element of the value of what is no path. A path goes on with it from where it has led: the element
of one value, and of several values those elements that are there. -/
theorem element_of_group {depth : Nat} (part : Expr.Part depth) {i : Nat} (small : i < 2 ^ 53)
    (root : Value) :
    Expr.parseWithDepth (Expr.elementText part.text i) (depth + 1) =
        .ok (part.node.withSegment (.index i)) ∧
      ∀ (ev : Evaluator) (v : Value) (after : Evaluator), depth + 1 ≤ ev.options.maxDepth →
        let element := (EvalM.evaluateText (Expr.elementText part.text i) root).runOn ev
        ((∀ base segments, part.node ≠ .path base segments) →
          (EvalM.evaluateText part.text root).runOn ev.entered = (.ok v, after) →
            element = (.ok ((v.element? i).getD .null), after.left)) ∧
        ∀ base segments, part.node = .path base segments →
          (EvalM.evaluateText part.text root).runOn ev = (.ok v, after) →
            ∃ at_, (EvalM.reach part.node root).runOn ev = (.ok at_, after) ∧ v = at_.result ∧
              element = (.ok (at_.element i), after) ∧
              ((∃ s ∈ segments, Path.branches s = true) → at_.isMany = true) := by
  have parsed := Expr.parse_elementText part small
  refine ⟨parsed, ?_⟩
  intro ev v after deep element
  have alone : Expr.parseWithDepth part.text ev.options.maxDepth = .ok part.node :=
    Expr.parseWithDepth_deeper (Nat.le_of_succ_le deep) part.parses
  have whole : element = (EvalM.evaluate (part.node.withSegment (.index i)) root).runOn ev :=
    EvalM.runOn_evaluateText (Expr.parseWithDepth_deeper deep parsed) root
  rw [whole]
  constructor
  · intro noPath evaluated
    have below : Expr.parseWithDepth part.text ev.entered.options.maxDepth = .ok part.node := alone
    rw [EvalM.runOn_evaluateText below] at evaluated
    exact EvalM.runOn_withSegment (EvalM.runOn_reach_one noPath evaluated) i
  · intro base segments isPath evaluated
    rw [EvalM.runOn_evaluateText alone, isPath] at evaluated
    obtain ⟨at_, reached, same⟩ := EvalM.reached_of_path evaluated
    have several (branching : ∃ s ∈ segments, Path.branches s = true) : at_.isMany = true :=
      EvalM.reach_isMany base branching root ev trivial at_ (congrArg Prod.fst reached)
    rw [isPath]
    exact ⟨at_, reached, same, EvalM.runOn_withSegment reached i, several⟩

/-- A list, which is no path. -/
def Expr.listText : Expr.Part 2 where
  text := "[true]"
  node := .array [.bool true]
  parses := by rfl
  plain := by
    have item : ¬ (Node.bool true).Mentions "match" :=
      Node.unmentioned nofun (List.forall_mem_nil _)
    exact Node.unmentioned nofun (List.forall_mem_singleton.mpr item)

/-- A path to several values. -/
def Expr.itemsText : Expr.Part 1 where
  text := "$.a[*]"
  node := .path .root [.field "a", .wildcard]
  parses := by rfl
  plain := by
    have document : ¬ Node.root.Mentions "match" :=
      Node.unmentioned nofun (List.forall_mem_nil _)
    exact Node.unmentioned nofun (List.forall_mem_singleton.mpr document)

/-- The first item of a list, and the first item of each list that a path has come to. -/
theorem list_and_items_grouped :
    let ev := Evaluator.start {} 0
    let lists : Value := .array [.array [.bool true], .null, .array [.bool false, .null]]
    0 < 2 ^ 53 ∧
      ((EvalM.evaluateText "([true])[0]" .null).runOn ev).1 = .ok (.bool true) ∧
      ((EvalM.evaluateText "($.a[*])[0]" (.object [("a", lists)])).runOn ev).1 =
        .ok (.array [.bool true, .bool false]) := by
  intro ev lists
  have small : 0 < 2 ^ 53 := by decide
  obtain ⟨-, single⟩ := element_of_group Expr.listText small .null
  obtain ⟨-, several⟩ := element_of_group Expr.itemsText small (.object [("a", lists)])
  refine ⟨small, ?_, ?_⟩
  · obtain ⟨group, -⟩ := single ev (.array [.bool true]) _ (by decide)
    exact congrArg Prod.fst (group nofun rfl)
  · obtain ⟨-, group⟩ := several ev lists _ (by decide)
    obtain ⟨at_, reached, -, element, -⟩ := group .root [.field "a", .wildcard] rfl rfl
    cases reached
    exact congrArg Prod.fst element

/-- The elements of the values that a path has come to are no element of their list. -/
theorem items_have_no_element :
    let items : Value := .array [.bool true, .bool false]
    evaluate "$.a[*]" (.object [("a", items)]) {} 0 = .ok items ∧
      items.element? 0 = some (.bool true) ∧
      evaluate "($.a[*])[0]" (.object [("a", items)]) {} 0 = .ok (.array []) := by
  intro items
  have whole : Expr.parseWithDepth "$.a[*]" 256 =
      .ok (.path .root [.field "a", .wildcard]) := by rfl
  have group : Expr.parseWithDepth (Expr.elementText "$.a[*]" 0) 2 =
      .ok (.path .root [.field "a", .wildcard, .index 0]) :=
    Expr.parse_elementText Expr.itemsText (by decide)
  have text : Expr.elementText "$.a[*]" 0 = "($.a[*])[0]" := by decide
  rw [text] at group
  refine ⟨?_, rfl, ?_⟩
  · rw [evaluate_eq, whole]
    rfl
  · rw [evaluate_eq, Expr.parseWithDepth_deeper (by decide) group]
    rfl

end DocExpr
