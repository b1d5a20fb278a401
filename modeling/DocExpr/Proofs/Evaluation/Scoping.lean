import DocExpr.Proofs.Evaluation.Run
import DocExpr.Proofs.Value.Structure
import Mathlib.Data.List.Forall2

/-! What a function sees when it is called: its parameters, and behind them the bindings that were
visible where it was made. It captures the bindings of all scopes as one list, in which those of one
scope may stand in any order, and a call rebuilds one scope from that list. -/
namespace DocExpr

namespace Entries
variable {α : Type} {entries entries' : Entries α}

/-- The order of entries with distinct keys does not show. -/
theorem find?_of_perm (distinct : entries.keys.Nodup) (order : entries.Perm entries')
    (key : String) : entries'.find? key = entries.find? key := by
  have distinct' : (keys entries').Nodup := (order.map Prod.fst).nodup_iff.mp distinct
  refine Option.ext fun value => ⟨fun found => ?_, fun found => ?_⟩
  · exact find?_of_mem distinct (order.mem_iff.mpr (mem_of_find? found))
  · exact find?_of_mem distinct' (order.mem_iff.mp (mem_of_find? found))

theorem find?_append (key : String) :
    (entries ++ entries').find? key = (entries.find? key).or (entries'.find? key) := by
  induction entries with
  | nil => rfl
  | cons e rest ih =>
    rw [List.cons_append, find?_cons, find?_cons]
    split
    · rfl
    · exact ih

end Entries

namespace Context
variable {c : Context}

/-- No scope binds a name twice. -/
def Distinct (c : Context) : Prop := ∀ scope ∈ c.scopes, (Entries.keys scope).Nodup

theorem distinct_empty : empty.Distinct := by
  intro scope isIn
  rw [List.mem_singleton.mp isIn]
  exact List.nodup_nil

theorem Distinct.bind (distinct : c.Distinct) (name : String) (value : Value) :
    (c.bind name value).Distinct := by
  obtain ⟨scopes⟩ := c
  cases scopes with
  | nil => exact distinct
  | cons scope scopes =>
    obtain ⟨first, others⟩ := List.forall_mem_cons.mp distinct
    exact List.forall_mem_cons.mpr ⟨Entries.nodup_keys_insert first name value, others⟩

theorem Distinct.bindParams (distinct : c.Distinct) (params : List String) (args : List Value) :
    (c.bindParams params args).Distinct := by
  induction params generalizing c args with
  | nil => exact distinct
  | cons p params ih =>
    cases args with
    | nil => exact ih (distinct.bind p .null) []
    | cons a args => exact ih (distinct.bind p a) args

theorem scopes_bind (opened : c.scopes ≠ []) (name : String) (value : Value) :
    (c.bind name value).scopes ≠ [] := by
  obtain ⟨scopes⟩ := c
  cases scopes with
  | nil => exact opened
  | cons scope scopes => exact List.cons_ne_nil _ _

/-- One after the other, as `ofBindings` binds them. -/
def bindAll (c : Context) (bindings : List (String × Value)) : Context :=
  bindings.foldl (fun c (name, value) => c.bind name value) c

theorem bindAll_opened (opened : c.scopes ≠ []) (bindings : List (String × Value)) :
    (c.bindAll bindings).scopes ≠ [] := by
  induction bindings generalizing c with
  | nil => exact opened
  | cons b bindings ih => exact ih (scopes_bind opened b.1 b.2)

theorem Distinct.bindAll (distinct : c.Distinct) (bindings : List (String × Value)) :
    (c.bindAll bindings).Distinct := by
  induction bindings generalizing c with
  | nil => exact distinct
  | cons b bindings ih => exact ih (distinct.bind b.1 b.2)

/-- Of several bindings of a name the last one stays. -/
theorem lookup?_bindAll (opened : c.scopes ≠ []) (bindings : List (String × Value))
    (name : String) :
    (c.bindAll bindings).lookup? name =
      (Entries.find? bindings.reverse name).or (c.lookup? name) := by
  induction bindings generalizing c with
  | nil => rfl
  | cons b bindings ih =>
    have last : Entries.find? [b] name = if name = b.1 then some b.2 else none := by
      rw [Entries.find?_cons]
      rfl
    refine (ih (scopes_bind opened b.1 b.2)).trans ?_
    rw [List.reverse_cons, Entries.find?_append, last, lookup?_bind opened, Option.or_assoc]
    split
    · rfl
    · rfl

/-- A list holds the bindings of all scopes, those of outer scopes first and those of one scope in
any order. -/
def Enumerated (c : Context) (bindings : List (String × Value)) : Prop :=
  ∃ parts : List (List (String × Value)),
    List.Forall₂ List.Perm c.scopes parts ∧ bindings = parts.reverse.flatten

theorem enumerated_snapshot (c : Context) : c.Enumerated c.snapshot :=
  ⟨c.scopes, List.forall₂_same.mpr fun scope _ => .refl scope, rfl⟩

/-- In the list that a function captures, the last binding of a name is the innermost one. -/
theorem Enumerated.find?_reverse {bindings : List (String × Value)} (distinct : c.Distinct)
    (captured : c.Enumerated bindings) (name : String) :
    Entries.find? bindings.reverse name = c.lookup? name := by
  obtain ⟨parts, orders, rfl⟩ := captured
  obtain ⟨scopes⟩ := c
  change List.Forall₂ List.Perm scopes parts at orders
  change _ = scopes.findSome? fun scope => Entries.find? scope name
  induction orders with
  | nil => rfl
  | @cons scope part scopes parts order orders ih =>
    obtain ⟨first, others⟩ := List.forall_mem_cons.mp distinct
    have reversed : scope.Perm part.reverse := order.trans part.reverse_perm.symm
    have split : (part :: parts).reverse.flatten.reverse =
        part.reverse ++ parts.reverse.flatten.reverse := by
      rw [List.reverse_cons, List.flatten_append, List.flatten_singleton, List.reverse_append]
    rw [split, Entries.find?_append, ih others, Entries.find?_of_perm first reversed,
      List.findSome?_cons]
    cases Entries.find? scope name with
    | none => rfl
    | some v => rfl

theorem ofBindings_opened (bindings : List (String × Value)) : (ofBindings bindings).scopes ≠ [] :=
  bindAll_opened (List.cons_ne_nil _ _) bindings

theorem lookup?_ofBindings {bindings : List (String × Value)} (distinct : c.Distinct)
    (captured : c.Enumerated bindings) (name : String) :
    (ofBindings bindings).lookup? name = c.lookup? name := by
  have rebuilt := lookup?_bindAll (c := empty) (List.cons_ne_nil _ _) bindings name
  rw [captured.find?_reverse distinct] at rebuilt
  exact rebuilt.trans Option.or_none

theorem lookup?_bindParams_of_not_mem (opened : c.scopes ≠ []) {params : List String}
    (args : List Value) {name : String} (other : name ∉ params) :
    (c.bindParams params args).lookup? name = c.lookup? name := by
  induction params generalizing c args with
  | nil => rfl
  | cons p params ih =>
    have notFirst := List.ne_of_not_mem_cons other
    have notLater := List.not_mem_of_not_mem_cons other
    have step : ∀ value args,
        ((c.bind p value).bindParams params args).lookup? name = c.lookup? name := by
      intro value args
      rw [ih (scopes_bind opened p value) args notLater, lookup?_bind opened, if_neg notFirst]
    cases args with
    | nil => exact step .null []
    | cons a args => exact step a args

/-- Of several parameters of one name the last one counts, and one without an argument is null. -/
theorem lookup?_bindParams (opened : c.scopes ≠ []) {params : List String} (args : List Value)
    {i : Nat} {name : String} (isParam : params[i]? = some name)
    (isLast : name ∉ params.drop (i + 1)) :
    (c.bindParams params args).lookup? name = some (args.getD i .null) := by
  induction params generalizing c args i with
  | nil => cases isParam
  | cons p params ih =>
    cases i with
    | zero =>
      cases isParam
      have isLast : name ∉ params := isLast
      have bound : ∀ value args,
          ((c.bind name value).bindParams params args).lookup? name = some value := by
        intro value args
        rw [lookup?_bindParams_of_not_mem (scopes_bind opened name value) args isLast,
          lookup?_bind opened, if_pos rfl]
      cases args with
      | nil => exact bound .null []
      | cons a args => exact bound a args
    | succ i =>
      have isParam : params[i]? = some name := isParam
      cases args with
      | nil => exact ih (i := i) (scopes_bind opened p .null) [] isParam isLast
      | cons a args => exact ih (scopes_bind opened p a) args isParam isLast

/-- The names that a body sees whose function was made where `c` was visible: parameters stand for
their arguments, and behind them everything is as in `c`. -/
structure Scoped (c : Context) (params : List String) (args : List Value) (scope : Context) :
    Prop where
  param : ∀ (i : Nat) (name : String), params[i]? = some name → name ∉ params.drop (i + 1) →
    scope.lookup? name = some (args.getD i .null)
  captured : ∀ name, name ∉ params → scope.lookup? name = c.lookup? name
  distinct : scope.Distinct

theorem scoped_call {bindings : List (String × Value)} (distinct : c.Distinct)
    (captured : c.Enumerated bindings) (params : List String) (args : List Value) :
    c.Scoped params args ((ofBindings bindings).bindParams params args) where
  param _ _ isParam isLast := lookup?_bindParams (ofBindings_opened bindings) args isParam isLast
  captured name other := by
    rw [lookup?_bindParams_of_not_mem (ofBindings_opened bindings) args other,
      lookup?_ofBindings distinct captured]
  distinct := (distinct_empty.bindAll bindings).bindParams params args

end Context

/-- A call is a step, and then the body is evaluated where only the function's own bindings are. -/
theorem Eval.runOn_call (eval : Eval) (f : Lambda Value) (args : List Value) (root : Value)
    (caller : Evaluator) :
    (eval.call f args root).runOn caller =
      let own := (Context.ofBindings f.captured).bindParams f.params args
      let called := { caller with steps := caller.steps + 1 }
      if caller.options.maxSteps < caller.steps + 1 then
        (.error (.limit (.steps caller.options.maxSteps)), called)
      else
        (((eval f.body root).runOn { called with context := own }).1,
          { ((eval f.body root).runOn { called with context := own }).2 with
            context := caller.context }) := by
  rw [Eval.call, EvalM.runOn_bind, EvalM.runOn_tick]
  by_cases spent : caller.options.maxSteps < caller.steps + 1
  · rw [if_pos spent, if_pos spent]
  · rw [if_neg spent, if_neg spent]
    exact EvalM.runOn_withContext _ _ _

/-- A function sees its parameters and, behind them, what was visible where it was made, and
nothing of its caller. It is made by an arrow or from text, and the order in which the bindings of a
scope are captured does not matter. -/
theorem functions_see_where_they_were_made {ev : Evaluator} (distinct : ev.context.Distinct) :
    (∀ (eval : Eval) (params : List String) (body : Expr.Node) (root : Value),
      ∃ f : Lambda Value, (eval.node root (.lambda params body)).runOn ev = (.ok (.lambda f), ev) ∧
        f.params = params ∧ f.body = body ∧ ev.context.Enumerated f.captured) ∧
    (∀ (text : String) (params : List String) (body : Expr.Node),
      Expr.parseWithDepth text ev.options.maxDepth = .ok body →
      ∃ f : Lambda Value, (EvalM.callable (.string text) params).runOn ev = (.ok f, ev) ∧
        f.params = params ∧ f.body = body ∧ ev.context.Enumerated f.captured) ∧
    ∀ f : Lambda Value, ev.context.Enumerated f.captured → ∀ args : List Value,
      ∃ scope, ev.context.Scoped f.params args scope ∧
        ∀ (eval : Eval) (root : Value),
          eval.call f args root =
              (do EvalM.tick; EvalM.withContext scope (eval f.body root)) ∧
            ∀ (caller : Evaluator) (other : Context),
              (eval.call f args root).runOn { caller with context := other } =
                (((eval.call f args root).runOn caller).1,
                  { ((eval.call f args root).runOn caller).2 with context := other }) := by
  refine ⟨?_, ?_, ?_⟩
  · intro eval params body root
    exact ⟨_, rfl, rfl, rfl, ev.context.enumerated_snapshot⟩
  · intro text params body parses
    refine ⟨⟨⟨ev.evaluation, ev.steps⟩, params, body, ev.context.snapshot⟩, ?_, rfl, rfl,
      ev.context.enumerated_snapshot⟩
    change ((Library.lift (Expr.parseWithDepth text ev.options.maxDepth) >>=
      EvalM.makeLambda params).runOn ev) = _
    rw [parses]
    rfl
  · intro f captured args
    refine ⟨_, Context.scoped_call distinct captured f.params args, fun eval root => ⟨rfl, ?_⟩⟩
    intro caller other
    rw [Eval.runOn_call, Eval.runOn_call]
    dsimp only
    split
    · rfl
    · rfl

/-- An evaluator with two scopes that both bind `x`. -/
def Evaluator.shadowing : Evaluator where
  context := ⟨[[("x", .bool true)], [("x", .null), ("y", .bool false)]]⟩

/-- The inner `x` is seen though the outer one was captured after `y`, of two parameters `a` the
last one counts, and what is bound nowhere stays so. -/
theorem shadowed_names_resolve :
    Evaluator.shadowing.context.Distinct ∧
      ∃ scope : Context, scope.lookup? "a" = some (.number 2.0) ∧
        scope.lookup? "x" = some (.bool true) ∧ scope.lookup? "y" = some (.bool false) ∧
        scope.lookup? "@" = none ∧
        ∀ (eval : Eval) (root : Value),
          eval.call ⟨⟨0, 0⟩, ["a", "a"], .name "x",
              [("y", .bool false), ("x", .null), ("x", .bool true)]⟩
            [.number 1.0, .number 2.0] root =
          (do EvalM.tick; EvalM.withContext scope (eval (.name "x") root)) := by
  have distinct : Evaluator.shadowing.context.Distinct := by
    simp [Context.Distinct, Evaluator.shadowing, Entries.keys]
  have captured : Evaluator.shadowing.context.Enumerated
      [("y", .bool false), ("x", .null), ("x", .bool true)] :=
    ⟨[[("x", .bool true)], [("y", .bool false), ("x", .null)]],
      .cons (.refl _) (.cons (.swap _ _ _) .nil), rfl⟩
  obtain ⟨scope, sees, calls⟩ := (functions_see_where_they_were_made distinct).2.2
    ⟨⟨0, 0⟩, ["a", "a"], .name "x", _⟩ captured [.number 1.0, .number 2.0]
  refine ⟨distinct, scope, ?_, ?_, ?_, ?_, fun eval root => (calls eval root).1⟩
  · exact sees.param 1 "a" rfl List.not_mem_nil
  · exact (sees.captured "x" (by simp)).trans rfl
  · exact (sees.captured "y" (by simp)).trans rfl
  · exact (sees.captured "@" (by simp)).trans rfl

end DocExpr
