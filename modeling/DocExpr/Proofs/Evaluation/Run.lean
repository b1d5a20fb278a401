import DocExpr.Evaluation

/-! What a computation does to an evaluator, step by step: the result and the evaluator afterwards,
on success and on failure; what holds of the result wherever it succeeds; and what a call of a
method comes to. -/
namespace DocExpr.EvalM
open Library (lift)
variable {α β : Type}

theorem pure_injective {a b : α} (same : (pure a : EvalM α) = pure b) : a = b :=
  Except.ok.inj (congrArg (fun act => (act.runOn {}).1) same)

theorem runOn_lift (r : Except EvalError α) (ev : Evaluator) : (lift r).runOn ev = (r, ev) := rfl

theorem runOn_bind (x : EvalM α) (f : α → EvalM β) (ev : Evaluator) :
    (x >>= f).runOn ev =
      match (x.runOn ev).1 with
      | .ok a => (f a).runOn (x.runOn ev).2
      | .error e => (.error e, (x.runOn ev).2) := by
  change (ExceptT.bindCont f (x.runOn ev).1).run (x.runOn ev).2 = _
  cases (x.runOn ev).1 with
  | ok a => rfl
  | error e => rfl

theorem runOn_get (f : Evaluator → EvalM α) (ev : Evaluator) :
    (get >>= f).runOn ev = (f ev).runOn ev := rfl

theorem runOn_tick (ev : Evaluator) :
    tick.runOn ev =
      (if ev.options.maxSteps < ev.steps + 1 then .error (.limit (.steps ev.options.maxSteps))
        else .ok (), { ev with steps := ev.steps + 1 }) := by
  change (if ev.options.maxSteps < ev.steps + 1 then
    (throw (.limit (.steps ev.options.maxSteps)) : EvalM Unit) else pure ()).runOn
      { ev with steps := ev.steps + 1 } = _
  split
  · rfl
  · rfl

theorem runOn_deeper (x : EvalM α) (ev : Evaluator) :
    (deeper x).runOn ev =
      let (result, after) := x.runOn { ev with depth := ev.depth + 1 }
      (result, { after with depth := after.depth - 1 }) := rfl

theorem runOn_withBinding (name : String) (value : Value) (x : EvalM α) (ev : Evaluator) :
    (withBinding name value x).runOn ev =
      let (result, after) := x.runOn { ev with context := ev.context.push.bind name value }
      (result, { after with context := after.context.pop }) := rfl

theorem runOn_withContext (context : Context) (x : EvalM α) (ev : Evaluator) :
    (withContext context x).runOn ev =
      let (result, after) := x.runOn { ev with context }
      (result, { after with context := ev.context }) := rfl

variable {on : Evaluator → Prop} {P Q : α → Prop}

/-- Where the computation succeeds on one of the evaluators, its result has the property. -/
def Returns (on : Evaluator → Prop) (P : α → Prop) (act : EvalM α) : Prop :=
  ∀ ev, on ev → ∀ a, (act.runOn ev).1 = .ok a → P a

/-- Moreover the computation does not leave the evaluators, whether it succeeds or fails. -/
structure Ensures (on : Evaluator → Prop) (P : α → Prop) (act : EvalM α) : Prop where
  returns : act.Returns on P
  stays : ∀ ev, on ev → on (act.runOn ev).2

/-- On every evaluator. -/
abbrev Always (P : α → Prop) (act : EvalM α) : Prop := act.Returns (fun _ => True) P

namespace Returns

theorem pure {a : α} (holds : P a) : Returns on P (pure a) := by
  intro ev _ b result
  cases result
  exact holds

theorem lift {r : Except EvalError α} (holds : ∀ a, r = .ok a → P a) : Returns on P (lift r) :=
  fun _ _ a result => holds a result

theorem mono {act : EvalM α} (returns : act.Returns on P) (weaker : ∀ a, P a → Q a) :
    act.Returns on Q :=
  fun ev isOn a result => weaker a (returns ev isOn a result)

variable {P : β → Prop} {x : EvalM α} {f : α → EvalM β}

theorem bind (first : x.Ensures on Q) (next : ∀ a, Q a → (f a).Returns on P) :
    (x >>= f).Returns on P := by
  intro ev isOn b result
  rw [runOn_bind] at result
  split at result
  next a ran => exact next a (first.returns ev isOn a ran) _ (first.stays ev isOn) b result
  next => cases result

/-- A result comes from the last part, so where that returns what it should on all evaluators
nothing need be known of the first. -/
theorem last (next : ∀ a, (f a).Always P) : (x >>= f).Returns on P := by
  intro ev _ b result
  rw [runOn_bind] at result
  split at result
  next a _ => exact next a _ trivial b result
  next => cases result

theorem check {r : Except EvalError α} (next : ∀ a, r = .ok a → (f a).Returns on P) :
    (EvalM.Returns on P (Library.lift r >>= f)) := by
  intro ev isOn b result
  cases r with
  | ok a => exact next a rfl ev isOn b result
  | error e => cases result

theorem get {ev : Evaluator} {f : Evaluator → EvalM β} (here : (f ev).Returns (· = ev) P) :
    (MonadState.get >>= f).Returns (· = ev) P := by
  rintro _ rfl b result
  rw [runOn_get] at result
  exact here _ rfl b result

end Returns

theorem Always.returns {act : EvalM α} (always : act.Always P) : act.Returns on P :=
  fun ev _ => always ev trivial

theorem Always.bind {P : β → Prop} {x : EvalM α} {f : α → EvalM β} (first : x.Always Q)
    (next : ∀ a, Q a → (f a).Always P) : (x >>= f).Always P :=
  Returns.bind ⟨first, fun _ _ => trivial⟩ next

theorem Always.deeper {act : EvalM α} (always : act.Always P) : (deeper act).Always P := by
  intro ev _ a result
  rw [runOn_deeper] at result
  exact always _ trivial a result

theorem Always.withContext {act : EvalM α} (always : act.Always P) (context : Context) :
    (withContext context act).Always P := by
  intro ev _ a result
  rw [runOn_withContext] at result
  exact always _ trivial a result

end DocExpr.EvalM

namespace DocExpr.Library

/-- What a call runs, if its receiver has a method with the name that takes the arguments. -/
theorem callMethod_own {host : Host} {root receiver : Value} {name : String} {args : List Value}
    {arity : Arity} {run : List Value → EvalM Value}
    (own : ownMethod? host root receiver name = some (arity, run))
    (fits : arity.check name args.length = .ok ()) :
    callMethod host root receiver name args = run args := by
  have present : ¬ receiver.isNull = true := by
    intro isNull
    rw [Value.eq_null_of_isNull isNull] at own
    cases own
  rw [callMethod, if_neg present, own]
  dsimp only
  rw [fits]
  rfl

end DocExpr.Library
