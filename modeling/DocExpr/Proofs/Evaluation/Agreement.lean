import DocExpr.Proofs.Evaluation.Frame
import DocExpr.Proofs.Placewise

/-! Runs that agree as far as limits let them. Where neither of two runs reaches a limit they fail
alike, or have related results, and leave the same evaluator; this is a congruence when the results
are the same. -/
namespace DocExpr.EvalM
open Library (lift)

/-- A run that reached a limit. -/
def Limited {α : Type} (run : Except EvalError α × Evaluator) : Prop :=
  ∃ fault, run.1 = .error (.limit fault)

/-- How two runs may end. -/
inductive Ended {α β : Type} (Q : α → β → Prop) :
    Except EvalError α × Evaluator → Except EvalError β × Evaluator → Prop where
  | firstLimited {run run'} (limited : Limited run) : Ended Q run run'
  | secondLimited {run run'} (limited : Limited run') : Ended Q run run'
  | error (e : EvalError) (after : Evaluator) : Ended Q (.error e, after) (.error e, after)
  | ok {a b} (after : Evaluator) (related : Q a b) : Ended Q (.ok a, after) (.ok b, after)

namespace Ended
variable {α β γ δ : Type} {Q : α → β → Prop}

theorem same {Q : α → α → Prop} (same : ∀ a, Q a a) (run : Except EvalError α × Evaluator) :
    Ended Q run run := by
  obtain ⟨result, after⟩ := run
  cases result with
  | ok a => exact .ok after (same a)
  | error e => exact .error e after

theorem eq {run run' : Except EvalError α × Evaluator} (ended : Ended Eq run run')
    (unlimited : ¬ Limited run) (unlimited' : ¬ Limited run') : run' = run := by
  cases ended with
  | firstLimited limited => exact absurd limited unlimited
  | secondLimited limited => exact absurd limited unlimited'
  | error e after => rfl
  | ok after same => rw [same]

/-- What comes next is only looked at where the first part gave results. -/
theorem bind {Q' : γ → δ → Prop} {x : EvalM α} {x' : EvalM β} {k : α → EvalM γ}
    {k' : β → EvalM δ} {ev : Evaluator} (first : Ended Q (x.runOn ev) (x'.runOn ev))
    (next : ∀ a b after, x.runOn ev = (.ok a, after) → Q a b →
      Ended Q' ((k a).runOn after) ((k' b).runOn after)) :
    Ended Q' ((x >>= k).runOn ev) ((x' >>= k').runOn ev) := by
  rw [runOn_bind, runOn_bind]
  generalize ran : x.runOn ev = run at first next ⊢
  generalize x'.runOn ev = run' at first ⊢
  cases first with
  | firstLimited limited =>
    obtain ⟨fault, limited⟩ := limited
    rw [limited]
    exact .firstLimited ⟨fault, rfl⟩
  | secondLimited limited =>
    obtain ⟨fault, limited⟩ := limited
    rw [limited]
    exact .secondLimited ⟨fault, rfl⟩
  | error e after => exact .error e after
  | ok after related => exact next _ _ after rfl related

/-- Two computations that begin with a step have taken the same one. -/
theorem afterTick {k : Unit → EvalM α} {k' : Unit → EvalM β} {ev : Evaluator}
    (next : Ended Q ((k ()).runOn { ev with steps := ev.steps + 1 })
      ((k' ()).runOn { ev with steps := ev.steps + 1 })) :
    Ended Q ((tick >>= k).runOn ev) ((tick >>= k').runOn ev) := by
  have ticked : Ended Eq (tick.runOn ev) (tick.runOn ev) := .same (fun _ => rfl) _
  refine ticked.bind fun _ _ after ran _ => ?_
  obtain rfl : { ev with steps := ev.steps + 1 } = after := by
    rw [runOn_tick] at ran
    exact congrArg Prod.snd ran
  exact next

/-- What is done to the evaluator afterwards does not depend on the result. -/
theorem mapState {run : Except EvalError α × Evaluator} {run' : Except EvalError β × Evaluator}
    (ended : Ended Q run run') (change : Evaluator → Evaluator) :
    Ended Q (run.1, change run.2) (run'.1, change run'.2) := by
  cases ended with
  | firstLimited limited => exact .firstLimited limited
  | secondLimited limited => exact .secondLimited limited
  | error e after => exact .error e _
  | ok after related => exact .ok _ related

end Ended

/-- Two computations that end alike on every evaluator. -/
def Alike : Relation := fun _ x x' => ∀ ev, Ended Eq (x.runOn ev) (x'.runOn ev)

theorem alike_congruence : Congruence Alike where
  result _ _ := .same (fun _ => rfl) _
  limit fault _ _ := .firstLimited ⟨fault, rfl⟩
  bind first next ev := (first ev).bind fun a _ after _ same => same ▸ next a after
  read each ev := each ev ev (.refl ev) ev
  tick _ := .same (fun _ => rfl) _
  deeper inner _ := (inner _).mapState fun after => { after with depth := after.depth - 1 }
  withBinding _ _ inner _ :=
    (inner _).mapState fun after => { after with context := after.context.pop }
  withContext _ inner ev := (inner _).mapState fun after => { after with context := ev.context }

theorem Framed.context_eq {α : Type} {x : EvalM α} (framed : Framed α x x) {ev after : Evaluator}
    {result : Except EvalError α} (ran : x.runOn ev = (result, after)) :
    after.context = ev.context := by
  obtain ⟨n, -, advanced⟩ : ev.Advances after := by
    simpa only [ran] using framed ev
  rw [advanced]

/-- Of computations that keep the context, each one is run where the first one was. -/
theorem Ended.mapM {A B α β : Type} {Q : Nat → α → β → Prop} {f : A → EvalM α} {f' : B → EvalM β}
    (framed : ∀ a, Framed _ (f a) (f a)) {c : Context} {i : Nat} {as : List A} {bs : List B}
    (each : Placewise (fun i a b => ∀ ev : Evaluator, ev.context = c →
      Ended (Q i) ((f a).runOn ev) ((f' b).runOn ev)) i as bs)
    {ev : Evaluator} (here : ev.context = c) :
    Ended (Placewise Q i) ((as.mapM f).runOn ev) ((bs.mapM f').runOn ev) := by
  induction each generalizing ev with
  | nil i => exact .ok ev (.nil i)
  | cons first others ih =>
    rw [List.mapM_cons, List.mapM_cons]
    refine (first ev here).bind fun a b after ran related => ?_
    have kept := (framed _).context_eq ran
    exact (ih (kept.trans here)).bind fun as bs after _ others => .ok after (.cons related others)

end DocExpr.EvalM
