import DocExpr.Error
import DocExpr.Evaluation
import DocExpr.Library.Text
import DocExpr.Operator
import DocExpr.Path.Step
import DocExpr.Proofs.Library.KnownFunctions

/-! A result with narrow limits against the result of the same work with wider ones: where a limit
was reached nothing is known of the other result, and else both are the same. Sequencing keeps
this, so it need only be shown where a limit is looked at: in strings that are put together and in
documents that are searched. For computations on an evaluator, relations are named that survive
everything an evaluation is built from. Such a relation need only be shown for the few steps that
touch the state; that the library and the evaluation of trees keep it is shown elsewhere, for all
such relations at once. -/
namespace DocExpr

/-- `r` reached a limit, or `r'` is the same result. -/
inductive Within {α : Type} : Except EvalError α → Except EvalError α → Prop where
  | limit (fault : LimitFault) (r' : Except EvalError α) : Within (.error (.limit fault)) r'
  | same (r : Except EvalError α) : Within r r

namespace Within
variable {α β : Type} {x x' : Except EvalError α}

theorem bind {f f' : α → Except EvalError β} (first : Within x x')
    (next : ∀ a, Within (f a) (f' a)) : Within (x >>= f) (x' >>= f') := by
  cases first with
  | limit fault => exact .limit fault _
  | same =>
    cases x with
    | error e => exact .same _
    | ok a => exact next a

theorem map (f : α → β) (h : Within x x') : Within (x.map f) (x'.map f) := by
  cases h with
  | limit fault => exact .limit fault _
  | same => exact .same _

/-- What is no limit error stays. -/
theorem eq_of_not_limit (h : Within x x') (reached : ∀ fault, x ≠ .error (.limit fault)) :
    x' = x := by
  cases h with
  | limit fault => exact absurd rfl (reached fault)
  | same => rfl

end Within

namespace Library

theorem checkLength_within {limit limit' : Nat} (wider : limit ≤ limit') (length : Nat) :
    Within (checkLength length limit) (checkLength length limit') := by
  unfold checkLength
  split
  · exact .limit _ _
  · rw [if_neg (by omega)]
    exact .same _

theorem appendAll_within {limit limit' : Nat} (wider : limit ≤ limit') (s : String)
    (vs : List Value) : Within (appendAll limit s vs) (appendAll limit' s vs) := by
  induction vs generalizing s with
  | nil => exact .same _
  | cons v vs ih => exact (checkLength_within wider _).bind fun _ => ih _

theorem repeatText_within {limit limit' : Nat} (wider : limit ≤ limit') (s : String)
    (count : Float) : Within (repeatText limit s count) (repeatText limit' s count) := by
  unfold repeatText
  dsimp only
  split
  · exact .same _
  · exact (checkLength_within wider _).bind fun _ => .same _

end Library

namespace Expr

theorem addValues_within {limit limit' : Nat} (wider : limit ≤ limit') (left right : Value) :
    Within (addValues limit left right) (addValues limit' left right) := by
  unfold addValues
  split
  · exact (Library.checkLength_within wider _).bind fun _ => .same _
  · exact .same _

theorem BinaryOp.apply_within {limit limit' : Nat} (wider : limit ≤ limit') (op : BinaryOp)
    (left right : Value) : Within (op.apply limit left right) (op.apply limit' left right) := by
  cases op with
  | add => exact addValues_within wider left right
  | _ => exact .same _

end Expr

namespace Path
variable {name : String} {limit limit' : Nat}

mutual

theorem descend_within (wider : limit ≤ limit') (depth : Nat) (v : Value) :
    Within (descend name limit depth v) (descend name limit' depth v) := by
  unfold descend
  split
  · exact .limit _ _
  · rw [if_neg (by omega)]
    split
    · exact (descendEntries_within wider _ _).bind fun _ => .same _
    · exact descendItems_within wider _ _
    · exact .same _

theorem descendItems_within (wider : limit ≤ limit') (depth : Nat) (vs : List Value) :
    Within (descendItems name limit depth vs) (descendItems name limit' depth vs) := by
  cases vs with
  | nil => exact .same _
  | cons v vs =>
    refine (descend_within wider depth v).bind fun here => ?_
    exact (descendItems_within wider depth vs).bind fun there => .same _

theorem descendEntries_within (wider : limit ≤ limit') (depth : Nat) (es : List (String × Value)) :
    Within (descendEntries name limit depth es) (descendEntries name limit' depth es) := by
  match es with
  | [] => exact .same _
  | (k, v) :: es =>
    refine (descend_within wider depth v).bind fun here => ?_
    exact (descendEntries_within wider depth es).bind fun there => .same _

end

theorem descent_within (wider : limit ≤ limit') (at_ : Reached) :
    Within (descent name limit at_) (descent name limit' at_) :=
  (descendItems_within wider 0 at_.values).map _

end Path

end DocExpr

namespace DocExpr

/-- Each limit of `o` is at most that of `o'`. -/
structure Options.Le (o o' : Options) : Prop where
  maxDepth : o.maxDepth ≤ o'.maxDepth
  maxSteps : o.maxSteps ≤ o'.maxSteps
  maxStringLength : o.maxStringLength ≤ o'.maxStringLength

instance : LE Options := ⟨Options.Le⟩

theorem Options.le_refl (o : Options) : o ≤ o := ⟨Nat.le_refl _, Nat.le_refl _, Nat.le_refl _⟩

/-- `ev'` is `ev` but for limits that may be wider. -/
structure Evaluator.Widened (ev ev' : Evaluator) : Prop where
  limits : ev.options ≤ ev'.options
  context : ev'.context = ev.context
  depth : ev'.depth = ev.depth
  steps : ev'.steps = ev.steps
  evaluation : ev'.evaluation = ev.evaluation
  ambient : ev'.ambient = ev.ambient

theorem Evaluator.Widened.refl (ev : Evaluator) : ev.Widened ev :=
  ⟨ev.options.le_refl, rfl, rfl, rfl, rfl, rfl⟩

namespace EvalM
open Library (lift)

/-- A relation between computations with results of the same type. -/
abbrev Relation := ∀ α : Type, EvalM α → EvalM α → Prop

/-- The relation survives sequencing, and a result is related to itself if it is not that a
function is unknown. Its second computation may run with wider limits, so where the first one
reaches a limit the second one is free. -/
structure Sequenced (R : Relation) : Prop where
  known : ∀ {α} {r : Except EvalError α}, KnowsFunctions r → R α (lift r) (lift r)
  limit : ∀ {α} fault (x' : EvalM α), R α (lift (.error (.limit fault))) x'
  bind : ∀ {α β} {x x' : EvalM α} {f f' : α → EvalM β}, R α x x' →
    (∀ a, R β (f a) (f' a)) → R β (x >>= f) (x' >>= f')

namespace Sequenced
variable {R : Relation} (keeps : Sequenced R) {α : Type}
include keeps

theorem pure (a : α) : R α (pure a) (pure a) := keeps.known (.ok a)

theorem lift_within {r r' : Except EvalError α} (h : Within r r') (known : KnowsFunctions r) :
    R α (lift r) (lift r') := by
  cases h with
  | limit fault => exact keeps.limit fault _
  | same => exact keeps.known known

end Sequenced

/-- The relation survives sequencing and every step that touches the state. Its second computation
may run with wider limits, so where the first one reaches a limit the second one is free. -/
structure Congruence (R : Relation) : Prop where
  result : ∀ {α} (r : Except EvalError α), R α (lift r) (lift r)
  limit : ∀ {α} fault (x' : EvalM α), R α (lift (.error (.limit fault))) x'
  bind : ∀ {α β} {x x' : EvalM α} {f f' : α → EvalM β}, R α x x' →
    (∀ a, R β (f a) (f' a)) → R β (x >>= f) (x' >>= f')
  read : ∀ {α} {f f' : Evaluator → EvalM α},
    (∀ ev ev', ev.Widened ev' → R α (f ev) (f' ev')) → R α (get >>= f) (get >>= f')
  tick : R Unit tick tick
  deeper : ∀ {α} {x x' : EvalM α}, R α x x' → R α (deeper x) (deeper x')
  withBinding : ∀ {α} {x x' : EvalM α} name value, R α x x' →
    R α (withBinding name value x) (withBinding name value x')
  withContext : ∀ {α} {x x' : EvalM α} context, R α x x' →
    R α (withContext context x) (withContext context x')

namespace Congruence
variable {R : Relation} (keeps : Congruence R) {α β : Type}
include keeps

theorem sequenced : Sequenced R where
  known _ := keeps.result _
  limit := keeps.limit
  bind := keeps.bind

theorem pure (a : α) : R α (pure a) (pure a) := keeps.result (.ok a)

theorem lift_within {r r' : Except EvalError α} (h : Within r r') : R α (lift r) (lift r') := by
  cases h with
  | limit fault => exact keeps.limit fault _
  | same => exact keeps.result r

theorem map {x x' : EvalM α} (f : α → β) (h : R α x x') : R β (f <$> x) (f <$> x') := by
  rw [map_eq_pure_bind, map_eq_pure_bind]
  exact keeps.bind h fun a => keeps.pure (f a)

theorem mapM {f f' : α → EvalM β} (each : ∀ a, R β (f a) (f' a)) (as : List α) :
    R (List β) (as.mapM f) (as.mapM f') := by
  induction as with
  | nil => exact keeps.pure []
  | cons a as ih =>
    rw [List.mapM_cons, List.mapM_cons]
    exact keeps.bind (each a) fun b => keeps.bind ih fun bs => keeps.pure (b :: bs)

end Congruence
end EvalM
end DocExpr
