import DocExpr.Path.Resolve
import DocExpr.Proofs.Evaluation.Run

/-! The steps of a path that need no evaluation, as functions: where they lead from one value, and
where they lead from each of several. -/
namespace DocExpr.Path
open DocExpr.Expr (Segment)
open Library (lift)

/-- A step that needs no evaluation. -/
def isPlain : Segment → Bool
  | .field _ | .index _ | .wildcard | .descent _ => true
  | .filter _ | .dynamic _ => false

/-- The plain steps; the others lead nowhere. -/
def move (limit : Nat) (at_ : Reached) : Segment → Except EvalError Reached
  | .field name => .ok (field name at_)
  | .index i => .ok (index i at_)
  | .wildcard => .ok (wildcard at_)
  | .descent name => descent name limit at_
  | .filter _ | .dynamic _ => .ok (.many [])

/-- Plain steps one after the other. -/
def moves (limit : Nat) (at_ : Reached) : List Segment → Except EvalError Reached
  | [] => .ok at_
  | s :: ss => do moves limit (← move limit at_ s) ss

/-- Where a plain step leads from one of several values. -/
def moveOfEach (limit : Nat) (s : Segment) (v : Value) : Except EvalError (List Value) :=
  match s with
  | .field name => .ok (fieldOfEach name v)
  | .index i => .ok (element? i v).toList
  | .wildcard => .ok (children v)
  | .descent name => descend name limit 0 v
  | .filter _ | .dynamic _ => .ok []

/-- The value that a step leads to from a single value, where it leads to one and that is there. -/
def present? (s : Segment) (v : Value) : Option Value :=
  match s with
  | .field name => (if name = "length" then length? v else none).or (v.get? name)
  | .index i => element? i v
  | _ => none

/-- The value that the steps lead to from a single value, where each of them leads to one and that
is there. -/
def walk? (v : Value) : List Segment → Option Value
  | [] => some v
  | s :: ss => (present? s v).bind (walk? · ss)

theorem lift_injective {α : Type} {r r' : Except EvalError α} (same : lift r = lift r') :
    r = r' := by
  have runs := congrArg (fun act : EvalM α => (act.runOn {}).1) same
  exact runs

theorem lift_bind {α β : Type} (r : Except EvalError α) (f : α → Except EvalError β) :
    (lift r >>= fun a => lift (f a)) = lift (r >>= f) := by
  cases r with
  | ok a => rfl
  | error e => rfl

theorem step_eq_move (guide : Guide) (at_ : Reached) {s : Segment} (plain : isPlain s = true) :
    step guide at_ s = lift (move guide.maxDepth at_ s) := by
  cases s with
  | field | index | wildcard | descent => rfl
  | filter | dynamic => cases plain

theorem steps_eq_moves (guide : Guide) {segments : List Segment}
    (plain : ∀ s ∈ segments, isPlain s = true) (at_ : Reached) :
    steps guide at_ segments = lift (moves guide.maxDepth at_ segments) := by
  induction segments generalizing at_ with
  | nil => rfl
  | cons s ss ih =>
    obtain ⟨first, others⟩ := List.forall_mem_cons.mp plain
    rw [steps, step_eq_move guide at_ first]
    simp only [ih others]
    exact lift_bind _ _

theorem resolve_eq_moves (guide : Guide) {segments : List Segment}
    (plain : ∀ s ∈ segments, isPlain s = true) (v : Value) :
    resolve guide v segments =
      lift ((moves guide.maxDepth (.one v) segments).map Reached.result) := by
  rw [resolve, steps_eq_moves guide plain]
  cases moves guide.maxDepth (.one v) segments with
  | ok r => rfl
  | error e => rfl

theorem descendItems_eq_flatMapM (name : String) (limit depth : Nat) (vs : List Value) :
    descendItems name limit depth vs = vs.flatMapM (descend name limit depth) := by
  induction vs with
  | nil => rfl
  | cons v vs ih => rw [descendItems, List.flatMapM_cons, ih]

/-- A step from one value, taken alone and taken as one of several: to one value that is there, to
null or nothing where none is there, to several values alike, or into the same error. -/
inductive Moved (limit : Nat) (s : Segment) (v : Value) : Prop where
  | present (w : Value) (there : present? s v = some w) (several : moveOfEach limit s v = .ok [w])
      (alone : move limit (.one v) s = .ok (.one w))
  | absent (there : present? s v = none) (several : moveOfEach limit s v = .ok [])
      (alone : move limit (.one v) s = .ok (.one .null))
  | spread (ws : List Value) (there : present? s v = none)
      (several : moveOfEach limit s v = .ok ws) (alone : move limit (.one v) s = .ok (.many ws))
  | failed {e : EvalError} (there : present? s v = none)
      (several : moveOfEach limit s v = .error e) (alone : move limit (.one v) s = .error e)

theorem moved_field (limit : Nat) (name : String) (v : Value) : Moved limit (.field name) v := by
  cases own : (if name = "length" then length? v else none) with
  | some n =>
    split at own
    next named =>
      subst named
      cases v with
      | string | array =>
        cases own
        exact .present _ rfl rfl rfl
      | _ => cases own
    next => cases own
  | none =>
    cases v with
    | object entries =>
      cases found : (Value.object entries).get? name with
      | some w =>
        refine .present w ?_ ?_ ?_
        · rw [present?, own, found, Option.none_or]
        · rw [moveOfEach, fieldOfEach, found, Option.toList_some]
        · simp only [move, field, fieldOfOne, own, found, Option.getD_some]
      | none =>
        refine .absent ?_ ?_ ?_
        · rw [present?, own, found, Option.none_or]
        · rw [moveOfEach, fieldOfEach, found, Option.toList_none]
        · simp only [move, field, fieldOfOne, own, found, Option.getD_none]
    | array items =>
      have other : name ≠ "length" := by
        rintro rfl
        cases own
      refine .spread (fieldsOf name items) ?_ ?_ ?_
      · rw [present?, own]
        rfl
      · rw [moveOfEach, fieldOfEach, if_neg other]
      · simp only [move, field, fieldOfOne, own]
    | _ =>
      refine .absent ?_ ?_ ?_
      · rw [present?, own]
        rfl
      · by_cases named : name = "length"
        · rw [if_pos named] at own
          simp only [moveOfEach, fieldOfEach, if_pos named, own, Option.toList_none]
        · simp only [moveOfEach, fieldOfEach, if_neg named]
      · simp only [move, field, fieldOfOne, own]

theorem descent_one (name : String) (limit : Nat) (v : Value) :
    descent name limit (.one v) = (descend name limit 0 v).map .many := by
  rw [descent, Reached.values, descendItems_eq_flatMapM, List.flatMapM_cons, List.flatMapM_nil]
  cases descend name limit 0 v with
  | error e => rfl
  | ok ws => exact congrArg (fun ws => Except.ok (Reached.many ws)) (List.append_nil ws)

theorem moved (limit : Nat) {s : Segment} (plain : isPlain s = true) (v : Value) :
    Moved limit s v := by
  cases s with
  | field name => exact moved_field limit name v
  | index i =>
    cases found : element? i v with
    | some w =>
      refine .present w found ?_ ?_
      · rw [moveOfEach, found, Option.toList_some]
      · rw [move, index, found, Option.getD_some]
    | none =>
      refine .absent found ?_ ?_
      · rw [moveOfEach, found, Option.toList_none]
      · rw [move, index, found, Option.getD_none]
  | wildcard =>
    refine .spread (children v) rfl rfl ?_
    exact congrArg (fun ws => Except.ok (Reached.many ws)) (List.append_nil (children v))
  | descent name =>
    have alone := descent_one name limit v
    cases found : descend name limit 0 v with
    | error e => exact .failed rfl found (by rw [move, alone, found]; rfl)
    | ok ws => exact .spread ws rfl found (by rw [move, alone, found]; rfl)
  | filter | dynamic => cases plain

theorem moves_cons (limit : Nat) (at_ : Reached) (s : Segment) (ss : List Segment) :
    moves limit at_ (s :: ss) = (move limit at_ s >>= fun r => moves limit r ss) := rfl

/-- Where every step leads to one value and that is there, the steps lead to it. -/
theorem moves_of_walk (limit : Nat) {segments : List Segment}
    (plain : ∀ s ∈ segments, isPlain s = true) {v w : Value} (there : walk? v segments = some w) :
    moves limit (.one v) segments = .ok (.one w) := by
  induction segments generalizing v with
  | nil =>
    cases there
    rfl
  | cons s ss ih =>
    obtain ⟨first, others⟩ := List.forall_mem_cons.mp plain
    obtain ⟨u, here, beyond⟩ := Option.bind_eq_some_iff.mp there
    rw [moves_cons]
    cases moved limit first v with
    | present w here' several alone =>
      cases here.symm.trans here'
      rw [alone]
      exact ih others beyond
    | absent lost | spread _ lost | failed lost =>
      rw [lost] at here
      cases here

end DocExpr.Path
