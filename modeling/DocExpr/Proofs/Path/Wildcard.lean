import DocExpr.Proofs.Path.Plain
import Mathlib.Data.List.Basic

/-! What follows a wildcard in a path. From there on the path is at several values, and each of
them goes its own way: a step takes every value where it would take that value alone, and a value
from which a step leads nowhere drops out. -/
namespace DocExpr.Path
open DocExpr.Expr (Segment)
open Library (lift)

/-- Where the steps lead from one value, as part of several: all that they lead to when that is
several values, and the one value only if it is there. -/
def yield (there : Bool) : Reached → List Value
  | .many vs => vs
  | .one v => if there then [v] else []

/-- What a value adds to the result of a path when it is one of several that the path is at. -/
def contribution (guide : Guide) (segments : List Segment) (v : Value) : EvalM (List Value) :=
  return yield (walk? v segments).isSome (← steps guide (.one v) segments)

/-- What a value adds, in the four ways in which a path may go on from it alone. -/
inductive Contributes (guide : Guide) (segments : List Segment) (v : Value) :
    EvalM (List Value) → Prop where
  /-- The path leads to several values: all of them. -/
  | several {vs : List Value} (led : steps guide (.one v) segments = pure (.many vs)) :
      Contributes guide segments v (pure vs)
  /-- The path stays at one value, and every step of it is there: this value. -/
  | present {w : Value} (there : walk? v segments = some w)
      (led : steps guide (.one v) segments = pure (.one w)) :
      Contributes guide segments v (pure [w])
  /-- The path stays at one value, and some step of it is not there: nothing. -/
  | absent (lost : walk? v segments = none)
      (led : steps guide (.one v) segments = pure (.one .null)) :
      Contributes guide segments v (pure [])
  /-- A search for a name goes too deep. -/
  | failed (led : steps guide (.one v) segments = throw (tooDeep guide.maxDepth)) :
      Contributes guide segments v (throw (tooDeep guide.maxDepth))

/-- What a value adds, for plain steps. -/
def gain (limit : Nat) (segments : List Segment) (v : Value) : Except EvalError (List Value) :=
  (moves limit (.one v) segments).map (yield (walk? v segments).isSome)

theorem lift_flatMapM {α β : Type} (f : α → Except EvalError (List β)) (as : List α) :
    as.flatMapM (fun a => lift (f a)) = lift (as.flatMapM f) := by
  induction as with
  | nil => rfl
  | cons a as ih =>
    rw [List.flatMapM_cons, List.flatMapM_cons, ih]
    cases f a with
    | error e => rfl
    | ok here =>
      cases as.flatMapM f with
      | error e => rfl
      | ok there => rfl

theorem contribution_eq_gain (guide : Guide) {segments : List Segment}
    (plain : ∀ s ∈ segments, isPlain s = true) (v : Value) :
    contribution guide segments v = lift (gain guide.maxDepth segments v) := by
  rw [contribution, steps_eq_moves guide plain, gain]
  cases moves guide.maxDepth (.one v) segments with
  | ok r => rfl
  | error e => rfl

/-! A search for a name is all that can fail, and it fails in one way. So the order in which values are
taken does not show. -/

/-- A result that is no error but this one. -/
def FailsOnlyWith {α : Type} (e : EvalError) (r : Except EvalError α) : Prop :=
  ∀ e', r = .error e' → e' = e

section
variable {α β : Type} {e : EvalError}

theorem FailsOnlyWith.ok (a : α) : FailsOnlyWith e (.ok a : Except EvalError α) :=
  fun _ failed => by cases failed

theorem FailsOnlyWith.bind {r : Except EvalError α} {f : α → Except EvalError β}
    (first : FailsOnlyWith e r) (second : ∀ a, FailsOnlyWith e (f a)) :
    FailsOnlyWith e (r >>= f) := by
  cases r with
  | ok a => exact second a
  | error e' => exact fun e'' failed => first e'' (by cases failed; rfl)

theorem FailsOnlyWith.map {r : Except EvalError α} (fails : FailsOnlyWith e r) (f : α → β) :
    FailsOnlyWith e (r.map f) := by
  cases r with
  | ok a => exact .ok (f a)
  | error e' => exact fun e'' failed => fails e'' (by cases failed; rfl)

theorem FailsOnlyWith.flatMapM {f : α → Except EvalError (List β)}
    (each : ∀ a, FailsOnlyWith e (f a)) (as : List α) : FailsOnlyWith e (as.flatMapM f) := by
  induction as with
  | nil => exact .ok []
  | cons a as ih =>
    rw [List.flatMapM_cons]
    exact (each a).bind fun here => ih.bind fun there => .ok (here ++ there)

end

theorem FailsOnlyWith.same {α : Type} (e : EvalError) :
    FailsOnlyWith e (.error e : Except EvalError α) :=
  fun _ failed => (Except.error.inj failed).symm

mutual
theorem descend_fails (name : String) (limit depth : Nat) :
    ∀ v, FailsOnlyWith (tooDeep limit) (descend name limit depth v)
  | .object entries => by
    rw [descend]
    split
    · exact .same _
    · exact (descendEntries_fails name limit (depth + 1) entries).bind fun below => .ok _
  | .array items => by
    rw [descend]
    split
    · exact .same _
    · exact descendItems_fails name limit (depth + 1) items
  | .null | .bool _ | .number _ | .string _ | .date _ | .regex .. | .lambda _ => by
    unfold descend
    split
    · exact .same _
    · exact .ok []

theorem descendItems_fails (name : String) (limit depth : Nat) :
    ∀ vs, FailsOnlyWith (tooDeep limit) (descendItems name limit depth vs)
  | [] => .ok []
  | v :: vs =>
    (descend_fails name limit depth v).bind fun _ =>
      (descendItems_fails name limit depth vs).bind fun _ => .ok _

theorem descendEntries_fails (name : String) (limit depth : Nat) :
    ∀ es, FailsOnlyWith (tooDeep limit) (descendEntries name limit depth es)
  | [] => .ok []
  | (_, v) :: es =>
    (descend_fails name limit depth v).bind fun _ =>
      (descendEntries_fails name limit depth es).bind fun _ => .ok _
end

theorem moveOfEach_fails (limit : Nat) (s : Segment) (v : Value) :
    FailsOnlyWith (tooDeep limit) (moveOfEach limit s v) := by
  cases s with
  | descent name => exact descend_fails name limit 0 v
  | _ => exact .ok _

theorem move_fails (limit : Nat) (at_ : Reached) (s : Segment) :
    FailsOnlyWith (tooDeep limit) (move limit at_ s) := by
  cases s with
  | descent name => exact (descendItems_fails name limit 0 at_.values).map Reached.many
  | _ => exact .ok _

theorem moves_fails (limit : Nat) (at_ : Reached) (segments : List Segment) :
    FailsOnlyWith (tooDeep limit) (moves limit at_ segments) := by
  induction segments generalizing at_ with
  | nil => exact .ok at_
  | cons s ss ih => exact (move_fails limit at_ s).bind ih

theorem gain_fails (limit : Nat) (segments : List Segment) (v : Value) :
    FailsOnlyWith (tooDeep limit) (gain limit segments v) := by
  exact (moves_fails limit (.one v) segments).map (yield (walk? v segments).isSome)

theorem flatMapM_append {α β : Type} (f : α → Except EvalError (List β)) (as as' : List α) :
    (as ++ as').flatMapM f = (do return (← as.flatMapM f) ++ (← as'.flatMapM f)) := by
  induction as with
  | nil =>
    rw [List.nil_append, List.flatMapM_nil]
    cases as'.flatMapM f with
    | ok there => rfl
    | error e => rfl
  | cons a as ih =>
    rw [List.cons_append, List.flatMapM_cons, List.flatMapM_cons, ih]
    cases f a with
    | error e => rfl
    | ok first =>
      cases as.flatMapM f with
      | error e => rfl
      | ok here =>
        cases as'.flatMapM f with
        | error e => rfl
        | ok there => exact congrArg Except.ok (List.append_assoc first here there).symm

/-- Taking a step with all values and the next one with all values after it is taking both with
one value after the other. -/
theorem flatMapM_flatMapM {α β γ : Type} {e : EvalError} {f : α → Except EvalError (List β)}
    {g : β → Except EvalError (List γ)} (first : ∀ a, FailsOnlyWith e (f a))
    (second : ∀ b, FailsOnlyWith e (g b)) (as : List α) :
    (as.flatMapM f >>= fun bs => bs.flatMapM g) =
      as.flatMapM fun a => f a >>= fun bs => bs.flatMapM g := by
  induction as with
  | nil => rfl
  | cons a as ih =>
    rw [List.flatMapM_cons, List.flatMapM_cons, ← ih]
    cases f a with
    | error e => rfl
    | ok here =>
      cases later : as.flatMapM f with
      | ok there => exact flatMapM_append g here there
      | error e' =>
        -- here the next step may fail with `here` before the first one fails with a later value
        obtain rfl : e' = e := FailsOnlyWith.flatMapM first as e' later
        change Except.error e' = (here.flatMapM g >>= fun _ => Except.error e')
        cases now : here.flatMapM g with
        | ok bs => rfl
        | error e'' => exact congrArg Except.error (FailsOnlyWith.flatMapM second here e'' now).symm

theorem flatMapM_failed {α β : Type} {e : EvalError} {f : α → Except EvalError (List β)}
    (only : ∀ a, FailsOnlyWith e (f a)) {a : α} {as : List α} (isIn : a ∈ as)
    (failed : f a = .error e) : as.flatMapM f = .error e := by
  induction as with
  | nil => cases isIn
  | cons b bs ih =>
    rw [List.flatMapM_cons]
    cases now : f b with
    | error e' => exact congrArg Except.error (only b e' now)
    | ok here =>
      have later : a ∈ bs := by
        rcases List.mem_cons.mp isIn with rfl | later
        · rw [failed] at now
          cases now
        · exact later
      rw [ih later]
      rfl

theorem flatMapM_ok {α β : Type} {f : α → Except EvalError (List β)} {g : α → List β} {as : List α}
    (each : ∀ a ∈ as, f a = .ok (g a)) : as.flatMapM f = .ok (as.flatMap g) := by
  induction as with
  | nil => rfl
  | cons a as ih =>
    obtain ⟨first, others⟩ := List.forall_mem_cons.mp each
    rw [List.flatMapM_cons, first, ih others, List.flatMap_cons]
    rfl

/-- From several values a step leads where it leads from each of them. -/
theorem move_many (limit : Nat) {s : Segment} (plain : isPlain s = true) (vs : List Value) :
    move limit (.many vs) s = (vs.flatMapM (moveOfEach limit s)).map .many := by
  have total : ∀ f : Value → List Value,
      (vs.flatMapM fun v => (.ok (f v) : Except EvalError (List Value))).map Reached.many =
        .ok (.many (vs.flatMap f)) :=
    fun f => congrArg (Except.map Reached.many) (flatMapM_ok fun _ _ => rfl)
  cases s with
  | field name => exact (total (fieldOfEach name)).symm
  | index i =>
    rw [move, index, List.filterMap_eq_flatMap_toList]
    exact (total fun v => (element? i v).toList).symm
  | wildcard => exact (total children).symm
  | descent name =>
    exact congrArg (Except.map Reached.many) (descendItems_eq_flatMapM name limit 0 vs)
  | filter | dynamic => cases plain

theorem moves_nowhere (limit : Nat) {segments : List Segment}
    (plain : ∀ s ∈ segments, isPlain s = true) :
    moves limit (.many []) segments = .ok (.many []) := by
  induction segments with
  | nil => rfl
  | cons s ss ih =>
    obtain ⟨first, others⟩ := List.forall_mem_cons.mp plain
    rw [moves_cons, move_many limit first]
    exact ih others

/-- From null all steps lead to null or to no values. -/
theorem moves_null (limit : Nat) {segments : List Segment}
    (plain : ∀ s ∈ segments, isPlain s = true) :
    moves limit (.one .null) segments = .ok (.one .null) ∨
      moves limit (.one .null) segments = .ok (.many []) := by
  induction segments with
  | nil => exact .inl rfl
  | cons s ss ih =>
    obtain ⟨first, others⟩ := List.forall_mem_cons.mp plain
    have step : move limit (.one .null) s = .ok (.one .null) ∨
        move limit (.one .null) s = .ok (.many []) := by
      cases s with
      | field name =>
        refine .inl ?_
        by_cases named : name = "length"
        · subst named; rfl
        · simp only [move, field, fieldOfOne, if_neg named]
      | index i => exact .inl rfl
      | wildcard => exact .inr rfl
      | descent name =>
        refine .inr ?_
        rw [move, descent_one]
        unfold descend
        rfl
      | filter | dynamic => cases first
    rw [moves_cons]
    rcases step with step | step
    · rw [step]
      exact ih others
    · rw [step]
      exact .inr (moves_nowhere limit others)

theorem gain_of_absent (limit : Nat) {s : Segment} {ss : List Segment} {v : Value}
    (plain : ∀ s ∈ ss, isPlain s = true) (there : present? s v = none)
    (alone : move limit (.one v) s = .ok (.one .null)) :
    gain limit (s :: ss) v = .ok [] := by
  have lost : walk? v (s :: ss) = none := by rw [walk?, there, Option.bind_none]
  have led := moves_null limit plain
  rw [gain, moves_cons, alone, lost]
  change (moves limit (.one .null) ss).map _ = _
  rcases led with led | led
  · rw [led]
    rfl
  · rw [led]
    rfl

/-- From several values the steps lead to what each of them adds, one after the other. -/
theorem moves_many (limit : Nat) {segments : List Segment}
    (plain : ∀ s ∈ segments, isPlain s = true) (vs : List Value) :
    moves limit (.many vs) segments = (vs.flatMapM (gain limit segments)).map .many := by
  induction segments generalizing vs with
  | nil =>
    have all : vs.flatMapM (gain limit []) = .ok (vs.flatMap fun v => [v]) :=
      flatMapM_ok fun _ _ => rfl
    rw [List.flatMap_singleton'] at all
    exact (congrArg (Except.map Reached.many) all).symm
  | cons s ss ih =>
    obtain ⟨first, others⟩ := List.forall_mem_cons.mp plain
    -- one value takes the first step and is then one of several
    have each : ∀ v, gain limit (s :: ss) v =
        (moveOfEach limit s v >>= fun ws => ws.flatMapM (gain limit ss)) := by
      intro v
      cases moved limit first v with
      | present w there several alone =>
        have same : walk? v (s :: ss) = walk? w ss := by rw [walk?, there, Option.bind_some]
        have added :
            (Except.ok [w] >>= fun ws => ws.flatMapM (gain limit ss)) = gain limit ss w := by
          change [w].flatMapM (gain limit ss) = _
          rw [List.flatMapM_cons, List.flatMapM_nil]
          cases gain limit ss w with
          | error e => rfl
          | ok ws => exact congrArg Except.ok (List.append_nil ws)
        rw [several, added, gain, moves_cons, alone, same]
        rfl
      | absent there several alone =>
        rw [several, gain_of_absent limit others there alone]
        rfl
      | spread ws there several alone =>
        rw [several, gain, moves_cons, alone]
        change (moves limit (.many ws) ss).map _ = ws.flatMapM (gain limit ss)
        rw [ih others ws]
        cases ws.flatMapM (gain limit ss) with
        | error e => rfl
        | ok vs => rfl
      | failed there several alone =>
        rw [several, gain, moves_cons, alone]
        rfl
    rw [funext each, ← flatMapM_flatMapM (moveOfEach_fails limit s) (gain_fails limit ss),
      moves_cons, move_many limit first]
    cases vs.flatMapM (moveOfEach limit s) with
    | error e => rfl
    | ok ws => exact ih others ws

/-- Steps from one value lead to the value that is there, to null where some step is not there, or
to several values. -/
theorem moves_one (limit : Nat) {segments : List Segment}
    (plain : ∀ s ∈ segments, isPlain s = true) (v : Value) {r : Reached}
    (led : moves limit (.one v) segments = .ok r) :
    (∃ w, walk? v segments = some w ∧ r = .one w) ∨ (walk? v segments = none ∧ r = .one .null) ∨
      ∃ vs, r = .many vs := by
  induction segments generalizing v with
  | nil =>
    cases led
    exact .inl ⟨v, rfl, rfl⟩
  | cons s ss ih =>
    obtain ⟨first, others⟩ := List.forall_mem_cons.mp plain
    rw [moves_cons] at led
    cases moved limit first v with
    | present w there several alone =>
      rw [alone] at led
      rw [walk?, there, Option.bind_some]
      exact ih others w led
    | absent there several alone =>
      rw [alone] at led
      rw [walk?, there, Option.bind_none]
      rcases moves_null limit others with null | nowhere
      · exact .inr (.inl ⟨rfl, Except.ok.inj (led.symm.trans null)⟩)
      · exact .inr (.inr ⟨[], Except.ok.inj (led.symm.trans nowhere)⟩)
    | spread ws there several alone =>
      rw [alone] at led
      have led' := led.symm.trans (moves_many limit others ws)
      cases added : ws.flatMapM (gain limit ss) with
      | error e =>
        rw [added] at led'
        cases led'
      | ok vs =>
        rw [added] at led'
        exact .inr (.inr ⟨vs, Except.ok.inj led'⟩)
    | failed there several alone =>
      rw [alone] at led
      cases led

theorem contribution_contributes (guide : Guide) {segments : List Segment}
    (plain : ∀ s ∈ segments, isPlain s = true) (v : Value) :
    Contributes guide segments v (contribution guide segments v) := by
  have follows := steps_eq_moves guide plain (.one v)
  rw [contribution_eq_gain guide plain, gain]
  cases led : moves guide.maxDepth (.one v) segments with
  | error e =>
    obtain rfl := moves_fails guide.maxDepth (.one v) segments e led
    exact .failed (follows.trans (congrArg lift led))
  | ok r =>
    rw [led] at follows
    rcases moves_one guide.maxDepth plain v led with ⟨w, there, rfl⟩ | ⟨lost, rfl⟩ | ⟨vs, rfl⟩
    · rw [there]
      exact .present there follows
    · rw [lost]
      exact .absent lost follows
    · exact .several follows

theorem resolve_wildcard_eq_gain (guide : Guide) (xs : List Value) {segments : List Segment}
    (plain : ∀ s ∈ segments, isPlain s = true) :
    resolve guide (.array xs) (.wildcard :: segments) =
      lift ((xs.flatMapM (gain guide.maxDepth segments)).map Value.array) := by
  have plain' : ∀ s ∈ Segment.wildcard :: segments, isPlain s = true :=
    List.forall_mem_cons.mpr ⟨rfl, plain⟩
  have first : move guide.maxDepth (.one (.array xs)) .wildcard = .ok (.many xs) :=
    congrArg (fun ws => Except.ok (Reached.many ws)) (List.append_nil xs)
  rw [resolve_eq_moves guide plain', moves_cons, first]
  change lift ((moves guide.maxDepth (.many xs) segments).map _) = _
  rw [moves_many guide.maxDepth plain]
  cases xs.flatMapM (gain guide.maxDepth segments) with
  | error e => rfl
  | ok vs => rfl

/-- A path fails from one value in one way only, and then the value adds this failure. -/
theorem gain_of_failed {guide : Guide} {x : Value} {segments : List Segment}
    (plain : ∀ s ∈ segments, isPlain s = true) {e : EvalError}
    (failed : resolve guide x segments = throw e) :
    e = tooDeep guide.maxDepth ∧
      gain guide.maxDepth segments x = .error (tooDeep guide.maxDepth) := by
  have led := resolve_eq_moves guide plain x
  rw [failed] at led
  cases gone : moves guide.maxDepth (.one x) segments with
  | ok r =>
    rw [gone] at led
    cases lift_injective led
  | error e' =>
    rw [gone] at led
    cases lift_injective led
    obtain rfl := moves_fails guide.maxDepth (.one x) segments e gone
    rw [gain, gone]
    exact ⟨rfl, rfl⟩

/-- After a wildcard each value is followed as it would be alone. The result is the array of what
each of them adds, in order, and it fails when one of them fails. -/
theorem resolve_wildcard (guide : Guide) (xs : List Value) {segments : List Segment}
    (plain : ∀ s ∈ segments, isPlain s = true) :
    resolve guide (.array xs) (.wildcard :: segments) =
        (do return .array (← xs.flatMapM (contribution guide segments))) ∧
      (∀ x, Contributes guide segments x (contribution guide segments x)) ∧
      ∀ x ∈ xs, ∀ e, resolve guide x segments = throw e →
        resolve guide (.array xs) (.wildcard :: segments) = throw e := by
  have all := resolve_wildcard_eq_gain guide xs plain
  refine ⟨?_, contribution_contributes guide plain, ?_⟩
  · rw [all, funext (contribution_eq_gain guide plain), lift_flatMapM]
    cases xs.flatMapM (gain guide.maxDepth segments) with
    | error e => rfl
    | ok vs => rfl
  · intro x isIn e failed
    obtain ⟨rfl, added⟩ := gain_of_failed plain failed
    rw [all, flatMapM_failed (gain_fails guide.maxDepth segments) isIn added]
    rfl

/-- A null under a name counts, a missing name does not, and under an array the name is looked for
in the items. -/
theorem names_after_wildcard :
    (∀ s ∈ [Segment.field "a"], isPlain s = true) ∧
      resolve ⟨fun _ _ => pure true, fun _ => pure .null, 4⟩
          (.array [.object [("a", .null)], .object [], .array [.object [("a", .bool true)]]])
          [.wildcard, .field "a"] =
        pure (.array [.null, .bool true]) :=
  ⟨by simp [isPlain], (resolve_wildcard _ _ (by simp [isPlain])).1.trans rfl⟩

end DocExpr.Path
