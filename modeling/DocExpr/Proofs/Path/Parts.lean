import DocExpr.Proofs.Evaluation.Frame
import DocExpr.Proofs.Lexer.Mark
import DocExpr.Proofs.Value.Structure

/-! Where a path can lead: to null, to a length, or to what stands in the value it starts from. So
what goes from a value to its parts goes along every path, whatever its filters and computed keys
are. -/
namespace DocExpr
open DocExpr.Expr (Node Segment)
open EvalM (Always)

/-- A property of null and of all lengths that each part of a value takes over from it. -/
structure Value.Inherited (P : Value → Prop) : Prop where
  null : P .null
  length : ∀ n : Nat, P (.ofNat n)
  part : ∀ {v part : Value}, P v → part ∈ v.parts → P part

namespace Path

theorem find?_mem_parts {entries : Entries Value} {key : String} {w : Value}
    (found : entries.find? key = some w) : w ∈ (Value.object entries).parts :=
  Value.mem_parts_of_entry (Entries.mem_of_find? found)

theorem get?_mem_parts {name : String} {v w : Value} (found : v.get? name = some w) :
    w ∈ v.parts := by
  cases v with
  | object entries => exact find?_mem_parts found
  | _ => cases found

theorem element?_mem_parts {i : Int} {v w : Value} (found : element? i v = some w) :
    w ∈ v.parts := by
  cases v with
  | array items =>
    simp only [element?] at found
    split at found
    · cases found
    · exact List.mem_of_getElem? found
  | object entries => exact find?_mem_parts found
  | _ => cases found

theorem exactStep?_mem_parts {s : Segment} {v w : Value} (found : exactStep? v s = some w) :
    w ∈ v.parts := by
  cases s with
  | field name =>
    cases v with
    | object entries => exact find?_mem_parts found
    | array items =>
      obtain ⟨i, -, found⟩ := Option.bind_eq_some_iff.mp found
      exact List.mem_of_getElem? found
    | _ => cases found
  | index i => exact element?_mem_parts found
  | _ => cases found

theorem children_eq_parts (v : Value) : children v = v.parts := by
  cases v <;> rfl

theorem candidates_one (v : Value) : candidates (.one v) = v.parts := children_eq_parts v

section
variable {P : Value → Prop}

/-- All values that a path is at have the property. -/
def Reached.All (P : Value → Prop) (at_ : Reached) : Prop := ∀ v ∈ at_.values, P v

theorem Reached.All.one {v : Value} (holds : P v) : All P (.one v) :=
  List.forall_mem_singleton.mpr holds

theorem Reached.All.nowhere (null : P .null) (at_ : Reached) : All P (dynamic.nowhere at_) := by
  cases at_ with
  | one v => exact .one null
  | many vs => exact fun _ isIn => absurd isIn List.not_mem_nil

variable (inherited : Value.Inherited P)
include inherited

theorem length?_inherited {v n : Value} (found : length? v = some n) : P n := by
  cases v with
  | string | array =>
    cases found
    exact inherited.length _
  | _ => cases found

theorem option_inherited {found : Option Value} (each : ∀ w, found = some w → P w) :
    P (found.getD .null) := by
  cases found with
  | none => exact inherited.null
  | some w => exact each w rfl

theorem fieldsOf_inherited (name : String) {items : List Value} (all : ∀ v ∈ items, P v) :
    ∀ w ∈ fieldsOf name items, P w := by
  intro w isIn
  obtain ⟨v, isIn, found⟩ := List.mem_filterMap.mp isIn
  exact inherited.part (all v isIn) (get?_mem_parts found)

theorem fieldOfOne_inherited (name : String) {v : Value} (holds : P v) :
    (fieldOfOne name v).All P := by
  unfold fieldOfOne
  split
  next n found =>
    split at found
    · exact .one (length?_inherited inherited found)
    · cases found
  next =>
    split
    · exact .one (option_inherited inherited fun w found =>
        inherited.part holds (get?_mem_parts found))
    · exact fieldsOf_inherited inherited name fun w isIn => inherited.part holds isIn
    · exact .one inherited.null

theorem fieldOfEach_inherited (name : String) {v : Value} (holds : P v) :
    ∀ w ∈ fieldOfEach name v, P w := by
  have length : ∀ w ∈ (length? v).toList, P w := fun w isIn =>
    length?_inherited inherited (Option.mem_toList.mp isIn)
  intro w isIn
  unfold fieldOfEach at isIn
  split at isIn
  · exact inherited.part holds (get?_mem_parts (Option.mem_toList.mp isIn))
  · split at isIn
    · exact length w isIn
    · exact fieldsOf_inherited inherited name (fun v isPart => inherited.part holds isPart) w isIn
  · split at isIn
    · exact length w isIn
    · cases isIn

variable {at_ : Reached} (all : at_.All P)
include all

theorem field_inherited (name : String) : (field name at_).All P := by
  cases at_ with
  | one v => exact fieldOfOne_inherited inherited name (all v List.mem_cons_self)
  | many vs =>
    intro w isIn
    obtain ⟨v, isIn, found⟩ := List.mem_flatMap.mp isIn
    exact fieldOfEach_inherited inherited name (all v isIn) w found

theorem index_inherited (i : Int) : (index i at_).All P := by
  cases at_ with
  | one v =>
    exact .one (option_inherited inherited fun w found =>
      inherited.part (all v List.mem_cons_self) (element?_mem_parts found))
  | many vs =>
    intro w isIn
    obtain ⟨v, isIn, found⟩ := List.mem_filterMap.mp isIn
    exact inherited.part (all v isIn) (element?_mem_parts found)

theorem wildcard_inherited : (wildcard at_).All P := by
  intro w isIn
  obtain ⟨v, isIn, found⟩ := List.mem_flatMap.mp isIn
  rw [children_eq_parts] at found
  exact inherited.part (all v isIn) found

theorem candidates_inherited : ∀ w ∈ candidates at_, P w := by
  cases at_ with
  | one v =>
    rw [candidates_one]
    exact fun w isPart => inherited.part (all v List.mem_cons_self) isPart
  | many vs =>
    intro w isIn
    obtain ⟨v, isIn, found⟩ := List.mem_flatMap.mp isIn
    split at found
    · exact inherited.part (all _ isIn) found
    · rw [List.mem_singleton.mp found]
      exact all v isIn

theorem dynamic_inherited (key : Value) : (dynamic key at_).All P := by
  unfold dynamic
  split
  · exact field_inherited inherited all _
  · split
    · exact index_inherited inherited all _
    · exact .nowhere inherited.null at_
  · exact .nowhere inherited.null at_

end

section
variable {P : Value → Prop} {name : String} {limit : Nat}

mutual

theorem descend_inherited (inherited : Value.Inherited P) (depth : Nat) {v : Value} (holds : P v)
    {ws : List Value} (found : descend name limit depth v = .ok ws) : ∀ w ∈ ws, P w := by
  unfold descend at found
  split at found
  · cases found
  · split at found
    next entries =>
      have parts := fun part (isPart : part ∈ entries.map (·.2)) => inherited.part holds isPart
      obtain ⟨below, searched, found⟩ := Expr.ok_of_bind found
      cases found
      refine List.forall_mem_append.mpr ⟨fun w isIn => ?_, ?_⟩
      · exact parts w (find?_mem_parts (Option.mem_toList.mp isIn))
      · exact descendEntries_inherited inherited (depth + 1) parts searched
    next items =>
      have parts := fun part (isPart : part ∈ items) => inherited.part holds isPart
      exact descendItems_inherited inherited (depth + 1) parts found
    next =>
      cases found
      exact fun w isIn => absurd isIn List.not_mem_nil

theorem descendItems_inherited (inherited : Value.Inherited P) (depth : Nat) {vs : List Value}
    (all : ∀ v ∈ vs, P v) {ws : List Value}
    (found : descendItems name limit depth vs = .ok ws) : ∀ w ∈ ws, P w := by
  cases vs with
  | nil =>
    cases found
    exact fun w isIn => absurd isIn List.not_mem_nil
  | cons v vs =>
    obtain ⟨first, others⟩ := List.forall_mem_cons.mp all
    obtain ⟨here, found₁, found⟩ := Expr.ok_of_bind found
    obtain ⟨there, found₂, found⟩ := Expr.ok_of_bind found
    cases found
    exact List.forall_mem_append.mpr
      ⟨descend_inherited inherited depth first found₁,
        descendItems_inherited inherited depth others found₂⟩

theorem descendEntries_inherited (inherited : Value.Inherited P) (depth : Nat)
    {es : List (String × Value)} (all : ∀ v ∈ es.map (·.2), P v) {ws : List Value}
    (found : descendEntries name limit depth es = .ok ws) : ∀ w ∈ ws, P w := by
  match es with
  | [] =>
    cases found
    exact fun w isIn => absurd isIn List.not_mem_nil
  | (k, v) :: es =>
    obtain ⟨first, others⟩ := List.forall_mem_cons.mp all
    obtain ⟨here, found₁, found⟩ := Expr.ok_of_bind found
    obtain ⟨there, found₂, found⟩ := Expr.ok_of_bind found
    cases found
    exact List.forall_mem_append.mpr
      ⟨descend_inherited inherited depth first found₁,
        descendEntries_inherited inherited depth others found₂⟩

end

theorem descent_inherited (inherited : Value.Inherited P) {at_ r : Reached} (all : at_.All P)
    (found : descent name limit at_ = .ok r) : r.All P := by
  obtain ⟨ws, searched, rfl⟩ := Expr.ok_of_map found
  exact descendItems_inherited inherited 0 all searched

end

theorem keep_mem (test : Value → EvalM Bool) (vs : List Value) :
    (keep test vs).Always fun ws => ∀ w ∈ ws, w ∈ vs := by
  induction vs with
  | nil => exact .pure fun w isIn => isIn
  | cons v vs ih =>
    refine .last fun passes => Always.bind ih fun rest among => .pure fun w isIn => ?_
    cases passes with
    | true => exact List.mem_cons.mpr ((List.mem_cons.mp isIn).imp id (among w))
    | false => exact List.mem_cons_of_mem v (among w isIn)

section
variable {P : Value → Prop} (inherited : Value.Inherited P) (guide : Guide)
include inherited

theorem step_inherited {at_ : Reached} (all : at_.All P) (s : Segment) :
    (step guide at_ s).Always (Reached.All P) := by
  cases s with
  | field name => exact .pure (field_inherited inherited all name)
  | index i => exact .pure (index_inherited inherited all i)
  | wildcard => exact .pure (wildcard_inherited inherited all)
  | descent name => exact .lift fun r found => descent_inherited inherited all found
  | filter predicate =>
    refine Always.bind (keep_mem _ _) fun kept among => .pure fun w isIn => ?_
    exact candidates_inherited inherited all w (among w isIn)
  | dynamic key => exact .last fun k => .pure (dynamic_inherited inherited all k)

theorem steps_inherited {at_ : Reached} (all : at_.All P) (segments : List Segment) :
    (steps guide at_ segments).Always (Reached.All P) := by
  induction segments generalizing at_ with
  | nil => exact .pure all
  | cons s ss ih => exact Always.bind (step_inherited inherited guide all s) fun r all => ih all

/-- Wherever a path leads, the value is one with the property or an array of such values. -/
theorem resolve_inherited {start : Value} (holds : P start) (segments : List Segment) :
    (resolve guide start segments).Always fun v => P v ∨ ∃ ws, v = .array ws ∧ ∀ w ∈ ws, P w := by
  refine Always.bind (steps_inherited inherited guide (.one holds) segments) fun r all => ?_
  cases r with
  | one v => exact .pure (.inl (all v List.mem_cons_self))
  | many vs => exact .pure (.inr ⟨vs, rfl, all⟩)

theorem lookupExact?_inherited {v w : Value} (holds : P v) {segments : List Segment}
    (found : lookupExact? v segments = some w) : P w := by
  induction segments generalizing v with
  | nil =>
    cases found
    exact holds
  | cons s ss ih =>
    simp only [lookupExact?] at found
    split at found
    next u step => exact ih (inherited.part holds (exactStep?_mem_parts step)) found
    next => cases found

end
end Path

namespace Eval

theorem resolvePath_inherited {P : Value → Prop} (inherited : Value.Inherited P) (eval : Eval)
    {v : Value} (holds : P v) (path : String) :
    (eval.resolvePath v path).Always fun w => P w ∨ ∃ ws, w = .array ws ∧ ∀ w ∈ ws, P w := by
  refine .last fun ev => .last fun node => ?_
  split
  · exact .last fun ev => Path.resolve_inherited inherited _ holds _
  · exact .pure (.inl holds)

end Eval
end DocExpr
