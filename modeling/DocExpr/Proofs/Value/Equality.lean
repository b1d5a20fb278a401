import DocExpr.Proofs.Value.Structure
import Mathlib.Data.List.Perm.Subperm

/-! Strict equality is symmetric and transitive, and only what is no number keeps a value from
equalling itself. Scalars are equal if they have the same comparand. Objects are compared by their
size and by looking up the keys of the first one; because its keys are distinct, the second one has
no others. Loose equality is symmetric and holds wherever strict equality does. -/
namespace DocExpr.Value
open Float.Model (UnpackedFloat)

/-- What strict equality looks at in a scalar. -/
inductive Comparand where
  | null
  | bool (b : Bool)
  | number (x : UnpackedFloat)
  | string (s : String)
  | instant (t : Calendar.Instant)
  | regex (pattern flags : String)
  | function (birth : Birth)

def comparand : Value → Option Comparand
  | .null => some .null
  | .bool b => some (.bool b)
  | .number x => (Number.comparand x).map .number
  | .string s => some (.string s)
  | .date d => some (.instant d.instant)
  | .regex pattern flags => some (.regex pattern flags)
  | .lambda f => some (.function f.birth)
  | .array _ | .object _ => none

theorem strictEq_scalar_iff {a b : Value} (scalar : a.isContainer = false) :
    a.strictEq b = true ↔ a.comparand.isSome ∧ a.comparand = b.comparand := by
  cases a with
  | array | object => cases scalar
  | number x =>
    cases b with
    | number y =>
      rw [strictEq, Number.beq_iff, comparand, comparand, Option.isSome_map]
      have injective : Function.Injective Comparand.number := fun _ _ => Comparand.number.inj
      rw [(Option.map_injective injective).eq_iff]
    | _ => cases found : Number.comparand x <;> simp [strictEq, comparand, found]
  | _ =>
    cases b with
    | number y => cases found : Number.comparand y <;> simp [strictEq, comparand, found]
    | _ => simp [strictEq, comparand]

theorem scalar_of_comparand {a : Value} (found : a.comparand.isSome) : a.isContainer = false := by
  cases a with
  | array | object => cases found
  | _ => rfl

theorem strictEqItems_iff {vs ws : List Value} :
    strictEqItems vs ws = true ↔ vs.length = ws.length ∧
      ∀ (i : Nat) v w, vs[i]? = some v → ws[i]? = some w → v.strictEq w = true := by
  constructor
  · intro equal
    induction vs generalizing ws with
    | nil =>
      cases ws with
      | nil => simp
      | cons w ws => cases equal
    | cons v vs ih =>
      cases ws with
      | nil => cases equal
      | cons w ws =>
        rw [strictEqItems, Bool.and_eq_true] at equal
        obtain ⟨length, each⟩ := ih equal.2
        refine ⟨congrArg Nat.succ length, fun i x y left right => ?_⟩
        cases i with
        | zero =>
          cases left
          cases right
          exact equal.1
        | succ i => exact each i x y left right
  · rintro ⟨length, each⟩
    exact strictEqItems_of_each length each

theorem strictEq_object_iff {es fs : List (String × Value)} :
    (Value.object es).strictEq (.object fs) = true ↔ es.length = fs.length ∧
      ∀ e ∈ es, ∃ w, Entries.find? fs e.1 = some w ∧ e.2.strictEq w = true := by
  rw [strictEq, Bool.and_eq_true, beq_iff_eq]
  refine and_congr_right fun _ => ⟨fun equal => ?_, strictEqEntries_of_each⟩
  clear * - equal
  induction es with
  | nil => simp
  | cons e es ih =>
    rw [strictEqEntries, Bool.and_eq_true] at equal
    refine List.forall_mem_cons.mpr ⟨?_, ih equal.2⟩
    cases found : Entries.find? fs e.1 with
    | none => simp [found] at equal
    | some w =>
      rw [found] at equal
      exact ⟨w, rfl, equal.1⟩

/-- Where each of some distinct keys occurs among as many keys, there are no others. -/
theorem keys_perm {es fs : List (String × Value)} (distinct : (Entries.keys es).Nodup)
    (length : es.length = fs.length) (each : ∀ e ∈ es, e.1 ∈ Entries.keys fs) :
    (Entries.keys es).Perm (Entries.keys fs) := by
  have subset : Entries.keys es ⊆ Entries.keys fs := by
    intro key there
    obtain ⟨e, isIn, rfl⟩ := List.mem_map.mp there
    exact each e isIn
  apply (distinct.subperm subset).perm_of_length_le
  simp [Entries.keys, length]

theorem strictEq_symm {a b : Value} (distinct : a.DistinctKeys) (equal : a.strictEq b = true) :
    b.strictEq a = true := by
  induction a using part_induction generalizing b with
  | step a ih =>
    by_cases scalar : a.isContainer = false
    · obtain ⟨number, same⟩ := (strictEq_scalar_iff scalar).mp equal
      have number' : b.comparand.isSome := same ▸ number
      exact (strictEq_scalar_iff (scalar_of_comparand number')).mpr ⟨number', same.symm⟩
    · cases a with
      | array vs =>
        cases b with
        | array ws =>
          obtain ⟨length, each⟩ := strictEqItems_iff.mp equal
          refine strictEqItems_iff.mpr ⟨length.symm, fun i w v right left => ?_⟩
          have isPart : v ∈ (Value.array vs).parts := List.mem_of_getElem? left
          exact ih v isPart (distinct.part isPart) (each i v w left right)
        | _ => cases equal
      | object es =>
        cases b with
        | object fs =>
          have distinct' := distinct es .whole
          obtain ⟨length, each⟩ := strictEq_object_iff.mp equal
          have perm : (Entries.keys es).Perm (Entries.keys fs) := by
            refine keys_perm distinct' length fun e isIn => ?_
            obtain ⟨w, found, -⟩ := each e isIn
            exact Entries.has_eq_true_iff.mp (Option.isSome_of_mem found)
          refine strictEq_object_iff.mpr ⟨length.symm, fun f isIn => ?_⟩
          -- the key of `f` stands in `es` too, and from there it leads back to `f`
          have there : f.1 ∈ Entries.keys es := perm.mem_iff.mpr (List.mem_map.mpr ⟨f, isIn, rfl⟩)
          obtain ⟨⟨key, v⟩, isIn', rfl⟩ := List.mem_map.mp there
          obtain ⟨w, found, equal⟩ := each _ isIn'
          have again : Entries.find? fs f.1 = some f.2 :=
            Entries.find?_of_mem (perm.nodup_iff.mp distinct') isIn
          cases Option.some.inj (found.symm.trans again)
          have isPart := mem_parts_of_entry isIn'
          exact ⟨v, Entries.find?_of_mem distinct' isIn', ih v isPart (distinct.part isPart) equal⟩
        | _ => cases equal
      | _ => exact absurd rfl scalar

theorem strictEq_trans {a b c : Value} (first : a.strictEq b = true)
    (second : b.strictEq c = true) : a.strictEq c = true := by
  induction a using part_induction generalizing b c with
  | step a ih =>
    by_cases scalar : a.isContainer = false
    · obtain ⟨number, same⟩ := (strictEq_scalar_iff scalar).mp first
      have scalar' := scalar_of_comparand (same ▸ number)
      obtain ⟨-, same'⟩ := (strictEq_scalar_iff scalar').mp second
      exact (strictEq_scalar_iff scalar).mpr ⟨number, same.trans same'⟩
    · cases a with
      | array us =>
        cases b with
        | array vs =>
          cases c with
          | array ws =>
            obtain ⟨length, each⟩ := strictEqItems_iff.mp first
            obtain ⟨length', each'⟩ := strictEqItems_iff.mp second
            refine strictEqItems_iff.mpr ⟨length.trans length', fun i u w left right => ?_⟩
            have short : i < vs.length := length ▸ (List.getElem?_eq_some_iff.mp left).1
            have middle : vs[i]? = some vs[i] := List.getElem?_eq_getElem short
            exact ih u (List.mem_of_getElem? left) (each i _ _ left middle)
              (each' i _ _ middle right)
          | _ => cases second
        | _ => cases first
      | object es =>
        cases b with
        | object fs =>
          cases c with
          | object gs =>
            obtain ⟨length, each⟩ := strictEq_object_iff.mp first
            obtain ⟨length', each'⟩ := strictEq_object_iff.mp second
            refine strictEq_object_iff.mpr ⟨length.trans length', fun e isIn => ?_⟩
            obtain ⟨v, found, equal⟩ := each e isIn
            obtain ⟨w, found', equal'⟩ := each' _ (Entries.mem_of_find? found)
            exact ⟨w, found', ih e.2 (mem_parts_of_entry isIn) equal equal'⟩
          | _ => cases second
        | _ => cases first
      | _ => exact absurd rfl scalar

/-- No part of the value is not a number. -/
def NoNaN (v : Value) : Prop := ∀ x, Inside parts v (.number x) → x.isNaN = false

theorem noNaN_iff_parts {v : Value} (container : v.isContainer = true) :
    v.NoNaN ↔ ∀ part ∈ v.parts, part.NoNaN := by
  constructor
  · exact fun whole part isPart x inside => whole x (.of_part isPart inside)
  · intro each x inside
    rcases inside.cases_part with rfl | ⟨part, isPart, inside⟩
    · cases container
    · exact each part isPart x inside

theorem noNaN_scalar_iff {v : Value} (scalar : v.isContainer = false) :
    v.NoNaN ↔ v.comparand.isSome := by
  have alone {x : Float} (inside : Inside parts v (.number x)) : .number x = v := by
    rcases inside.cases_part with same | ⟨part, isPart, -⟩
    · exact same
    · cases v with
      | array | object => cases scalar
      | _ => cases isPart
  cases v with
  | array | object => cases scalar
  | number x =>
    rw [comparand, Option.isSome_map, ← Option.not_isNone, ← Number.isNaN_eq, Bool.not_eq_true']
    constructor
    · exact fun whole => whole x .whole
    · intro number y inside
      cases alone inside
      exact number
  | _ =>
    refine iff_of_true (fun x inside => ?_) rfl
    cases alone inside

theorem strictEq_self_iff {a : Value} (distinct : a.DistinctKeys) :
    a.strictEq a = true ↔ a.NoNaN := by
  induction a using part_induction with
  | step a ih =>
    by_cases scalar : a.isContainer = false
    · rw [strictEq_scalar_iff scalar, noNaN_scalar_iff scalar]
      simp only [and_true]
    · have parts_iff : a.strictEq a = true ↔ ∀ part ∈ a.parts, part.strictEq part = true := by
        cases a with
        | array vs =>
          rw [strictEq, strictEqItems_iff]
          constructor
          · intro equal v isPart
            obtain ⟨i, there⟩ := List.mem_iff_getElem?.mp isPart
            exact equal.2 i v v there there
          · intro each
            refine ⟨rfl, fun i v w left right => ?_⟩
            cases Option.some.inj (left.symm.trans right)
            exact each v (List.mem_of_getElem? left)
        | object es =>
          have distinct' := distinct es .whole
          rw [strictEq_object_iff]
          constructor
          · intro equal v isPart
            obtain ⟨e, isIn, rfl⟩ := List.mem_map.mp isPart
            obtain ⟨w, found, same⟩ := equal.2 e isIn
            cases Option.some.inj (found.symm.trans (Entries.find?_of_mem distinct' isIn))
            exact same
          · intro each
            refine ⟨rfl, fun e isIn => ⟨e.2, ?_, each e.2 (mem_parts_of_entry isIn)⟩⟩
            exact Entries.find?_of_mem distinct' isIn
        | _ => exact absurd rfl scalar
      rw [parts_iff, noNaN_iff_parts (by simpa using scalar)]
      exact forall₂_congr fun part isPart => ih part isPart (distinct.part isPart)

theorem strictEq_comm {a b : Value} (distinct : a.DistinctKeys) (distinct' : b.DistinctKeys) :
    a.strictEq b = b.strictEq a :=
  Bool.eq_iff_iff.mpr ⟨strictEq_symm distinct, strictEq_symm distinct'⟩

theorem looseEq_comm {a b : Value} (distinct : a.DistinctKeys) (distinct' : b.DistinctKeys) :
    a.looseEq b = b.looseEq a := by
  have strict := strictEq_comm distinct distinct'
  cases a <;> cases b <;> simp only [looseEq]
  all_goals
    first
      | exact Number.beq_comm _ _
      | exact strict

theorem looseEq_of_strictEq {a b : Value} (equal : a.strictEq b = true) : a.looseEq b = true := by
  cases a <;> cases b
  case null.null => rfl
  all_goals
    first
      | cases equal
      | exact equal

/-- Both equalities are symmetric and the strict one is transitive. It holds of a value and itself
unless a part is no number, and it implies the loose one. -/
theorem equality_laws {a b : Value} (distinct : a.DistinctKeys) (distinct' : b.DistinctKeys)
    (c : Value) :
    a.strictEq b = b.strictEq a ∧
      (a.strictEq b = true → b.strictEq c = true → a.strictEq c = true) ∧
      (a.strictEq a = true ↔ ∀ x, Inside parts a (.number x) → x.isNaN = false) ∧
      a.looseEq b = b.looseEq a ∧ (a.strictEq b = true → a.looseEq b = true) :=
  ⟨strictEq_comm distinct distinct', strictEq_trans, strictEq_self_iff distinct,
    looseEq_comm distinct distinct', looseEq_of_strictEq⟩

theorem distinctKeys_of_scalars {entries : List (String × Value)}
    (distinct : (Entries.keys entries).Nodup)
    (scalars : ∀ e ∈ entries, e.2.isContainer = false) : (Value.object entries).DistinctKeys := by
  intro entries' inside
  rcases inside.cases_part with same | ⟨part, isPart, inside⟩
  · cases same
    exact distinct
  · obtain ⟨e, isIn, rfl⟩ := List.mem_map.mp isPart
    rcases inside.cases_part with same | ⟨inner, isInner, -⟩
    · have scalar := scalars e isIn
      rw [← same] at scalar
      cases scalar
    · have scalar := scalars e isIn
      cases kind : e.2 with
      | array | object => simp [kind, isContainer] at scalar
      | _ => simp [kind, parts] at isInner

def plusZero : Value := .object [("zero", .number 0.0), ("text", .string "0")]

def minusZero : Value := .object [("text", .string "0"), ("zero", .number (-0.0))]

/-- Neither the order of the keys nor the sign of zero is seen. -/
theorem zeros_equal :
    plusZero.DistinctKeys ∧ minusZero.DistinctKeys ∧ plusZero.strictEq minusZero = true ∧
      minusZero.strictEq plusZero = true ∧ plusZero.strictEq plusZero = true ∧
      minusZero.looseEq plusZero = true := by
  have distinct : plusZero.DistinctKeys := distinctKeys_of_scalars (by decide) (by decide)
  have distinct' : minusZero.DistinctKeys := distinctKeys_of_scalars (by decide) (by decide)
  obtain ⟨comm, trans, -, loose, weaker⟩ := equality_laws distinct distinct' plusZero
  have equal : plusZero.strictEq minusZero = true := by decide
  have back : minusZero.strictEq plusZero = true := comm ▸ equal
  exact ⟨distinct, distinct', equal, back, trans equal back, loose ▸ weaker equal⟩

end DocExpr.Value
