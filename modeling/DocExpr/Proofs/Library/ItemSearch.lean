import DocExpr.Library.Dispatch
import DocExpr.Proofs.Number.Sign
import DocExpr.Proofs.Value.WholePart
import Mathlib.Order.Bounds.Basic

/-! Searching the items of an array from a position on, forward or backward. The position is any
integer, or beyond all of them; a negative one counts from the end. The functions hold it between
the two ends of the array, each in its own way, but as far as the items go they start where the
integer says. The backward search reads some numbers otherwise than the forward ones. -/
namespace DocExpr.Library
open Number (Extended HeldAs integer)

/-- Where a forward search starts: at `n`, or that far before the end, but not before the first
item. -/
def forwardStart (n : Extended) (length : Nat) : Extended :=
  match n with
  | .below => .whole 0
  | .whole i => .whole (if 0 ≤ i then i else max (length + i) 0)
  | .above => .above

/-- Where a backward search starts: at `n`, but not behind the last item, or that far before the
end. -/
def backwardStart (n : Extended) (length : Nat) : Extended :=
  match n with
  | .below => .below
  | .whole i => .whole (if 0 ≤ i then min i (length - 1) else length + i)
  | .above => .whole (length - 1)

/-- A relative index lies before the same items as the start. -/
theorem relativeIndex_le_iff (x : Float) {i length : Nat} (inside : i < length) :
    Number.relativeIndex x length ≤ i ↔ (forwardStart (integer x) length).AtMost i := by
  have number := Number.heldAs_integer x
  generalize integer x = n at number ⊢
  unfold Number.relativeIndex
  cases number with
  | below negative held =>
    rw [held, forwardStart, Extended.AtMost]
    dsimp only
    split <;> omega
  | above notLess held =>
    rw [held, forwardStart]
    refine iff_of_false ?_ id
    dsimp only
    split <;> omega
  | between nonpos nonneg held =>
    rw [held _ _ (by omega) (by omega), forwardStart, Extended.AtMost]
    dsimp only
    split <;> split <;> omega

/-- The backward search takes it for the end: what is no number, and what is negative by its
fraction alone. -/
def Misplaced (x : Float) : Prop := x.isNaN = true ∨ x < 0.0 ∧ integer x = .whole 0

/-- The items up to the last start are those up to the start. -/
theorem lt_lastStart_iff {v : Value} (placed : ¬ Misplaced v.toNumber) (needle : Value)
    {i length : Nat} (inside : i < length) :
    i < (lastStart length [needle, v] + 1).toNat ↔
      (backwardStart (integer v.toNumber) length).AtLeast i := by
  have number := Number.heldAs_integer v.toNumber
  have isNumber : ¬ v.toNumber.isNaN = true := fun none => placed (.inl none)
  have whole : v.toNumber < 0.0 → integer v.toNumber ≠ .whole 0 :=
    fun less zero => placed (.inr ⟨less, zero⟩)
  unfold lastStart
  simp only [List.getElem?_cons_succ, List.getElem?_cons_zero, if_neg isNumber]
  generalize integer v.toNumber = n at number whole ⊢
  cases number with
  | below negative held =>
    rw [if_pos negative, held, backwardStart]
    refine iff_of_false ?_ id
    omega
  | above notLess held =>
    rw [if_neg notLess, held, backwardStart, Extended.AtLeast]
    omega
  | @between w nonpos nonneg held =>
    rw [backwardStart, Extended.AtLeast]
    by_cases less : v.toNumber < 0.0
    · have some : w ≠ 0 := fun zero => whole less (congrArg Extended.whole zero)
      have down := nonpos less
      rw [if_pos less, held _ _ (by omega) (by omega), if_neg (by omega)]
      omega
    · have up := nonneg less
      rw [if_neg less, held _ _ (by omega) (by omega), if_pos up]
      omega

/-- Where the position is misplaced, all items are looked at. -/
theorem lt_lastStart_of_misplaced {v : Value} (misplaced : Misplaced v.toNumber) (needle : Value)
    {i length : Nat} (inside : i < length) :
    i < (lastStart length [needle, v] + 1).toNat := by
  unfold lastStart
  simp only [List.getElem?_cons_succ, List.getElem?_cons_zero]
  rcases misplaced with none | ⟨less, zero⟩
  · rw [if_neg (unordered (.inl none)).1, if_pos none]
    omega
  · have number := Number.heldAs_integer v.toNumber
    rw [zero] at number
    cases number with
    | between nonpos nonneg held =>
      rw [if_pos less, held _ _ (by omega) (by omega)]
      omega

/-- An item that equals the needle stands at the position. -/
def StandsAt (items : List Value) (needle : Value) (i : Nat) : Prop :=
  ∃ v, items[i]? = some v ∧ v.strictEq needle = true

section
variable {items : List Value} {needle : Value}

theorem StandsAt.inside {i : Nat} (stands : StandsAt items needle i) : i < items.length := by
  obtain ⟨v, found, -⟩ := stands
  exact (List.getElem?_eq_some_iff.mp found).1

theorem standsAt_iff_any {i : Nat} :
    StandsAt items needle i ↔ (items[i]?).any (·.strictEq needle) = true := by
  rw [Option.any_eq_true]
  rfl

theorem standsAt_drop_iff {start k : Nat} (short : k < (items.drop start).length) :
    StandsAt items needle (start + k) ↔ (items.drop start)[k].strictEq needle = true := by
  rw [standsAt_iff_any, ← List.getElem?_drop, List.getElem?_eq_getElem short]
  rfl

theorem itemPosition?_some {start i : Nat} (found : itemPosition? items needle start = some i) :
    IsLeast {i | start ≤ i ∧ StandsAt items needle i} i := by
  obtain ⟨k, hit, rfl⟩ := Option.map_eq_some_iff.mp found
  obtain ⟨short, equal, first⟩ := List.findIdx?_eq_some_iff_getElem.mp hit
  refine ⟨⟨Nat.le_add_right start k, (standsAt_drop_iff short).mpr equal⟩, ?_⟩
  rintro j ⟨behind, stands⟩
  by_contra before
  obtain ⟨l, rfl⟩ := Nat.exists_eq_add_of_le behind
  exact first l (by omega) ((standsAt_drop_iff (by omega)).mp stands)

theorem itemPosition?_none {start : Nat} (none : itemPosition? items needle start = none) :
    {i | start ≤ i ∧ StandsAt items needle i} = ∅ := by
  have apart := List.findIdx?_eq_none_iff.mp (Option.map_eq_none_iff.mp none)
  refine Set.eq_empty_of_forall_notMem fun i isIn => ?_
  obtain ⟨behind, stands⟩ := isIn
  obtain ⟨k, rfl⟩ := Nat.exists_eq_add_of_le behind
  have short : k < (items.drop start).length := by
    rw [List.length_drop]
    have := stands.inside
    omega
  have other := apart _ (List.getElem_mem short)
  rw [(standsAt_drop_iff short).mp stands] at other
  cases other

/-- Without an equal item at the last position the search goes on in front of it. -/
theorem positions_succ {count : Nat} (other : ¬ StandsAt items needle count) :
    {i | i < count + 1 ∧ StandsAt items needle i} = {i | i < count ∧ StandsAt items needle i} := by
  ext i
  refine and_congr_left fun stands => ?_
  have apart : i ≠ count := by
    rintro rfl
    exact other stands
  omega

theorem lastPosition?_some {count i : Nat} (found : lastPosition? items needle count = some i) :
    IsGreatest {i | i < count ∧ StandsAt items needle i} i := by
  induction count with
  | zero => cases found
  | succ count ih =>
    unfold lastPosition? at found
    split at found
    next here =>
      cases found
      exact ⟨⟨Nat.lt_succ_self i, standsAt_iff_any.mpr here⟩,
        fun j before => Nat.le_of_lt_succ before.1⟩
    next notHere =>
      rw [positions_succ (mt standsAt_iff_any.mp notHere)]
      exact ih found

theorem lastPosition?_none {count : Nat} (none : lastPosition? items needle count = none) :
    {i | i < count ∧ StandsAt items needle i} = ∅ := by
  induction count with
  | zero => exact Set.eq_empty_of_forall_notMem fun i isIn => Nat.not_lt_zero i isIn.1
  | succ count ih =>
    unfold lastPosition? at none
    split at none
    next => cases none
    next notHere =>
      rw [positions_succ (mt standsAt_iff_any.mp notHere)]
      exact ih none

end

/-- The answer of a search is the best one of the positions, and minus one if there are none. -/
structure Answers (best : Set Nat → Nat → Prop) (positions : Set Nat) (v : Value) : Prop where
  found : positions.Nonempty → ∃ i, best positions i ∧ v = .ofNat i
  minusOne : v = .number (-1.0) ↔ positions = ∅

theorem ofNat_ne_minusOne (n : Nat) : Value.ofNat n ≠ .number (-1.0) := by
  intro same
  have unsigned : Number.signBit (Float.ofNat n) = false := Number.signBit_ofScientific n false 0
  rw [Value.ofNat, Value.number.injEq] at same
  rw [same] at unsigned
  exact absurd unsigned (by decide)

theorem answers_of_position {best : Set Nat → Nat → Prop} {positions : Set Nat} {r : Option Nat}
    (isIn : ∀ i, best positions i → i ∈ positions) (some : ∀ i, r = some i → best positions i)
    (none : r = none → positions = ∅) : Answers best positions (positionValue r) := by
  cases r with
  | none =>
    have empty := none rfl
    refine ⟨fun some => absurd empty some.ne_empty, iff_of_true rfl empty⟩
  | some i =>
    have isBest := some i rfl
    refine ⟨fun _ => ⟨i, isBest, rfl⟩, iff_of_false (ofNat_ne_minusOne i) ?_⟩
    exact Set.Nonempty.ne_empty ⟨i, isIn i isBest⟩

theorem answers_itemPosition (items : List Value) (needle : Value) (start : Nat) :
    Answers IsLeast {i | start ≤ i ∧ StandsAt items needle i}
      (positionValue (itemPosition? items needle start)) :=
  answers_of_position (fun _ isBest => isBest.1) (fun _ => itemPosition?_some) itemPosition?_none

theorem answers_lastPosition (items : List Value) (needle : Value) (count : Nat) :
    Answers IsGreatest {i | i < count ∧ StandsAt items needle i}
      (positionValue (lastPosition? items needle count)) :=
  answers_of_position (fun _ isBest => isBest.1) (fun _ => lastPosition?_some) lastPosition?_none

/-- Both values are of the kind of numbers, and neither is a number. -/
def NoNumbers (a b : Value) : Prop :=
  ∃ x y, a = .number x ∧ b = .number y ∧ x.isNaN = true ∧ y.isNaN = true

theorem sameValue_iff {a b : Value} :
    sameValue a b = true ↔ a.strictEq b = true ∨ NoNumbers a b := by
  unfold NoNumbers
  cases a with
  | number x =>
    cases b with
    | number y =>
      simp only [sameValue, Value.strictEq, Bool.or_eq_true, Bool.and_eq_true]
      constructor
      · rintro (⟨none, none'⟩ | same)
        · exact .inr ⟨x, y, rfl, rfl, none, none'⟩
        · exact .inl same
      · rintro (same | ⟨_, _, left, right, none, none'⟩)
        · exact .inr same
        · cases left
          cases right
          exact .inl ⟨none, none'⟩
    | _ => simp [sameValue]
  | _ => simp [sameValue]

/-- What the three searches in an array return when a position is given, for every array, needle and
position. -/
theorem item_searches (host : Host) (root : Value) (items : List Value) (needle position : Value) :
    let n := integer position.toNumber
    let ahead := {i : Nat | (forwardStart n items.length).AtMost i}
    let back := {i : Nat | (backwardStart n items.length).AtLeast i}
    (∃ v, callMethod host root (.array items) "indexOf" [needle, position] = pure v ∧
      Answers IsLeast {i ∈ ahead | StandsAt items needle i} v) ∧
    (∃ v, callMethod host root (.array items) "lastIndexOf" [needle, position] = pure v ∧
      (¬ Misplaced position.toNumber →
        Answers IsGreatest {i ∈ back | StandsAt items needle i} v) ∧
      (Misplaced position.toNumber → Answers IsGreatest {i | StandsAt items needle i} v)) ∧
    ∃ b, callMethod host root (.array items) "includes" [needle, position] = pure (.bool b) ∧
      (b = true ↔ ∃ i ∈ ahead, ∃ v, items[i]? = some v ∧
        (v.strictEq needle = true ∨ NoNumbers v needle)) := by
  intro n ahead back
  refine ⟨⟨_, rfl, ?_⟩, ⟨_, rfl, fun placed => ?_, fun misplaced => ?_⟩, ⟨_, rfl, ?_⟩⟩
  · have same : {i ∈ ahead | StandsAt items needle i} =
        {i | Number.relativeIndex position.toNumber items.length ≤ i ∧ StandsAt items needle i} :=
      Set.ext fun i => and_congr_left fun stands => (relativeIndex_le_iff _ stands.inside).symm
    rw [same]
    exact answers_itemPosition items needle _
  · have same : {i ∈ back | StandsAt items needle i} =
        {i | i < (lastStart items.length [needle, position] + 1).toNat ∧ StandsAt items needle i} :=
      Set.ext fun i => and_congr_left fun stands =>
        (lt_lastStart_iff placed needle stands.inside).symm
    rw [same]
    exact answers_lastPosition items needle _
  · have same : {i | StandsAt items needle i} =
        {i | i < (lastStart items.length [needle, position] + 1).toNat ∧ StandsAt items needle i} :=
      Set.ext fun i => (and_iff_right_of_imp fun stands =>
        lt_lastStart_of_misplaced misplaced needle stands.inside).symm
    rw [same]
    exact answers_lastPosition items needle _
  · rw [List.any_eq_true]
    constructor
    · rintro ⟨v, isIn, same⟩
      obtain ⟨k, found⟩ := List.mem_iff_getElem?.mp isIn
      rw [List.getElem?_drop] at found
      have inside := (List.getElem?_eq_some_iff.mp found).1
      exact ⟨_, (relativeIndex_le_iff _ inside).mp (Nat.le_add_right _ k), v, found,
        sameValue_iff.mp same⟩
    · rintro ⟨i, isAhead, v, found, same⟩
      have inside := (List.getElem?_eq_some_iff.mp found).1
      obtain ⟨k, rfl⟩ := Nat.exists_eq_add_of_le ((relativeIndex_le_iff _ inside).mpr isAhead)
      rw [← List.getElem?_drop] at found
      exact ⟨v, List.mem_of_getElem? found, sameValue_iff.mpr same⟩

/-- A position is cut off and counted from the end: the search starts at the second item. -/
theorem second_from_end :
    ¬ Misplaced (Value.number (-2.5)).toNumber ∧
      ∀ host root, callMethod host root (.array [.number 1.0, .number 2.0, .number 1.0])
        "lastIndexOf" [.number 1.0, .number (-2.5)] = pure (.ofNat 0) := by
  have two : integer (-2.5) = .whole (-2) := by decide
  have placed : ¬ Misplaced (-2.5) := by
    rintro (none | ⟨-, zero⟩)
    · exact absurd none (by decide)
    · rw [two] at zero
      cases zero
  refine ⟨placed, fun host root => ?_⟩
  obtain ⟨-, ⟨v, called, answers, -⟩, -⟩ := item_searches host root
    [.number 1.0, .number 2.0, .number 1.0] (.number 1.0) (.number (-2.5))
  have start : backwardStart (integer (Value.number (-2.5)).toNumber) 3 = .whole 1 :=
    congrArg (backwardStart · 3) two
  have first : StandsAt [.number 1.0, .number 2.0, .number 1.0] (.number 1.0) 0 :=
    ⟨_, rfl, by decide⟩
  obtain ⟨i, ⟨⟨before, stands⟩, -⟩, rfl⟩ := (answers placed).found
    ⟨0, start.symm ▸ Int.zero_le_ofNat 1, first⟩
  have small : (i : Int) ≤ 1 := (congrArg (Extended.AtLeast i) start).mp before
  obtain rfl | rfl : i = 0 ∨ i = 1 := by omega
  · exact called
  · obtain ⟨v, found, same⟩ := stands
    cases found
    exact absurd same (by decide)

/-- What a negative fraction is cut off to is zero, but the search starts at the end. -/
theorem fraction_taken_for_end :
    (∀ host root, callMethod host root (.array [.number 1.0, .number 1.0]) "lastIndexOf"
        [.number 1.0, .number (-0.5)] = pure (.ofNat 1)) ∧
      ¬ Answers IsGreatest {i | (backwardStart (integer (-0.5)) 2).AtLeast i ∧
        StandsAt [.number 1.0, .number 1.0] (.number 1.0) i} (.ofNat 1) := by
  refine ⟨fun host root => rfl, fun answers => ?_⟩
  have start : backwardStart (integer (-0.5)) 2 = .whole 0 := by decide
  obtain ⟨i, ⟨⟨before, -⟩, -⟩, same⟩ := answers.found
    ⟨0, start.symm ▸ Int.le_refl 0, _, rfl, by decide⟩
  have small : (i : Int) ≤ 0 := (congrArg (Extended.AtLeast i) start).mp before
  obtain rfl : i = 0 := by omega
  rw [Value.ofNat, Value.ofNat, Value.number.injEq] at same
  exact absurd (congrArg Float.toBits same) (by decide)

end DocExpr.Library
