import DocExpr.Operator
import DocExpr.Proofs.Calendar.Parts
import DocExpr.Proofs.Library.Sorting

/-! The relational operators and strict equality on values of one kind that is ordered. Each such
value has a rank, a list of integers, and the operators compare the ranks. Ranks tell values apart
that are not strictly equal, except for dates within one millisecond. -/
namespace DocExpr
open Float.Model (UnpackedFloat)
open Std (LawfulEqCmp OrientedCmp TransCmp)

namespace Number

/-- Where a number stands among the others: its kind with its sign, then its exponent, then its
mantissa, the latter two reversed where it is negative. -/
def rankOf : UnpackedFloat → List Int
  | .notANumber => []
  | .infinity s => [s.apply 2, 0, 0]
  | .zero _ => [0, 0, 0]
  | .finite s m e _ => [s.apply 1, s.apply e, s.apply m]

/-- The order of ranks. -/
def compareRanks : List Int → List Int → Ordering := Text.compareLists compare

theorem compareRanks_three (i a b c d : Int) :
    compareRanks [i, a, b] [i, c, d] = (compare a c).then (compare b d) := by
  simp [compareRanks, Text.compareLists]

theorem compare_eq_ranks {u v : UnpackedFloat} (number : u ≠ .notANumber)
    (number' : v ≠ .notANumber) : u.compare v = some (compareRanks (rankOf u) (rankOf v)) := by
  cases u with
  | notANumber => exact absurd rfl number
  | infinity s =>
    cases v with
    | notANumber => exact absurd rfl number'
    | infinity t => cases s <;> cases t <;> rfl
    | zero t => cases s <;> rfl
    | finite t n f pos => cases s <;> cases t <;> rfl
  | zero s =>
    cases v with
    | notANumber => exact absurd rfl number'
    | infinity t => cases t <;> rfl
    | zero t => rfl
    | finite t n f pos => cases t <;> rfl
  | finite s m e pos =>
    cases v with
    | notANumber => exact absurd rfl number'
    | infinity t => cases s <;> cases t <;> rfl
    | zero t => cases s <;> rfl
    | finite t n f pos' =>
      cases s with
      | negative =>
        cases t with
        | negative =>
          change some ((compare e f).then (compare m n)).swap =
            some (compareRanks [-1, -e, -m] [-1, -f, -n])
          rw [compareRanks_three, compare_neg, compare_neg, compare_cast, Ordering.swap_then,
            Int.compare_swap, Nat.compare_swap]
        | positive => rfl
      | positive =>
        cases t with
        | negative => rfl
        | positive =>
          change some ((compare e f).then (compare m n)) =
            some (compareRanks [1, e, m] [1, f, n])
          rw [compareRanks_three, compare_cast]

instance : TransCmp compareRanks := by
  have lexicographic : compareRanks = List.compareLex compare :=
    funext₂ fun xs ys => Text.compareLists_eq _ xs ys
  rw [lexicographic]
  infer_instance

instance : LawfulEqCmp compareRanks := by
  have lexicographic : compareRanks = List.compareLex compare :=
    funext₂ fun xs ys => Text.compareLists_eq _ xs ys
  rw [lexicographic]
  infer_instance

/-- The rank of a number. -/
def rank (x : Float) : List Int := rankOf x.toModel.unpack

theorem ne_notANumber {x : Float} (number : x.isNaN = false) :
    x.toModel.unpack ≠ .notANumber := by
  intro none
  change x.toModel.unpack.isNaN = false at number
  rw [none] at number
  cases number

end Number

theorem lt_iff {x y : Float} : x < y ↔ x.toModel.unpack.compare y.toModel.unpack = some .lt := by
  change decide ((x.toModel.unpack.compare y.toModel.unpack == some Ordering.lt) = true) = true ↔ _
  simp

theorem beq_iff_compare {x y : Float} :
    (x == y) = true ↔ x.toModel.unpack.compare y.toModel.unpack = some .eq := by
  change (x.toModel.unpack.compare y.toModel.unpack == some Ordering.eq) = true ↔ _
  simp

theorem le_iff {x y : Float} :
    x ≤ y ↔ ∃ order, x.toModel.unpack.compare y.toModel.unpack = some order ∧ order.isLE := by
  change decide ((x.toModel.unpack.compare y.toModel.unpack).any (·.isLE) = true) = true ↔ _
  simp [Option.any_eq_true]

/-- Of two numbers the one is at most the other where the other is not less. -/
theorem le_iff_not_lt {x y : Float} (number : x.isNaN = false) (number' : y.isNaN = false) :
    x ≤ y ↔ ¬ y < x := by
  have forward := Number.compare_eq_ranks (Number.ne_notANumber number)
    (Number.ne_notANumber number')
  have back := Number.compare_eq_ranks (Number.ne_notANumber number')
    (Number.ne_notANumber number)
  have swapped : Number.compareRanks (Number.rank y) (Number.rank x) =
      (Number.compareRanks (Number.rank x) (Number.rank y)).swap := OrientedCmp.eq_swap
  rw [le_iff, lt_iff, forward, back, ← Number.rank, ← Number.rank, swapped]
  cases Number.compareRanks (Number.rank x) (Number.rank y) <;> simp

/-- What is no number is neither greater nor less than anything. -/
theorem unordered {x y : Float} (none : x.isNaN = true ∨ y.isNaN = true) : ¬ x < y ∧ ¬ x ≤ y := by
  have apart : x.toModel.unpack.compare y.toModel.unpack = .none := by
    rcases none with none | none
    · change x.toModel.unpack.isNaN = true at none
      cases unpacked : x.toModel.unpack with
      | notANumber => rfl
      | infinity | zero | finite =>
        rw [unpacked] at none
        cases none
    · change y.toModel.unpack.isNaN = true at none
      cases unpacked : y.toModel.unpack with
      | notANumber => cases x.toModel.unpack <;> rfl
      | infinity | zero | finite =>
        rw [unpacked] at none
        cases none
  rw [lt_iff, le_iff, apart]
  simp

namespace Value
open Number (Counts compareRanks rank)
open Calendar (Date)

theorem compareNumbers_of_compare {x y : Float} {order : Ordering}
    (forward : x.toModel.unpack.compare y.toModel.unpack = some order)
    (back : y.toModel.unpack.compare x.toModel.unpack = some order.swap) :
    compareNumbers x y = some order := by
  simp only [compareNumbers, lt_iff, beq_iff_compare, forward, back]
  cases order <;> rfl

/-- Where a value stands among those of its kind: a string by its characters, a date by its
milliseconds. -/
def rank : Value → List Int
  | .bool b => [if b then 1 else 0]
  | .number x => Number.rank x
  | .string s => s.toList.map fun c => (c.toNat : Int)
  | .date d => [d.instant.millis]
  | _ => []

/-- Two values of one kind, which is ordered. -/
inductive Alike : Value → Value → Prop where
  | bools (a b : Bool) : Alike (.bool a) (.bool b)
  | numbers {x y : Float} (number : x.isNaN = false) (number' : y.isNaN = false) :
      Alike (.number x) (.number y)
  | strings (s t : String) : Alike (.string s) (.string t)
  | dates {d e : Date} (kind : d.kind = e.kind) (represented : d.instant.Represented)
      (represented' : e.instant.Represented) : Alike (.date d) (.date e)

/-- Two dates at different instants of one millisecond. -/
def SharesMilli : Value → Value → Prop
  | .date d, .date e => d.instant ≠ e.instant ∧ d.instant.millis = e.instant.millis
  | _, _ => False

variable {a b c : Value}

theorem Alike.trans (first : Alike a b) (second : Alike b c) : Alike a c := by
  cases first with
  | bools => cases second; exact .bools _ _
  | numbers number => cases second with | numbers _ number' => exact .numbers number number'
  | strings => cases second; exact .strings _ _
  | dates kind represented =>
    cases second with
    | dates kind' _ represented' => exact .dates (kind.trans kind') represented represented'

theorem compareChars_eq (s t : String) :
    Text.compareChars s t = compareRanks (rank (.string s)) (rank (.string t)) := by
  simp only [Text.compareChars, rank, compareRanks]
  generalize s.toList = cs
  generalize t.toList = ds
  induction cs generalizing ds with
  | nil => cases ds <;> rfl
  | cons c cs ih =>
    cases ds with
    | nil => rfl
    | cons d ds => simp only [List.map_cons, Text.compareLists, ih, Number.compare_cast]

/-- The relational operators compare ranks. -/
theorem Alike.compareRelational (alike : Alike a b) :
    a.compareRelational b = some (compareRanks a.rank b.rank) := by
  cases alike with
  | bools a b => cases a <;> cases b <;> decide
  | @numbers x y number number' =>
    have forward := Number.compare_eq_ranks (Number.ne_notANumber number)
      (Number.ne_notANumber number')
    have back := Number.compare_eq_ranks (Number.ne_notANumber number')
      (Number.ne_notANumber number)
    have swapped : compareRanks (Number.rank y) (Number.rank x) =
        (compareRanks (Number.rank x) (Number.rank y)).swap := OrientedCmp.eq_swap
    exact compareNumbers_of_compare forward (back.trans (congrArg some swapped))
  | strings s t => exact congrArg some (compareChars_eq s t)
  | @dates d e kind represented represented' =>
    have left := (Number.counts_ofInt represented.millis_small).isInt
    have right := (Number.counts_ofInt represented'.millis_small).isInt
    have back := right.compare_eq left
    rw [← Int.compare_swap] at back
    change compareNumbers (Number.ofInt d.instant.millis) (Number.ofInt e.instant.millis) = _
    rw [compareNumbers_of_compare (left.compare_eq right) back]
    simp [compareRanks, rank, Text.compareLists]

/-- Strict equality is equality of ranks, but for dates within one millisecond. -/
theorem Alike.strictEq_iff (alike : Alike a b) (apart : ¬ SharesMilli a b) :
    a.strictEq b = true ↔ compareRanks a.rank b.rank = .eq := by
  cases alike with
  | bools a b => cases a <;> cases b <;> simp [strictEq, rank, compareRanks, Text.compareLists]
  | numbers number number' =>
    have forward := Number.compare_eq_ranks (Number.ne_notANumber number)
      (Number.ne_notANumber number')
    rw [strictEq, beq_iff_compare, forward]
    exact Option.some_inj
  | strings s t =>
    rw [strictEq, LawfulEqCmp.compare_eq_iff_eq, beq_iff_eq]
    have injective : Function.Injective fun c : Char => (c.toNat : Int) :=
      fun c d same => Char.toNat_inj.mp (Int.ofNat_inj.mp same)
    rw [rank, rank, injective.list_map.eq_iff, String.toList_inj]
  | @dates d e kind represented represented' =>
    have same : d.instant = e.instant ↔ d.instant.millis = e.instant.millis :=
      ⟨congrArg _, fun millis => Classical.not_not.mp fun other => apart ⟨other, millis⟩⟩
    simp [strictEq, rank, compareRanks, Text.compareLists, same]

theorem SharesMilli.rank_eq (shared : SharesMilli a b) : a.rank = b.rank := by
  cases a <;> cases b <;> try cases shared
  next d e other same => simp [rank, same]

theorem SharesMilli.not_strictEq (shared : SharesMilli a b) : a.strictEq b = false := by
  cases a <;> cases b <;> try cases shared
  next d e other same => simp [strictEq, other]

end Value

namespace Expr
open Number (compareRanks)
open Value (Alike SharesMilli)

/-- The operator is true of the values, whatever the limit on strings is. -/
def BinaryOp.Holds (op : BinaryOp) (a b : Value) : Prop :=
  ∀ limit, op.apply limit a b = .ok (.bool true)

theorem BinaryOp.holds_iff {op : BinaryOp} {a b : Value} {result : Bool}
    (applied : ∀ limit, op.apply limit a b = .ok (.bool result)) :
    op.Holds a b ↔ result = true := by
  constructor
  · intro holds
    simpa [applied 0] using holds 0
  · rintro rfl
    exact applied

section
variable {a b c : Value}

theorem strictEqual_holds : BinaryOp.strictEqual.Holds a b ↔ a.strictEq b = true :=
  BinaryOp.holds_iff fun _ => rfl

variable (alike : Alike a b)
include alike

theorem less_holds : BinaryOp.less.Holds a b ↔ compareRanks a.rank b.rank = .lt := by
  rw [BinaryOp.holds_iff fun _ => rfl, alike.compareRelational]
  simp

theorem greater_holds : BinaryOp.greater.Holds a b ↔ compareRanks a.rank b.rank = .gt := by
  rw [BinaryOp.holds_iff fun _ => rfl, alike.compareRelational]
  simp

theorem lessOrEqual_holds :
    BinaryOp.lessOrEqual.Holds a b ↔
      compareRanks a.rank b.rank = .lt ∨ compareRanks a.rank b.rank = .eq := by
  rw [BinaryOp.holds_iff fun _ => rfl, alike.compareRelational]
  simp

theorem greaterOrEqual_holds :
    BinaryOp.greaterOrEqual.Holds a b ↔
      compareRanks a.rank b.rank = .gt ∨ compareRanks a.rank b.rank = .eq := by
  rw [BinaryOp.holds_iff fun _ => rfl, alike.compareRelational]
  simp

theorem less_trans (alike' : Alike b c) (first : BinaryOp.less.Holds a b)
    (second : BinaryOp.less.Holds b c) : BinaryOp.less.Holds a c := by
  rw [less_holds alike] at first
  rw [less_holds alike'] at second
  rw [less_holds (alike.trans alike')]
  exact TransCmp.lt_trans first second

/-- Dates within one millisecond are in no strict relation, and in both that allow equality. -/
theorem within_milli (shared : SharesMilli a b) :
    ¬ BinaryOp.less.Holds a b ∧ ¬ BinaryOp.strictEqual.Holds a b ∧ ¬ BinaryOp.greater.Holds a b ∧
      BinaryOp.lessOrEqual.Holds a b ∧ BinaryOp.greaterOrEqual.Holds a b := by
  have same : compareRanks a.rank b.rank = .eq :=
    LawfulEqCmp.compare_eq_iff_eq.mpr shared.rank_eq
  simp [less_holds alike, strictEqual_holds, shared.not_strictEq, greater_holds alike,
    lessOrEqual_holds alike, greaterOrEqual_holds alike, same]

end

/-- On two values of one ordered kind that are no dates within one millisecond, exactly one of
less, equal and greater holds, and the other two relations are the disjunctions they are named for.
Less is transitive. -/
theorem relations_agree {a b : Value} (alike : Alike a b) :
    (¬ SharesMilli a b →
      (BinaryOp.less.Holds a b ∧ ¬ BinaryOp.strictEqual.Holds a b ∧ ¬ BinaryOp.greater.Holds a b ∨
        ¬ BinaryOp.less.Holds a b ∧ BinaryOp.strictEqual.Holds a b ∧ ¬ BinaryOp.greater.Holds a b ∨
        ¬ BinaryOp.less.Holds a b ∧ ¬ BinaryOp.strictEqual.Holds a b ∧ BinaryOp.greater.Holds a b) ∧
      (BinaryOp.lessOrEqual.Holds a b ↔
        BinaryOp.less.Holds a b ∨ BinaryOp.strictEqual.Holds a b) ∧
      (BinaryOp.greaterOrEqual.Holds a b ↔
        BinaryOp.greater.Holds a b ∨ BinaryOp.strictEqual.Holds a b)) ∧
    (SharesMilli a b →
      ¬ BinaryOp.less.Holds a b ∧ ¬ BinaryOp.strictEqual.Holds a b ∧ ¬ BinaryOp.greater.Holds a b ∧
        BinaryOp.lessOrEqual.Holds a b ∧ BinaryOp.greaterOrEqual.Holds a b) ∧
    ∀ c, Alike b c → BinaryOp.less.Holds a b → BinaryOp.less.Holds b c →
      BinaryOp.less.Holds a c := by
  refine ⟨fun apart => ?_, within_milli alike, fun c => less_trans alike⟩
  have equal := alike.strictEq_iff apart
  simp only [less_holds alike, strictEqual_holds, greater_holds alike, lessOrEqual_holds alike,
    greaterOrEqual_holds alike, equal]
  cases compareRanks a.rank b.rank <;> simp

/-- Two dates one millisecond apart. -/
theorem later_milli_greater :
    let a : Value := .date ⟨⟨19723, 0, 0⟩, .dateTime⟩
    let b : Value := .date ⟨⟨19723, 0, 1000000⟩, .dateTime⟩
    Alike a b ∧ ¬ SharesMilli a b ∧ BinaryOp.less.Holds a b ∧ ¬ BinaryOp.strictEqual.Holds a b ∧
      ¬ BinaryOp.greater.Holds a b ∧ BinaryOp.lessOrEqual.Holds a b := by
  intro a b
  have alike : Alike a b :=
    .dates rfl ⟨by decide, by decide, by decide⟩ ⟨by decide, by decide, by decide⟩
  have apart : ¬ SharesMilli a b := fun shared => absurd shared.2 (by decide)
  have less : BinaryOp.less.Holds a b := (less_holds alike).mpr (by decide)
  obtain ⟨one, lessOrEqual, -⟩ := (relations_agree alike).1 apart
  rcases one with ⟨-, notEqual, notGreater⟩ | ⟨notLess, -⟩ | ⟨notLess, -⟩
  · exact ⟨alike, apart, less, notEqual, notGreater, lessOrEqual.mpr (.inl less)⟩
  · exact absurd less notLess
  · exact absurd less notLess

/-- Two dates a tenth of a millisecond apart are neither less, nor equal, nor greater, but less or
equal. -/
theorem tenth_of_milli_unordered :
    let a : Value := .date ⟨⟨19723, 0, 0⟩, .dateTime⟩
    let b : Value := .date ⟨⟨19723, 0, 100000⟩, .dateTime⟩
    Alike a b ∧ ¬ BinaryOp.less.Holds a b ∧ ¬ BinaryOp.strictEqual.Holds a b ∧
      ¬ BinaryOp.greater.Holds a b ∧ BinaryOp.lessOrEqual.Holds a b := by
  intro a b
  have alike : Alike a b :=
    .dates rfl ⟨by decide, by decide, by decide⟩ ⟨by decide, by decide, by decide⟩
  have shared : SharesMilli a b := ⟨by decide, by decide⟩
  obtain ⟨notLess, notEqual, notGreater, lessOrEqual, -⟩ := within_milli alike shared
  exact ⟨alike, notLess, notEqual, notGreater, lessOrEqual⟩

end Expr
end DocExpr
