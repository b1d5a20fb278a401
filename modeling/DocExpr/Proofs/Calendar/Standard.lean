import DocExpr.Calendar.Writing
import DocExpr.Proofs.Number.Numeral

/-! The standard text of a date has digits and a few marks, none of which needs an escape. -/
namespace DocExpr.Calendar
open DocExpr.Number (isDigit digitChars)

/-- A character of the standard text of a date. -/
def isStandard (c : Char) : Bool := isDigit c || ['-', '+', '.', ':', 'T', 'Z'].contains c

/-- An item of a standard text: a number, digits of the fraction, or marks. -/
def isStandardItem : Item → Bool
  | .number _ _ | .pointFraction (some _) => true
  | .literal text => text.all isStandard
  | _ => false

theorem isStandardItem_specifiers (kind : Kind) :
    (itemsOf kind.specifiers.toList).all isStandardItem = true := by
  cases kind <;> rfl

theorem isStandard_of_isDigit {c : Char} (digit : isDigit c = true) : isStandard c = true := by
  rw [isStandard, digit, Bool.true_or]

theorem isStandard_digitChars (n : Nat) : ∀ c ∈ digitChars n, isStandard c = true :=
  fun c isIn => isStandard_of_isDigit ((Number.digits_digitChars n).all c isIn)

theorem isStandard_padded (width n : Nat) : ∀ c ∈ padded width n, isStandard c = true := by
  intro c isIn
  rcases List.mem_append.mp isIn with zero | digit
  · exact isStandard_of_isDigit (Number.isDigit_zeros _ c zero)
  · exact isStandard_digitChars n c digit

theorem isStandard_yearText (year : Int) (zeros : Bool) :
    ∀ c ∈ yearText year zeros, isStandard c = true := by
  have digits : ∀ c ∈ (if zeros then padded 4 year.natAbs else digitChars year.natAbs),
      isStandard c = true := by
    split
    · exact isStandard_padded _ _
    · exact isStandard_digitChars _
  intro c isIn
  unfold yearText at isIn
  dsimp only at isIn
  split at isIn
  · exact digits c isIn
  · rcases List.mem_cons.mp isIn with rfl | isIn
    · split <;> rfl
    · exact digits c isIn

theorem isStandard_numberText (t : Instant) (field : NumberField) (zeros : Bool) :
    ∀ c ∈ numberText t field zeros, isStandard c = true := by
  have two (width n : Nat) : ∀ c ∈ (if zeros then padded width n else digitChars n),
      isStandard c = true := by
    split
    · exact isStandard_padded _ _
    · exact isStandard_digitChars _
  cases field with
  | year => exact isStandard_yearText _ _
  | dayOfYear => exact two 3 _
  | _ => exact two 2 _

theorem isStandard_itemText (t : Instant) (offset : Int) {item : Item}
    (standard : isStandardItem item = true) : ∀ c ∈ itemText t offset item, isStandard c = true := by
  cases item with
  | number field zeros => exact isStandard_numberText t field zeros
  | literal text => exact List.all_eq_true.mp standard
  | pointFraction digits =>
    cases digits with
    | none => cases standard
    | some digits =>
      intro c isIn
      rcases List.mem_cons.mp isIn with rfl | isIn
      · rfl
      · exact isStandard_padded _ _ c isIn
  | _ => cases standard

theorem isStandard_isoText (d : Date) : ∀ c ∈ d.isoText.toList, isStandard c = true := by
  intro c isIn
  rw [Date.isoText, String.toList_ofList] at isIn
  obtain ⟨item, isItem, isIn⟩ := List.mem_flatMap.mp isIn
  have standard := List.all_eq_true.mp (isStandardItem_specifiers d.kind) item isItem
  exact isStandard_itemText d.instant 0 standard c isIn

theorem isBlank_of_isStandard {c : Char} (standard : isStandard c = true) :
    Text.isBlank c = false := by
  rcases Bool.or_eq_true_iff.mp standard with digit | mark
  · exact Number.isBlank_of_isDigit digit
  · simp only [List.contains_iff_mem, List.mem_cons, List.not_mem_nil, or_false] at mark
    rcases mark with rfl | rfl | rfl | rfl | rfl | rfl <;> rfl

/-- There is nothing to trim. -/
theorem trim_isoText (d : Date) : Text.trim d.isoText.toList = d.isoText.toList :=
  Text.trim_eq_self fun c isIn => isBlank_of_isStandard (isStandard_isoText d c isIn)

end DocExpr.Calendar
