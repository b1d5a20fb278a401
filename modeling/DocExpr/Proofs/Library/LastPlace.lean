import DocExpr.Proofs.Library.Rounding
import Mathlib.Data.List.TakeWhile

/-! One added in the last place of a decimal, which may have zeros in front and need have no digit
before its point. The carry runs backwards over the digits and past the point, and only if all of
them were nines a digit is put in front. -/
namespace DocExpr.Number
open Json (takeWhile_front dropWhile_front)

/-- Digits, at least one, with at most one point, which is not at the end. -/
structure PlainDecimal (cs : List Char) : Prop where
  characters : ∀ c ∈ cs, isDigit c = true ∨ c = '.'
  someDigit : ∃ c ∈ cs, isDigit c = true
  onePoint : cs.count '.' ≤ 1
  pointNotLast : cs.getLast? ≠ some '.'

/-- The digits in front of the point, or all of them. -/
def wholeDigits (cs : List Char) : List Char := cs.takeWhile (· != '.')

/-- The digits behind the point. -/
def fractionDigits (cs : List Char) : List Char := (cs.dropWhile (· != '.')).drop 1

/-- The number that a decimal writes. -/
def decimalValue (cs : List Char) : ℚ :=
  natOfDigits (wholeDigits cs) + natOfDigits (fractionDigits cs) / 10 ^ (fractionDigits cs).length

/-- Digits alone, or digits behind a point, in front of which there need be none. -/
inductive DecimalParts : List Char → List Char → List Char → Prop where
  | whole {front : List Char} (isDigits : Digits front) : DecimalParts front front []
  | point {front back : List Char} (before : ∀ c ∈ front, isDigit c = true)
      (behind : Digits back) : DecimalParts (front ++ '.' :: back) front back

namespace DecimalParts
variable {cs front back : List Char} (parts : DecimalParts cs front back)
include parts

theorem plain : PlainDecimal cs := by
  cases parts with
  | whole isDigits =>
    refine ⟨fun c isIn => .inl (isDigits.all c isIn), ?_, ?_, fun last => ?_⟩
    · obtain ⟨c, more, rfl, digit⟩ := isDigits.cons
      exact ⟨c, List.mem_cons_self, digit⟩
    · rw [noPoint_of_digits isDigits.all]
      exact Nat.zero_le 1
    · cases isDigits.all '.' (List.mem_of_getLast? last)
  | point before behind =>
    obtain ⟨c, more, rfl, digit⟩ := behind.cons
    refine ⟨fun d isIn => ?_, ⟨c, by simp, digit⟩, ?_, fun last => ?_⟩
    · rcases List.mem_append.mp isIn with isIn | isIn
      · exact .inl (before d isIn)
      · rcases List.mem_cons.mp isIn with rfl | isIn
        · exact .inr rfl
        · exact .inl (behind.all d isIn)
    · rw [List.count_append, List.count_cons_self, noPoint_of_digits before,
        noPoint_of_digits behind.all]
    · rw [List.getLast?_append_of_ne_nil _ (List.cons_ne_nil _ _), List.getLast?_cons_cons] at last
      cases behind.all '.' (List.mem_of_getLast? last)

theorem digits : wholeDigits cs = front ∧ fractionDigits cs = back := by
  have noPoint {ds : List Char} (all : ∀ c ∈ ds, isDigit c = true) :
      ∀ c ∈ ds, (c != '.') = true := by
    intro c isIn
    refine bne_iff_ne.mpr ?_
    rintro rfl
    cases all '.' isIn
  unfold wholeDigits fractionDigits
  cases parts with
  | whole isDigits =>
    have all := noPoint isDigits.all
    exact ⟨List.takeWhile_eq_self_iff.mpr all, by rw [List.dropWhile_eq_nil_iff.mpr all]; rfl⟩
  | point before behind =>
    have ends : ∀ c ∈ ('.' :: back).head?, (c != '.') = false := by
      rintro c ⟨⟩
      rfl
    rw [takeWhile_front (noPoint before) ends, dropWhile_front (noPoint before) ends]
    exact ⟨rfl, rfl⟩

theorem value : decimalValue cs = natOfDigits (front ++ back) / 10 ^ back.length := by
  obtain ⟨whole, fraction⟩ := parts.digits
  rw [decimalValue, whole, fraction, natOfDigits_append]
  push_cast
  field_simp

end DecimalParts

theorem PlainDecimal.parts {cs : List Char} (plain : PlainDecimal cs) :
    ∃ front back, DecimalParts cs front back := by
  have digits {ds : List Char} (among : ∀ c ∈ ds, c ∈ cs) (noPoint : '.' ∉ ds) :
      ∀ c ∈ ds, isDigit c = true := by
    intro c isIn
    refine (plain.characters c (among c isIn)).resolve_right ?_
    rintro rfl
    exact noPoint isIn
  by_cases point : '.' ∈ cs
  · obtain ⟨front, back, rfl, before⟩ := List.eq_append_cons_of_mem point
    have behind : '.' ∉ back := by
      have once := plain.onePoint
      rw [List.count_append, List.count_cons_self] at once
      exact List.count_eq_zero.mp (by omega)
    have digitsBefore : ∀ c ∈ front, isDigit c = true := digits (by simp +contextual) before
    have digitsBehind : ∀ c ∈ back, isDigit c = true := digits (by simp +contextual) behind
    refine ⟨front, back, .point digitsBefore ⟨?_, digitsBehind⟩⟩
    rintro rfl
    exact plain.pointNotLast List.getLast?_concat
  · obtain ⟨c, isIn, -⟩ := plain.someDigit
    exact ⟨cs, [], .whole ⟨List.ne_nil_of_mem isIn, digits (fun _ => id) point⟩⟩

end DocExpr.Number

namespace DocExpr.Library
open DocExpr.Number

/-- As many digits stay behind the point, at most one comes in front, and without the point the
digits make the next number. -/
theorem roundUpDecimal_parts {cs front back : List Char} (parts : DecimalParts cs front back) :
    ∃ front' back', DecimalParts (roundUpDecimal cs) front' back' ∧ back'.length = back.length ∧
      front.length ≤ front'.length ∧ front'.length ≤ front.length + 1 ∧
      natOfDigits (front' ++ back') = natOfDigits (front ++ back) + 1 := by
  cases parts with
  | whole isDigits =>
    obtain ⟨isDigits', larger, length⟩ := roundUpDecimal_all isDigits.all
    refine ⟨_, [], .whole isDigits', rfl, by omega, by omega, ?_⟩
    rw [List.append_nil, List.append_nil, larger]
  | point before behind =>
    obtain ⟨front', back', changed, behind', places, same, larger⟩ :=
      roundUpDecimal_point before behind
    obtain ⟨before', -, length⟩ := roundUpDecimal_all before
    rw [changed]
    rcases same with rfl | rfl
    · exact ⟨front', back', .point before behind', places, Nat.le_refl _, Nat.le_succ _, larger⟩
    · exact ⟨_, back', .point before'.all behind', places, by omega, by omega, larger⟩

/-- The result is a decimal with the same number of digits behind its point and at most one more in
front of it, and its value is larger by one in the last place. -/
theorem one_in_last_place {cs : List Char} (plain : PlainDecimal cs) :
    PlainDecimal (roundUpDecimal cs) ∧
      (fractionDigits (roundUpDecimal cs)).length = (fractionDigits cs).length ∧
      (wholeDigits cs).length ≤ (wholeDigits (roundUpDecimal cs)).length ∧
      (wholeDigits (roundUpDecimal cs)).length ≤ (wholeDigits cs).length + 1 ∧
      decimalValue (roundUpDecimal cs) =
        decimalValue cs + 10 ^ (-((fractionDigits cs).length : Int)) := by
  obtain ⟨front, back, parts⟩ := plain.parts
  obtain ⟨front', back', parts', places, least, most, larger⟩ := roundUpDecimal_parts parts
  obtain ⟨whole, fraction⟩ := parts.digits
  obtain ⟨whole', fraction'⟩ := parts'.digits
  have value : decimalValue (roundUpDecimal cs) =
      decimalValue cs + 10 ^ (-(back.length : Int)) := by
    rw [parts'.value, parts.value, larger, places, Nat.cast_succ, add_div, zpow_neg, zpow_natCast,
      one_div]
  rw [whole, fraction, whole', fraction']
  exact ⟨parts'.plain, places, least, most, value⟩

/-- Nines on both sides of the point become zeros. -/
theorem nines_carried :
    PlainDecimal ['9', '.', '9', '9'] ∧
      roundUpDecimal ['9', '.', '9', '9'] = ['1', '0', '.', '0', '0'] ∧
      PlainDecimal ['1', '0', '.', '0', '0'] ∧
      decimalValue ['1', '0', '.', '0', '0'] =
        decimalValue ['9', '.', '9', '9'] + 10 ^ (-2 : Int) := by
  have plain : PlainDecimal ['9', '.', '9', '9'] :=
    ⟨by simp [isDigit], ⟨'9', by decide⟩, by decide, by decide⟩
  obtain ⟨plain', -, -, -, value⟩ := one_in_last_place plain
  exact ⟨plain, rfl, plain', value⟩

end DocExpr.Library
