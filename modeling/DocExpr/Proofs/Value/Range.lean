import DocExpr.Proofs.Number.DecimalLiteral
import DocExpr.Proofs.Value.Order
import DocExpr.Value.Matching

/-! Ranges as patterns. A string with two points in it matches the numbers between the bounds that
stand around them; a string whose bounds are not numbers matches none. The one exception is a range
that says of its lower bound that it is no number: it is taken for a range without lower bound. -/
namespace DocExpr
open Number (DecimalLiteral SignMark)

namespace Text

/-- No two points stand in front of the second of those behind this text. -/
def Apart (front : List Char) : Prop := ¬ ['.', '.'] <:+: front ++ ['.']

theorem startsWith_points (c : Char) (front rest : List Char) :
    startsWith ['.', '.'] (c :: (front ++ '.' :: rest)) = true ↔
      ['.', '.'] <+: c :: (front ++ ['.']) := by
  rw [startsWith, List.isPrefixOf_iff_prefix]
  cases front <;> simp [List.cons_prefix_cons]

theorem apart_nil : Apart [] := by
  rintro ⟨before, behind, same⟩
  have := congrArg List.length same
  simp only [List.length_append, List.length_cons, List.length_nil] at this
  omega

theorem apart_cons {c : Char} {front : List Char} :
    Apart (c :: front) ↔ ¬ ['.', '.'] <+: c :: (front ++ ['.']) ∧ Apart front := by
  rw [Apart, Apart, List.cons_append, List.infix_cons_iff, not_or]

theorem findFrom?_front {front : List Char} (apart : Apart front) (rest : List Char) (i : Nat) :
    findFrom? ['.', '.'] i (front ++ '.' :: '.' :: rest) = some (i + front.length) := by
  induction front generalizing i with
  | nil => rfl
  | cons c front ih =>
    obtain ⟨noPoints, apart⟩ := apart_cons.mp apart
    rw [List.cons_append, findFrom?, if_neg ((startsWith_points ..).not.mpr noPoints), ih apart,
      List.length_cons, Nat.add_right_comm, Nat.add_assoc]

theorem apart_of_findFrom? {cs : List Char} {i k : Nat}
    (h : findFrom? ['.', '.'] i cs = some k) :
    ∃ front rest, cs = front ++ '.' :: '.' :: rest ∧ Apart front ∧ k = i + front.length := by
  induction cs generalizing i with
  | nil => cases h
  | cons c cs ih =>
    rw [findFrom?] at h
    split at h
    next starts =>
      cases h
      obtain ⟨rest, same⟩ := List.isPrefixOf_iff_prefix.mp starts
      exact ⟨[], rest, same.symm, apart_nil, rfl⟩
    next noPoints =>
      obtain ⟨front, rest, rfl, apart, rfl⟩ := ih h
      rw [startsWith_points] at noPoints
      refine ⟨c :: front, rest, rfl, apart_cons.mpr ⟨noPoints, apart⟩, ?_⟩
      rw [List.length_cons]
      omega

/-- A text with at most one point, which does not stand at its end, goes up to the first two points
behind it. -/
theorem apart_of_count {front : List Char} (few : front.count '.' ≤ 1)
    (ends : '.' ∉ front.getLast?) : Apart front := by
  rintro ⟨before, behind, same⟩
  rcases List.eq_nil_or_concat behind with rfl | ⟨behind, c, rfl⟩
  · rw [List.append_nil, List.append_cons before] at same
    have last : front = before ++ ['.'] := (List.append_inj' same rfl).1.symm
    exact ends (by simp [last])
  · have inner : front = before ++ ['.', '.'] ++ behind := by
      rw [List.concat_eq_append, ← List.append_assoc] at same
      exact (List.append_inj' same rfl).1.symm
    have count := congrArg (List.count '.') inner
    simp only [List.count_append] at count
    have : ['.', '.'].count '.' = 2 := by decide
    omega

theorem ends_of_apart {front : List Char} (apart : Apart front) : '.' ∉ front.getLast? := by
  intro last
  obtain ⟨before, rfl⟩ := List.getLast?_eq_some_iff.mp last
  exact apart ⟨before, [], by simp⟩

theorem count_dropWhile {c : Char} (solid : isBlank c = false) (cs : List Char) :
    (cs.dropWhile isBlank).count c = cs.count c := by
  have none : (cs.takeWhile isBlank).count c = 0 :=
    List.count_eq_zero.mpr fun isIn => by
      have blank := List.all_eq_true.mp List.all_takeWhile c isIn
      rw [solid] at blank
      cases blank
  conv_rhs => rw [← List.takeWhile_append_dropWhile (p := isBlank) (l := cs), List.count_append,
    none, Nat.zero_add]

theorem count_trim {c : Char} (solid : isBlank c = false) (cs : List Char) :
    (trim cs).count c = cs.count c := by
  rw [trim, trimRight, List.count_reverse, count_dropWhile solid, List.count_reverse, trimLeft,
    count_dropWhile solid]

end Text

namespace Range

/-- The text of a bound, without the white space around it, and the double that it stands for. -/
inductive Bound : List Char → Float → Prop where
  | infinity {sign word : List Char} {negative : Bool} (isSign : SignMark sign negative)
      (isWord : word.map Char.toLower ∈ ["inf".toList, "infinity".toList]) :
      Bound (sign ++ word) (if negative then -Number.infinity else Number.infinity)
  | decimal {cs : List Char} {x : Float} (literal : DecimalLiteral cs x) : Bound cs x

/-- The text says of itself that it is no number. -/
inductive NaNWord : List Char → Prop where
  | mk {sign word : List Char} {negative : Bool} (isSign : SignMark sign negative)
      (isWord : word.map Char.toLower = "nan".toList) : NaNWord (sign ++ word)

/-- A word for infinity or for what is no number, in letters of either case. -/
def IsWord (word : List Char) : Prop :=
  word.map Char.toLower ∈ ["inf".toList, "infinity".toList, "nan".toList]

/-- A range as it is written: the text in front of its points, the text behind them, and whether an
equals sign ends it. Of three points in a row the first two count. -/
inductive RangeText : List Char → List Char → List Char → Bool → Prop where
  | exclusive {low high : List Char} (ends : '.' ∉ low.getLast?) :
      RangeText (low ++ '.' :: '.' :: high) low high false
  | inclusive {low high : List Char} (ends : '.' ∉ low.getLast?) :
      RangeText (low ++ '.' :: '.' :: (high ++ ['='])) low high true

/-- The number lies below the upper bound, or at it where that belongs to the range. -/
def Below (inclusive : Bool) (x high : Float) : Prop :=
  if inclusive then x ≤ high else x < high

theorem spanSign_word {sign word : List Char} {negative : Bool} (isSign : SignMark sign negative)
    (isWord : IsWord word) :
    Number.spanSign (sign ++ word) = (negative, word) := by
  refine isSign.span fun c isFirst => ?_
  have first : c.toLower ∈ (word.map Char.toLower).head? := by
    rw [List.head?_map, Option.mem_def.mp isFirst]
    rfl
  constructor
  all_goals
    rintro rfl
    simp only [IsWord, List.mem_cons, List.not_mem_nil, or_false] at isWord
    rcases isWord with same | same | same <;> rw [same] at first <;> cases first

theorem bound?_infinity {sign word : List Char} {negative : Bool} (isSign : SignMark sign negative)
    (isWord : word.map Char.toLower ∈ ["inf".toList, "infinity".toList]) :
    bound? (sign ++ word) = some (if negative then -Number.infinity else Number.infinity) := by
  have span := spanSign_word isSign (List.mem_append_left ["nan".toList] isWord)
  unfold bound?
  rw [span]
  dsimp only
  rw [if_pos (by simpa using isWord)]

theorem isNaN_signed (negative : Bool) :
    (if negative then -Number.nan else Number.nan).isNaN = true := by
  cases negative <;> decide

theorem bound?_nan {cs : List Char} (isNaN : NaNWord cs) :
    ∃ x, bound? cs = some x ∧ x.isNaN = true := by
  obtain ⟨isSign, isWord⟩ := isNaN
  rename_i negative
  have span := spanSign_word isSign (by rw [IsWord, isWord]; decide)
  refine ⟨if negative then -Number.nan else Number.nan, ?_, isNaN_signed negative⟩
  unfold bound?
  rw [span]
  dsimp only
  rw [isWord, if_neg (by decide), if_pos rfl]

/-- No character of a numeral is an `n`, which all words have. -/
theorem toLower_of_part {c : Char} (part : Number.partOfNumeral c = true) : c.toLower ≠ 'n' := by
  rcases Bool.or_eq_true_iff.mp part with digit | mark
  · have same : c.toLower = c := by
      refine dif_neg fun capital => ?_
      have low : 65 ≤ c.toNat := capital.1
      have high : c.toNat ≤ 57 := of_decide_eq_true (Bool.and_eq_true_iff.mp digit).2
      omega
    rw [same]
    rintro rfl
    cases digit
  · simp only [List.contains_iff_mem, List.mem_cons, List.not_mem_nil, or_false] at mark
    rcases mark with rfl | rfl | rfl | rfl | rfl <;> decide

theorem bound?_decimal {cs : List Char} {x : Float} (literal : DecimalLiteral cs x) :
    bound? cs = some x := by
  obtain ⟨sign, split, -⟩ := Number.sign_spanSign cs
  have noWord : 'n' ∉ (Number.spanSign cs).2.map Char.toLower := by
    intro isIn
    obtain ⟨c, isIn, lower⟩ := List.mem_map.mp isIn
    refine toLower_of_part (literal.part c ?_) lower
    rw [split]
    exact List.mem_append_right sign isIn
  have other {word : List Char} (isIn : 'n' ∈ word) :
      (Number.spanSign cs).2.map Char.toLower ≠ word := fun same => noWord (same ▸ isIn)
  unfold bound?
  dsimp only
  rw [if_neg (not_or.mpr ⟨other (by decide), other (by decide)⟩), if_neg (other (by decide))]
  exact Number.ofNumeral?_eq_some_iff.mpr literal

theorem Bound.read {cs : List Char} {x : Float} (bound : Bound cs x) : bound? cs = some x := by
  cases bound with
  | infinity isSign isWord => exact bound?_infinity isSign isWord
  | decimal literal => exact bound?_decimal literal

/-- What is read as a bound is one, or the word for what is no number. -/
theorem bound_of_bound? {cs : List Char} {x : Float} (h : bound? cs = some x) :
    Bound cs x ∨ NaNWord cs ∧ x.isNaN = true := by
  obtain ⟨sign, split, isSign⟩ := Number.sign_spanSign cs
  unfold bound? at h
  dsimp only at h
  generalize Number.spanSign cs = signed at h split isSign
  obtain ⟨negative, word⟩ := signed
  dsimp only at h split isSign
  by_cases infinite : word.map Char.toLower = "inf".toList ∨
      word.map Char.toLower = "infinity".toList
  · rw [if_pos infinite] at h
    cases h
    rw [split]
    exact .inl (.infinity isSign (by simpa using infinite))
  by_cases isNaN : word.map Char.toLower = "nan".toList
  · rw [if_neg infinite, if_pos isNaN] at h
    cases h
    rw [split]
    exact .inr ⟨.mk isSign isNaN, isNaN_signed negative⟩
  · rw [if_neg infinite, if_neg isNaN] at h
    exact .inl (.decimal (Number.ofNumeral?_eq_some_iff.mp h))

theorem Bound.isNaN {cs : List Char} {x : Float} (bound : Bound cs x) : x.isNaN = false := by
  cases bound with
  | infinity isSign => cases isSign <;> decide
  | decimal literal => exact literal.isNaN

/-- The characters of a word are no points and no equals signs. -/
theorem not_mem_word {word : List Char} (isWord : IsWord word) {c : Char}
    (isMark : c = '.' ∨ c = '=') : c ∉ word := by
  intro isIn
  have lower : c.toLower ∈ word.map Char.toLower := List.mem_map_of_mem isIn
  simp only [IsWord, List.mem_cons, List.not_mem_nil, or_false] at isWord
  rcases isMark with rfl | rfl
  all_goals
    rcases isWord with same | same | same <;> exact absurd (same ▸ lower) (by decide)

section
variable {cs : List Char} {x : Float} (read : bound? cs = some x)
include read

theorem bound?_forms : (∃ y, DecimalLiteral cs y) ∨
    ∃ sign word negative, cs = sign ++ word ∧ SignMark sign negative ∧ IsWord word := by
  rcases bound_of_bound? read with bound | ⟨isNaN, -⟩
  · cases bound with
    | infinity isSign isWord =>
      exact .inr ⟨_, _, _, rfl, isSign, List.mem_append_left ["nan".toList] isWord⟩
    | decimal literal => exact .inl ⟨x, literal⟩
  · obtain ⟨isSign, isWord⟩ := isNaN
    exact .inr ⟨_, _, _, rfl, isSign, by rw [IsWord, isWord]; decide⟩

theorem onePoint_of_bound? : cs.count '.' ≤ 1 := by
  rcases bound?_forms read with ⟨y, literal⟩ | ⟨sign, word, negative, rfl, isSign, isWord⟩
  · exact literal.onePoint
  · have none := List.count_eq_zero.mpr (not_mem_word isWord (.inl rfl))
    rw [List.count_append, isSign.noPoint, none]
    decide

theorem noEquals_of_bound? : cs.count '=' = 0 := by
  refine List.count_eq_zero.mpr fun isIn => ?_
  rcases bound?_forms read with ⟨y, literal⟩ | ⟨sign, word, negative, rfl, isSign, isWord⟩
  · exact absurd (literal.part _ isIn) (by decide)
  · rcases List.mem_append.mp isIn with isIn | isIn
    · exact absurd (isSign.part _ isIn) (by decide)
    · exact not_mem_word isWord (.inr rfl) isIn

end

/-- The text of an upper bound without the equals sign at its end, and whether there is one. -/
def upper (rest : List Char) : List Char × Bool :=
  match Text.dropSuffix? ['='] rest with
  | some high => (high, true)
  | none => (rest, false)

theorem upper_inclusive (high : List Char) : upper (high ++ ['=']) = (high, true) := by
  rw [upper, Text.dropSuffix?_eq_some_iff.mpr rfl]

theorem upper_exclusive {high : List Char} (noEquals : '=' ∉ high) : upper high = (high, false) := by
  have open_ : Text.dropSuffix? ['='] high = none := by
    refine Option.eq_none_iff_forall_ne_some.mpr fun front suffix => noEquals ?_
    rw [Text.dropSuffix?_eq_some_iff.mp suffix]
    exact List.mem_append_right front List.mem_cons_self
  rw [upper, open_]

/-- What stands behind the points is one of the two forms. -/
theorem rangeText_upper {low : List Char} (ends : '.' ∉ low.getLast?) (rest : List Char) :
    RangeText (low ++ '.' :: '.' :: rest) low (upper rest).1 (upper rest).2 := by
  unfold upper
  split
  next high suffix =>
    rw [Text.dropSuffix?_eq_some_iff.mp suffix]
    exact .inclusive ends
  next => exact .exclusive ends

/-- The bounds stand around the first two points. -/
theorem ofText?_front {s : String} {front rest : List Char} (apart : Text.Apart front)
    (text : s.toList = front ++ '.' :: '.' :: rest) :
    ofText? s = (bound? (Text.trim front)).bind fun low =>
      (bound? (Text.trim (upper rest).1)).map fun high => ⟨low, high, (upper rest).2⟩ := by
  have first : Text.indexOf? ['.', '.'] (front ++ '.' :: '.' :: rest) 0 = some front.length := by
    rw [Text.indexOf?, List.drop_zero, Text.findFrom?_front apart, Nat.zero_add]
  have behind : (front ++ '.' :: '.' :: rest).drop (front.length + 2) = rest := by
    rw [List.drop_append, List.drop_of_length_le (by omega)]
    simp
  unfold ofText?
  dsimp only
  rw [text, first, Option.bind_eq_bind, Option.bind_some, behind, List.take_left]
  cases bound? (Text.trim front) with
  | none => rfl
  | some low =>
    change ((bound? (Text.trim (upper rest).1)).bind fun high =>
      some (⟨low, high, (upper rest).2⟩ : Range)) = _
    exact Option.map_eq_bind.symm

theorem ofText?_eq_some_iff {s : String} {r : Range} : ofText? s = some r ↔
    ∃ low high, RangeText s.toList low high r.inclusive ∧
      bound? (Text.trim low) = some r.low ∧ bound? (Text.trim high) = some r.high := by
  constructor
  · intro h
    obtain ⟨i, found, -⟩ := Option.bind_eq_some_iff.mp h
    obtain ⟨front, rest, text, apart, -⟩ := Text.apart_of_findFrom? found
    rw [List.drop_zero] at text
    rw [ofText?_front apart text] at h
    obtain ⟨a, low, h⟩ := Option.bind_eq_some_iff.mp h
    obtain ⟨b, high, rfl⟩ := Option.map_eq_some_iff.mp h
    have written := rangeText_upper (Text.ends_of_apart apart) rest
    rw [← text] at written
    exact ⟨front, (upper rest).1, written, low, high⟩
  · rintro ⟨low, high, written, readLow, readHigh⟩
    have few : low.count '.' ≤ 1 := by
      rw [← Text.count_trim rfl low]
      exact onePoint_of_bound? readLow
    have noEquals : '=' ∉ high := by
      rw [← List.count_eq_zero, ← Text.count_trim rfl high]
      exact noEquals_of_bound? readHigh
    obtain ⟨a, b, inclusive⟩ := r
    dsimp only at written readLow readHigh
    generalize text : s.toList = cs at written
    cases written with
    | exclusive ends =>
      rw [ofText?_front (Text.apart_of_count few ends) text, upper_exclusive noEquals, readLow,
        readHigh]
      rfl
    | inclusive ends =>
      rw [ofText?_front (Text.apart_of_count few ends) text, upper_inclusive, readLow, readHigh]
      rfl

theorem Below.isNaN {inclusive : Bool} {x high : Float} (below : Below inclusive x high) :
    x.isNaN = false ∧ high.isNaN = false := by
  have numbers : ¬ (x.isNaN = true ∨ high.isNaN = true) := by
    intro none
    obtain ⟨noLess, noMore⟩ := unordered none
    unfold Below at below
    split at below
    · exact noMore below
    · exact noLess below
  simpa using numbers

theorem containsNumber_iff (r : Range) (x : Float) : r.containsNumber x = true ↔
    ¬ x < r.low ∧ Below r.inclusive x r.high := by
  have ends : (if r.inclusive then decide (x ≤ r.high) else decide (x < r.high)) = true ↔
      Below r.inclusive x r.high := by
    unfold Below
    split <;> exact decide_eq_true_iff
  unfold containsNumber
  rw [Bool.and_eq_true, Bool.and_eq_true, ends, Bool.not_eq_true', Bool.not_eq_true',
    decide_eq_false_iff_not]
  exact ⟨fun ⟨⟨_, above⟩, below⟩ => ⟨above, below⟩,
    fun ⟨above, below⟩ => ⟨⟨below.isNaN.1, above⟩, below⟩⟩

theorem fits_iff (s : String) (x : Float) : Value.fits (.string s) (.number x) = true ↔
    ∃ low high inclusive a b, RangeText s.toList low high inclusive ∧
      bound? (Text.trim low) = some a ∧ bound? (Text.trim high) = some b ∧
      ¬ x < a ∧ Below inclusive x b := by
  have matches_ : Value.fits (.string s) (.number x) = true ↔
      ∃ r, ofText? s = some r ∧ r.containsNumber x = true := by
    rw [Value.fits]
    unfold Value.matchesText
    dsimp only
    rw [Bool.false_or]
    cases ofText? s <;> simp [contains]
  rw [matches_]
  constructor
  · rintro ⟨r, read, inside⟩
    obtain ⟨low, high, written, readLow, readHigh⟩ := ofText?_eq_some_iff.mp read
    exact ⟨low, high, _, _, _, written, readLow, readHigh, (containsNumber_iff r x).mp inside⟩
  · rintro ⟨low, high, inclusive, a, b, written, readLow, readHigh, inside⟩
    exact ⟨⟨a, b, inclusive⟩, ofText?_eq_some_iff.mpr ⟨low, high, written, readLow, readHigh⟩,
      (containsNumber_iff _ x).mpr inside⟩

/-- A string matches a number if and only if it is a range, its upper bound is a number above it,
and its lower bound is a number below it or at it, or else says that it is no number. -/
theorem range_pattern (s : String) (x : Float) : Value.fits (.string s) (.number x) = true ↔
    ∃ low high inclusive, RangeText s.toList low high inclusive ∧
      ((∃ a, Bound (Text.trim low) a ∧ a ≤ x) ∨ NaNWord (Text.trim low)) ∧
      ∃ b, Bound (Text.trim high) b ∧ Below inclusive x b := by
  rw [fits_iff]
  constructor
  · rintro ⟨low, high, inclusive, a, b, written, readLow, readHigh, above, below⟩
    have numbers := below.isNaN
    refine ⟨low, high, inclusive, written, ?_, b, ?_, below⟩
    · rcases bound_of_bound? readLow with bound | ⟨isNaN, -⟩
      · exact .inl ⟨a, bound, (le_iff_not_lt bound.isNaN numbers.1).mpr above⟩
      · exact .inr isNaN
    · rcases bound_of_bound? readHigh with bound | ⟨-, isNaN⟩
      · exact bound
      · exact absurd (numbers.2.symm.trans isNaN) Bool.false_ne_true
  · rintro ⟨low, high, inclusive, written, above, b, bound, below⟩
    have numbers := below.isNaN
    obtain ⟨a, readLow, noLess⟩ : ∃ a, bound? (Text.trim low) = some a ∧ ¬ x < a := by
      rcases above with ⟨a, lower, above⟩ | isNaN
      · exact ⟨a, lower.read, (le_iff_not_lt lower.isNaN numbers.1).mp above⟩
      · obtain ⟨a, read, none⟩ := bound?_nan isNaN
        exact ⟨a, read, (unordered (.inr none)).1⟩
    exact ⟨low, high, inclusive, a, b, written, readLow, bound.read, noLess, below⟩

/-- A lower bound that is no number keeps nothing out. -/
theorem nan_bound_matches :
    Value.fits (.string "nan..5") (.number 1.0) = true ∧
      ¬ ∃ low high inclusive a b, RangeText "nan..5".toList low high inclusive ∧
        Bound (Text.trim low) a ∧ Bound (Text.trim high) b ∧ a ≤ 1.0 ∧ Below inclusive 1.0 b := by
  refine ⟨by decide, ?_⟩
  rintro ⟨low, high, inclusive, a, b, written, lower, upper, -⟩
  have read : ofText? "nan..5" = some ⟨a, b, inclusive⟩ :=
    ofText?_eq_some_iff.mpr ⟨low, high, written, lower.read, upper.read⟩
  have nan : (ofText? "nan..5").map Range.low = some Number.nan := by decide
  rw [read] at nan
  cases nan
  have number := lower.isNaN
  revert number
  decide

end Range
end DocExpr
