import DocExpr.Proofs.Number.DecimalLiteral
import DocExpr.Value.Coercion

/-! The conversion of a text to a number. A blank text is zero, and infinities, hexadecimal integers
and decimal literals stand for their values; everything else is no number. The conversion departs
from this on hexadecimal digits only: it takes those of `2 ^ 63` and more for no number, and reads
those with a sign in front. -/
namespace DocExpr.Value
open Number (DecimalLiteral NearestDouble SignMark)

/-- Hexadecimal digits and the number that they write. -/
inductive HexValue : List Char → Nat → Prop where
  | nil : HexValue [] 0
  | snoc {digits : List Char} {n d : Nat} {c : Char} (front : HexValue digits n)
      (digit : Number.hexValue? c.toNat = some d) : HexValue (digits ++ [c]) (16 * n + d)

/-- A text that stands for a number, without the white space around it, and the double nearest to
that number. -/
inductive NumericText : List Char → Float → Prop where
  | blank : NumericText [] 0.0
  | infinity {sign : List Char} {negative : Bool} (isSign : SignMark sign negative) :
      NumericText (sign ++ "Infinity".toList)
        (if negative then -Number.infinity else Number.infinity)
  | hex {mark : Char} {digits : List Char} {n : Nat} {x : Float} (isMark : mark = 'x' ∨ mark = 'X')
      (some : digits ≠ []) (writes : HexValue digits n) (value : NearestDouble n x) :
      NumericText ('0' :: mark :: digits) x
  | decimal {cs : List Char} {x : Float} (literal : DecimalLiteral cs x) : NumericText cs x

/-- A text that is converted to something else than what it stands for, and what that is: the digits
behind the mark are read as a signed 64-bit integer. -/
inductive MisreadHex : List Char → Float → Prop where
  | large {mark : Char} {digits : List Char} {n : Nat} (isMark : mark = 'x' ∨ mark = 'X')
      (some : digits ≠ []) (writes : HexValue digits n) (large : 2 ^ 63 ≤ n) :
      MisreadHex ('0' :: mark :: digits) Number.nan
  | signed {mark : Char} {sign digits : List Char} {negative : Bool} {n : Nat} {i : Int}
      (isMark : mark = 'x' ∨ mark = 'X') (isSign : SignMark sign negative) (present : sign ≠ [])
      (some : digits ≠ []) (writes : HexValue digits n)
      (value : i = if negative then -(n : Int) else n)
      (fits : Number.minInt64 ≤ i ∧ i ≤ Number.maxInt64) :
      MisreadHex ('0' :: mark :: (sign ++ digits)) (Number.ofInt i)

theorem hexNumber?_concat (digits : List Char) (c : Char) : Number.hexNumber? (digits ++ [c]) =
    (Number.hexNumber? digits).bind fun n => (Number.hexValue? c.toNat).map (16 * n + ·) := by
  rw [Number.hexNumber?, List.foldlM_append]
  simp only [List.foldlM_cons, List.foldlM_nil, bind_pure]
  rfl

theorem hexNumber?_eq_some {digits : List Char} {n : Nat} :
    Number.hexNumber? digits = some n ↔ HexValue digits n := by
  induction digits using List.reverseRecOn generalizing n with
  | nil =>
    constructor
    · rintro ⟨⟩
      exact .nil
    · intro writes
      generalize none : ([] : List Char) = digits at writes
      cases writes with
      | nil => rfl
      | snoc => simp at none
  | append_singleton digits c ih =>
    rw [hexNumber?_concat]
    constructor
    · intro h
      obtain ⟨m, front, last⟩ := Option.bind_eq_some_iff.mp h
      obtain ⟨d, digit, rfl⟩ := Option.map_eq_some_iff.mp last
      exact .snoc (ih.mp front) digit
    · intro writes
      generalize whole : digits ++ [c] = cs at writes
      cases writes with
      | nil => simp at whole
      | snoc front digit =>
        obtain ⟨rfl, last⟩ := List.append_inj' whole rfl
        cases last
        rw [ih.mpr front]
        simp [digit]

theorem HexValue.unique {digits : List Char} {m n : Nat} (writes : HexValue digits m)
    (writes' : HexValue digits n) : m = n :=
  Option.some.inj ((hexNumber?_eq_some.mpr writes).symm.trans (hexNumber?_eq_some.mpr writes'))

theorem HexValue.digit {digits : List Char} {n : Nat} (writes : HexValue digits n) :
    ∀ c ∈ digits, (Number.hexValue? c.toNat).isSome := by
  induction writes with
  | nil => exact fun c isIn => absurd isIn List.not_mem_nil
  | snoc front digit ih =>
    refine List.forall_mem_append.mpr ⟨ih, List.forall_mem_singleton.mpr ?_⟩
    rw [digit]
    rfl

theorem HexValue.noSign {digits : List Char} {n : Nat} (writes : HexValue digits n) :
    ∀ c ∈ digits.head?, c ≠ '+' ∧ c ≠ '-' := by
  intro c isFirst
  have digit := writes.digit c (List.mem_of_head? isFirst)
  constructor
  all_goals
    rintro rfl
    cases digit

/-- Hexadecimal digits behind a sign, or behind none, are read if their value fits into 64 bits. -/
theorem hexInt?_digits {sign digits : List Char} {negative : Bool} {n : Nat} {i : Int}
    (isSign : SignMark sign negative) (some : digits ≠ []) (writes : HexValue digits n)
    (value : i = if negative then -(n : Int) else n) :
    hexInt? (sign ++ digits) =
      if Number.minInt64 ≤ i ∧ i ≤ Number.maxInt64 then .some i else none := by
  obtain ⟨d, more, rfl⟩ := List.exists_cons_of_ne_nil some
  unfold hexInt?
  rw [isSign.span writes.noSign, value]
  dsimp only
  rw [hexNumber?_eq_some.mpr writes]
  rfl

theorem hexInt?_reads {cs : List Char} {i : Int} (h : hexInt? cs = some i) :
    ∃ sign digits negative n, cs = sign ++ digits ∧ SignMark sign negative ∧ digits ≠ [] ∧
      HexValue digits n ∧ i = (if negative then -(n : Int) else n) ∧
      Number.minInt64 ≤ i ∧ i ≤ Number.maxInt64 := by
  obtain ⟨sign, split, isSign⟩ := Number.sign_spanSign cs
  unfold hexInt? at h
  generalize Number.spanSign cs = signed at h split isSign
  obtain ⟨negative, digits⟩ := signed
  dsimp only at h split isSign
  split at h
  next => cases h
  next some =>
    obtain ⟨n, writes, h⟩ := Option.bind_eq_some_iff.mp h
    obtain ⟨fits, same⟩ := Option.ite_none_right_eq_some.mp h
    cases same
    exact ⟨sign, digits, negative, n, split, isSign, some, hexNumber?_eq_some.mp writes, rfl, fits⟩

section
variable {s : String}

theorem numberOfText_hex {mark : Char} {cs : List Char} (isMark : mark = 'x' ∨ mark = 'X')
    (text : Text.trim s.toList = '0' :: mark :: cs) :
    numberOfText s = ((hexInt? cs).map Number.ofInt).getD Number.nan := by
  have found : (Text.dropPrefix? "0x".toList ('0' :: mark :: cs)).or
      (Text.dropPrefix? "0X".toList ('0' :: mark :: cs)) = some cs := by
    rcases isMark with rfl | rfl <;> rfl
  unfold numberOfText
  rw [text]
  dsimp only
  rw [if_neg (by simp), if_neg (by simp), if_neg (by simp), found]
  dsimp only
  cases hexInt? cs <;> rfl

theorem inNumeral_of_part {c : Char} (part : Number.partOfNumeral c = true) :
    inNumeral c = true := by
  simpa [Number.partOfNumeral, inNumeral, or_assoc] using part

/-- A text of digits, points, exponent marks and signs is left to the reader of numerals. -/
theorem numberOfText_part (some : Text.trim s.toList ≠ [])
    (part : ∀ c ∈ Text.trim s.toList, Number.partOfNumeral c = true) :
    numberOfText s = (Number.ofNumeral? (Text.trim s.toList)).getD Number.nan := by
  unfold numberOfText
  generalize Text.trim s.toList = cs at some part
  have other {c : Char} {ds : List Char} (isIn : c ∈ ds)
      (noPart : Number.partOfNumeral c = false) : cs ≠ ds := by
    rintro rfl
    rw [part c isIn] at noPart
    cases noPart
  have noPrefix {c : Char} {lead : List Char} (isIn : c ∈ lead)
      (noPart : Number.partOfNumeral c = false) : Text.dropPrefix? lead cs = none := by
    cases found : Text.dropPrefix? lead cs with
    | none => rfl
    | some rest =>
      have same := Text.dropPrefix?_eq_some_iff.mp found
      exact absurd same (other (List.mem_append_left rest isIn) noPart)
  have all : cs.all inNumeral = true :=
    List.all_eq_true.mpr fun c isIn => inNumeral_of_part (part c isIn)
  dsimp only
  rw [if_neg (by simpa using some), if_neg, if_neg (other (c := 'I') (by decide) rfl),
    noPrefix (c := 'x') (by decide) rfl, noPrefix (c := 'X') (by decide) rfl]
  · dsimp only [Option.or]
    rw [if_pos all]
  · exact not_or.mpr ⟨other (c := 'I') (by decide) rfl, other (c := 'I') (by decide) rfl⟩

theorem numberOfText_misread {x : Float} (misread : MisreadHex (Text.trim s.toList) x) :
    numberOfText s = x := by
  generalize text : Text.trim s.toList = cs at misread
  cases misread with
  | large isMark some writes large =>
    have read := hexInt?_digits .none some writes rfl
    rw [List.nil_append, if_neg] at read
    · rw [numberOfText_hex isMark text, read, Option.map_none, Option.getD_none]
    · rintro ⟨-, most⟩
      have : Number.maxInt64 = 2 ^ 63 - 1 := rfl
      simp only [Bool.false_eq_true, if_false] at most
      omega
  | signed isMark isSign present some writes value fits =>
    rw [numberOfText_hex isMark text, hexInt?_digits isSign some writes value, if_pos fits,
      Option.map_some, Option.getD_some]

theorem numberOfText_numeric {x : Float} (numeric : NumericText (Text.trim s.toList) x)
    (sound : ∀ y, ¬ MisreadHex (Text.trim s.toList) y) : numberOfText s = x := by
  generalize text : Text.trim s.toList = cs at numeric sound
  cases numeric with
  | blank =>
    unfold numberOfText
    rw [text]
    rfl
  | infinity isSign =>
    unfold numberOfText
    rw [text]
    cases isSign <;> rfl
  | @hex mark digits n _ isMark some writes value =>
    have small : n < 2 ^ 63 := by
      by_contra! large
      exact sound _ (.large isMark some writes large)
    have read := hexInt?_digits .none some writes rfl
    rw [List.nil_append, if_pos] at read
    · rw [numberOfText_hex isMark text, read]
      exact (Number.nearestDouble_ofNat n).unique value
    · have : Number.maxInt64 = 2 ^ 63 - 1 := rfl
      have : Number.minInt64 = -2 ^ 63 := rfl
      simp only [Bool.false_eq_true, if_false]
      omega
  | decimal literal =>
    have part := literal.part
    have some := literal.ne_nil
    rw [← text] at part some
    rw [numberOfText_part some part, text, Number.ofNumeral?_eq_some_iff.mpr literal]
    rfl

theorem isNaN_numberOfText (none : ∀ x, ¬ NumericText (Text.trim s.toList) x)
    (sound : ∀ y, ¬ MisreadHex (Text.trim s.toList) y) : (numberOfText s).isNaN = true := by
  have isNaN : Number.nan.isNaN = true := by decide
  unfold numberOfText
  generalize text : Text.trim s.toList = cs at none sound
  dsimp only
  split
  next empty =>
    rw [List.isEmpty_iff.mp empty] at none
    exact absurd .blank (none _)
  split
  next infinity =>
    rcases infinity with rfl | rfl
    · exact absurd (.infinity .none) (none _)
    · exact absurd (.infinity .plus) (none _)
  split
  next infinity =>
    subst infinity
    exact absurd (.infinity .minus) (none _)
  split
  next digits marked =>
    obtain ⟨mark, isMark, rfl⟩ :
        ∃ mark, (mark = 'x' ∨ mark = 'X') ∧ cs = '0' :: mark :: digits := by
      rcases Option.or_eq_some_iff.mp marked with small | ⟨-, capital⟩
      · exact ⟨'x', .inl rfl, Text.dropPrefix?_eq_some_iff.mp small⟩
      · exact ⟨'X', .inr rfl, Text.dropPrefix?_eq_some_iff.mp capital⟩
    split
    next i read =>
      obtain ⟨sign, digits, negative, n, rfl, isSign, some, writes, value, fits⟩ :=
        hexInt?_reads read
      by_cases present : sign = []
      · subst present
        exact absurd (.hex isMark some writes (Number.nearestDouble_ofNat n)) (none _)
      · exact absurd (.signed isMark isSign present some writes value fits) (sound _)
    next => exact isNaN
  next =>
    split
    next =>
      cases read : Number.ofNumeral? cs with
      | none => exact isNaN
      | some x => exact absurd (.decimal (Number.ofNumeral?_eq_some_iff.mp read)) (none x)
    next => exact isNaN

end

/-- A text is converted to the number that it stands for, and to no number if it stands for none,
unless it has hexadecimal digits that do not fit into 64 bits or stand behind a sign. -/
theorem text_to_number (s : String) :
    ((∀ y, ¬ MisreadHex (Text.trim s.toList) y) →
      (∀ x, NumericText (Text.trim s.toList) x → (Value.string s).toNumber = x) ∧
      ((∀ x, ¬ NumericText (Text.trim s.toList) x) → (Value.string s).toNumber.isNaN = true)) ∧
    ∀ y, MisreadHex (Text.trim s.toList) y → (Value.string s).toNumber = y :=
  ⟨fun sound => ⟨fun _ numeric => numberOfText_numeric numeric sound,
    fun none => isNaN_numberOfText none sound⟩, fun _ => numberOfText_misread⟩

/-- A decimal literal without digits in front of its point, and hexadecimal digits. -/
theorem literals_converted :
    (∀ y, ¬ MisreadHex (Text.trim " +.5e1 ".toList) y) ∧
      NumericText (Text.trim " +.5e1 ".toList) 5.0 ∧ (Value.string " +.5e1 ").toNumber = 5.0 ∧
    (∀ y, ¬ MisreadHex (Text.trim "0XfF".toList) y) ∧
      NumericText (Text.trim "0XfF".toList) 255.0 ∧ (Value.string "0XfF").toNumber = 255.0 := by
  have decimal : NumericText "+.5e1".toList 5.0 :=
    .decimal (Number.ofNumeral?_eq_some_iff.mp (by decide))
  have writes : HexValue "fF".toList 255 := hexNumber?_eq_some.mp (by decide)
  have hex : NumericText "0XfF".toList 255.0 :=
    .hex (.inr rfl) (by decide) writes (Number.nearestDouble_ofNat 255)
  have sound : ∀ y, ¬ MisreadHex "+.5e1".toList y := by
    intro y misread
    generalize text : "+.5e1".toList = cs at misread
    cases misread <;> cases text
  have sound' : ∀ y, ¬ MisreadHex "0XfF".toList y := by
    intro y misread
    generalize text : "0XfF".toList = cs at misread
    cases misread with
    | large _ _ writes' large =>
      cases text
      have := writes.unique writes'
      omega
    | signed _ isSign present => cases isSign <;> cases text; exact present rfl
  exact ⟨sound, decimal, ((text_to_number " +.5e1 ").1 sound).1 _ decimal, sound', hex,
    ((text_to_number "0XfF").1 sound').1 _ hex⟩

/-- Digits beyond 64 bits are taken for no number, and a sign behind the mark is read. -/
theorem hex_misread :
    (NumericText "0x8000000000000000".toList 9223372036854775808.0 ∧
      (Value.string "0x8000000000000000").toNumber.isNaN = true) ∧
    (∀ x, ¬ NumericText "0x-1F".toList x) ∧ (Value.string "0x-1F").toNumber = -31.0 := by
  refine ⟨⟨.hex (.inl rfl) (by decide) (hexNumber?_eq_some.mp (by decide : _ = some (2 ^ 63))) ?_,
    by decide⟩, fun x numeric => ?_, by decide⟩
  · have same : Float.ofNat (2 ^ 63) = 9223372036854775808.0 := by decide
    rw [← same]
    exact Number.nearestDouble_ofNat _
  · generalize text : "0x-1F".toList = cs at numeric
    cases numeric with
    | blank => cases text
    | infinity isSign => cases isSign <;> cases text
    | hex _ _ writes =>
      cases text
      exact (writes.noSign '-' rfl).2 rfl
    | decimal literal =>
      have part := literal.part 'x' (text ▸ by decide)
      cases part

end DocExpr.Value
