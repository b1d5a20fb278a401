import DocExpr.Proofs.Number.Leading
import DocExpr.Proofs.Text.Utf8

/-! The numeral at the front of a text found by a scan over the bytes of the text. The scan looks
for single characters only, so no cut that it makes falls inside a character, and what it cuts out
is the longest numeral. -/
namespace DocExpr.Number
open Text (byteCount byteCount_append utf8 sliceBytes? overOne overAll Narrow Reaches narrow_one)

/-- A sign. -/
def isSign (c : Char) : Bool := c == '+' || c == '-'

/-- The byte of a sign. -/
def isSignByte (b : UInt8) : Bool := b == 0x2b || b == 0x2d

/-- The byte of a digit. -/
def isDigitByte (b : UInt8) : Bool := 0x30 ≤ b && b ≤ 0x39

/-- The byte of a point. -/
def isPointByte (b : UInt8) : Bool := b == 0x2e

/-- The byte of an exponent mark. -/
def isMarkByte (b : UInt8) : Bool := b == 0x65 || b == 0x45

/-- Behind digits, and behind a point and the digits that follow it. -/
def overPointed (bs : List UInt8) (i : Nat) : Nat :=
  let whole := overAll isDigitByte bs i
  if (bs[whole]?).any isPointByte then overAll isDigitByte bs (whole + 1) else whole

/-- Behind an exponent, if one with digits stands there. -/
def overExponent (bs : List UInt8) (i : Nat) : Nat :=
  let signed := overOne isSignByte bs (i + 1)
  let stop := overAll isDigitByte bs signed
  if (bs[i]?).any isMarkByte ∧ signed < stop then stop else i

/-- Where bytes are cut to take a numeral off their front. -/
structure Cuts where
  /-- Behind the sign. -/
  sign : Nat
  /-- Behind the digits and the point. -/
  digits : Nat
  /-- Behind the exponent. -/
  stop : Nat

/-- Scans a numeral byte by byte. -/
def scanBytes (bs : List UInt8) : Cuts :=
  let sign := overOne isSignByte bs 0
  let digits := overPointed bs sign
  ⟨sign, digits, overExponent bs digits⟩

/-- The numeral at the front of a text, cut out by the scan over its bytes; none if a cut is inside
a character. -/
def scannedNumeral? (s : String) : Option Float :=
  let cs := Text.trimLeft s.toList
  let unsigned := cs.dropWhile isSign
  if "Infinity".toList <+: unsigned ∧ byteCount cs - byteCount unsigned ≤ 1 then
    some (if cs.head? = some '-' then -infinity else infinity)
  else
    let cuts := scanBytes (utf8 cs)
    if cuts.digits = cuts.sign then some nan
    else
      (sliceBytes? cuts.sign cuts.digits cs).bind fun digits =>
        if digits = ['.'] then some nan
        else (sliceBytes? 0 cuts.stop cs).map fun numeral => (ofNumeral? numeral).getD nan

theorem narrow_sign : Narrow isSignByte isSign :=
  (narrow_one (a := '+') (by decide)).or (narrow_one (a := '-') (by decide))

theorem narrow_point : Narrow isPointByte (· == '.') := narrow_one (a := '.') (by decide)

theorem narrow_mark : Narrow isMarkByte fun c => c == 'e' || c == 'E' :=
  (narrow_one (a := 'e') (by decide)).or (narrow_one (a := 'E') (by decide))

theorem narrow_digit : Narrow isDigitByte isDigit where
  low := by
    intro c one
    have byte : (UInt8.ofNat c.toNat).toNat = c.toNat := by
      rw [UInt8.toNat_ofNat']
      omega
    have digit : isDigit c = (decide (48 ≤ c.toNat) && decide (c.toNat ≤ 57)) := rfl
    rw [digit, isDigitByte, Bool.eq_iff_iff]
    simp only [Bool.and_eq_true, decide_eq_true_eq, UInt8.le_iff_toNat_le, byte]
    rfl
  high := by
    intro b large
    rw [isDigitByte, Bool.and_eq_false_iff]
    right
    simp only [decide_eq_false_iff_not, UInt8.le_iff_toNat_le]
    change ¬ b.toNat ≤ 57
    omega
  wide := by
    intro c more
    rw [isDigit, Bool.and_eq_false_iff]
    right
    rw [decide_eq_false_iff_not]
    change ¬ c.toNat ≤ 57
    omega

theorem spanSign_eq (cs : List Char) :
    spanSign cs = (cs.head?.any (· == '-'), if cs.head?.any isSign then cs.tail else cs) := by
  unfold spanSign
  split
  · rfl
  · rfl
  next noMinus noPlus =>
    cases cs with
    | nil => rfl
    | cons c cs =>
      have minus : c ≠ '-' := fun same => noMinus cs (by rw [same])
      have plus : c ≠ '+' := fun same => noPlus cs (by rw [same])
      simp [isSign, minus, plus]

theorem rest_spanPoint (cs : List Char) : (spanPoint cs).2.2 =
    if (cs.dropWhile isDigit).head?.any (· == '.') then
      (cs.dropWhile isDigit).tail.dropWhile isDigit
    else cs.dropWhile isDigit := by
  obtain ⟨digits, rest, rfl, all, ends⟩ := Json.exists_digits cs
  rw [Json.dropWhile_front all ends]
  by_cases point : '.' ∈ rest.head?
  · obtain ⟨rest, rfl⟩ : ∃ more, rest = '.' :: more := List.head?_eq_some_iff.mp point
    rw [spanPoint_point all]
    rfl
  · rw [spanPoint_plain all ends point, if_neg]
    cases rest with
    | nil => exact Bool.false_ne_true
    | cons c rest =>
      intro found
      apply point
      rw [beq_iff_eq.mp found]
      rfl

theorem rest_spanExponent? (rest : List Char) : ((spanExponent? rest).map (·.2)).getD rest =
    if rest.head?.any (fun c => c == 'e' || c == 'E') ∧
      (spanSign rest.tail).2.takeWhile isDigit ≠ [] then
      (spanSign rest.tail).2.dropWhile isDigit
    else rest := by
  unfold spanExponent?
  cases rest with
  | nil => rfl
  | cons c rest =>
    by_cases isMark : c = 'e' ∨ c = 'E'
    · have isMark' : (c == 'e' || c == 'E') = true := by simpa using isMark
      cases signed : spanSign rest with
      | mk negative more =>
      cases digits : more.takeWhile isDigit with
      | nil => simp [isMark, signed, spanDigits, digits]
      | cons d ds => simp [isMark, isMark', signed, spanDigits, digits]
    · have isMark' : (c == 'e' || c == 'E') = false := by simpa using isMark
      simp [isMark, isMark']

section
variable {cs rest : List Char} {i : Nat} (reaches : Reaches cs i rest)
include reaches

theorem reaches_overSign : Reaches cs (overOne isSignByte (utf8 cs) i) (spanSign rest).2 := by
  rw [spanSign_eq]
  exact reaches.overOne narrow_sign

theorem reaches_overPointed : Reaches cs (overPointed (utf8 cs) i) (spanPoint rest).2.2 := by
  have whole := reaches.overAll narrow_digit
  have behind := whole.overOne narrow_point
  rw [overOne, whole.getElem?, narrow_point.head] at behind
  rw [rest_spanPoint]
  unfold overPointed
  dsimp only
  rw [whole.getElem?, narrow_point.head]
  by_cases found : (rest.dropWhile isDigit).head?.any (· == '.') = true
  · rw [if_pos found, if_pos found] at behind
    rw [if_pos found, if_pos found]
    exact behind.overAll narrow_digit
  · rw [if_neg found, if_neg found]
    exact whole

theorem reaches_overExponent : Reaches cs (overExponent (utf8 cs) i)
    (((spanExponent? rest).map (·.2)).getD rest) := by
  rw [rest_spanExponent?]
  unfold overExponent
  dsimp only
  rw [reaches.getElem?, narrow_mark.head]
  by_cases marked : rest.head?.any (fun c => c == 'e' || c == 'E') = true
  · have tail := reaches.overOne narrow_mark
    rw [overOne, reaches.getElem?, narrow_mark.head, if_pos marked, if_pos marked] at tail
    have signed := reaches_overSign tail
    have stop := signed.overAll narrow_digit
    have some : (spanSign rest.tail).2.takeWhile isDigit ≠ [] ↔
        overOne isSignByte (utf8 cs) (i + 1) <
          overAll isDigitByte (utf8 cs) (overOne isSignByte (utf8 cs) (i + 1)) := by
      rw [← List.length_pos_iff, ← narrow_digit.run, ← signed.drop]
      exact (Nat.lt_add_right_iff_pos).symm
    by_cases digits : (spanSign rest.tail).2.takeWhile isDigit ≠ []
    · rw [if_pos ⟨marked, some.mp digits⟩, if_pos ⟨marked, digits⟩]
      exact stop
    · rw [if_neg (fun both => digits (some.mpr both.2)), if_neg (fun both => digits both.2)]
      exact reaches
  · rw [if_neg (fun both => marked both.1), if_neg (fun both => marked both.1)]
    exact reaches

end

/-- The cuts of a scan fall between characters: behind the sign, behind the digits with their point
and behind the exponent. -/
theorem scan_reaches (cs : List Char) :
    Reaches cs (scanBytes (utf8 cs)).sign (spanSign cs).2 ∧
      Reaches cs (scanBytes (utf8 cs)).digits (spanPoint (spanSign cs).2).2.2 ∧
      Reaches cs (scanBytes (utf8 cs)).stop
        (((spanExponent? (spanPoint (spanSign cs).2).2.2).map (·.2)).getD
          (spanPoint (spanSign cs).2).2.2) := by
  have sign := reaches_overSign (Reaches.start cs)
  have digits := reaches_overPointed sign
  exact ⟨sign, digits, reaches_overExponent digits⟩

/-- Signs are stripped from the front and an infinity taken behind one at most, which is where the
reader takes one. -/
theorem infinity_behind_signs (cs : List Char) :
    ("Infinity".toList <+: cs.dropWhile isSign ∧
      byteCount cs - byteCount (cs.dropWhile isSign) ≤ 1) ↔
        "Infinity".toList <+: (spanSign cs).2 := by
  have size {c : Char} (sign : isSign c = true) : c.utf8Size = 1 := narrow_sign.size sign
  have solid {more : List Char} {c : Char} (sign : isSign c = true) :
      ¬ "Infinity".toList <+: c :: more := by
    rintro ⟨tail, same⟩
    have first : c = 'I' := by simpa using (congrArg List.head? same).symm
    rw [first] at sign
    cases sign
  rw [spanSign_eq]
  dsimp only
  cases cs with
  | nil => simp [byteCount]
  | cons c cs =>
    rw [List.head?_cons, Option.any_some, List.tail_cons]
    by_cases sign : isSign c = true
    · rw [List.dropWhile_cons_of_pos sign, if_pos sign]
      cases cs with
      | nil => simp [byteCount, size sign]
      | cons d cs =>
        by_cases sign' : isSign d = true
        · have fewer : byteCount (cs.dropWhile isSign) ≤ byteCount cs := by
            have whole := byteCount_append (cs.takeWhile isSign) (cs.dropWhile isSign)
            rw [List.takeWhile_append_dropWhile] at whole
            omega
          rw [List.dropWhile_cons_of_pos sign']
          simp only [byteCount, size sign, size sign']
          constructor
          · rintro ⟨-, short⟩
            omega
          · intro starts
            exact absurd starts (solid sign')
        · rw [List.dropWhile_cons_of_neg sign']
          simp [byteCount, size sign]
    · rw [List.dropWhile_cons_of_neg sign, if_neg sign]
      simp

/-- Digits with a point are more than the point. -/
theorem ne_point_of_digits {whole point fraction : List Char} (some : whole ++ fraction ≠ [])
    (all : ∀ c ∈ whole, isDigit c = true)
    (noFraction : point = [] ∧ fraction = [] ∨ point = ['.']) :
    whole ++ point ++ fraction ≠ ['.'] := by
  intro only
  rcases noFraction with ⟨rfl, rfl⟩ | rfl
  · rw [List.append_nil, List.append_nil] at only
    have digit := all '.' (only ▸ List.mem_singleton_self _)
    cases digit
  · have length := congrArg List.length only
    simp only [List.length_append, List.length_singleton] at length
    apply some
    rw [List.append_eq_nil_iff, ← List.length_eq_zero_iff, ← List.length_eq_zero_iff]
    omega

section
variable {s : String} {cs : List Char} (text : Text.trimLeft s.toList = cs)
include text

theorem scannedNumeral?_infinity (starts : "Infinity".toList <+: (spanSign cs).2) :
    scannedNumeral? s = some (leadingNumeral s) := by
  unfold scannedNumeral?
  dsimp only
  rw [text, if_pos ((infinity_behind_signs cs).mpr starts)]
  obtain ⟨more, tail⟩ := starts
  obtain ⟨mark, split, isMark⟩ := sign_spanSign cs
  rw [← tail] at split
  rw [leadingNumeral_infinity isMark (text.trans split), spanSign_eq]
  cases cs with
  | nil => simp
  | cons c cs => simp

theorem scannedNumeral?_finite (noInfinity : ¬ "Infinity".toList <+: (spanSign cs).2) :
    scannedNumeral? s = some (leadingNumeral s) := by
  obtain ⟨sign, digits, stop⟩ := scan_reaches cs
  obtain ⟨read, unread⟩ := leadingNumeral_finite (text ▸ noInfinity)
  rw [text] at read unread
  unfold scannedNumeral?
  dsimp only
  rw [text, if_neg (fun both => noInfinity ((infinity_behind_signs cs).mp both))]
  cases span : spanPoint (spanSign cs).2 with
  | mk whole behind =>
  obtain ⟨fraction, rest⟩ := behind
  obtain ⟨point, parts, all, noFraction⟩ := spanPoint_parts span
  rw [span] at digits stop
  dsimp only at digits stop
  have cut := sign.slice parts digits
  have place := digits.unique (sign.further parts)
  by_cases none : whole ++ fraction = []
  · obtain ⟨rfl, rfl⟩ := List.append_eq_nil_iff.mp none
    rw [unread (afterNumeral?_pointless rfl span)]
    rw [List.nil_append, List.append_nil] at cut place
    rcases noFraction with ⟨rfl, -⟩ | rfl
    · rw [byteCount, Nat.add_zero] at place
      rw [if_pos place]
    · have apart : (scanBytes (utf8 cs)).digits ≠ (scanBytes (utf8 cs)).sign := by
        rw [place]
        exact Nat.succ_ne_self _
      rw [if_neg apart, cut, Option.bind_some, if_pos rfl]
  · have found := afterNumeral?_of_spans rfl span none
    obtain ⟨front, x, split, literal⟩ := literal_of_afterNumeral? found
    have numeral := (Reaches.start cs).slice split stop
    have apart : (scanBytes (utf8 cs)).digits ≠ (scanBytes (utf8 cs)).sign := by
      intro same
      have count : byteCount (whole ++ point ++ fraction) = 0 := by omega
      rw [Text.byteCount_eq_zero_iff, List.append_assoc, List.append_eq_nil_iff,
        List.append_eq_nil_iff] at count
      exact none (List.append_eq_nil_iff.mpr ⟨count.1, count.2.2⟩)
    rw [read front _ x found split literal, if_neg apart, cut, Option.bind_some,
      if_neg (ne_point_of_digits none all noFraction), numeral, Option.map_some,
      ofNumeral?_eq_some_iff.mpr literal]
    rfl

end

/-- Every cut of the scan falls between two characters, and it gives the numeral that is read. -/
theorem scannedNumeral?_eq (s : String) : scannedNumeral? s = some (leadingNumeral s) := by
  by_cases starts : "Infinity".toList <+: (spanSign (Text.trimLeft s.toList)).2
  · exact scannedNumeral?_infinity rfl starts
  · exact scannedNumeral?_finite rfl starts

/-- A number is read off the front of a text exactly if one stands there, it is the value of the
longest front that is one, and no cut that the scan for it makes falls inside a character. -/
theorem leading_numeral_longest (s : String) :
    ((leadingNumeral s).isNaN = true ↔
      ∀ front x, LeadingForm front x → ¬ front <+: Text.trimLeft s.toList) ∧
    ((leadingNumeral s).isNaN = false →
      ∃ front, Leads (Text.trimLeft s.toList) front (leadingNumeral s)) ∧
    (∀ front x, Leads (Text.trimLeft s.toList) front x → leadingNumeral s = x) ∧
    scannedNumeral? s = some (leadingNumeral s) := by
  rcases leadingNumeral_cases s with ⟨front, leads⟩ | ⟨isNaN, nothing⟩
  · have number := leads.form.isNaN
    refine ⟨?_, fun _ => ⟨front, leads⟩, fun front' x leads' => leads.unique leads',
      scannedNumeral?_eq s⟩
    rw [number]
    constructor
    · rintro ⟨⟩
    · intro nothing
      exact absurd leads.starts (nothing front _ leads.form)
  · refine ⟨iff_of_true isNaN nothing, ?_, fun front x leads => ?_, scannedNumeral?_eq s⟩
    · intro number
      rw [isNaN] at number
      cases number
    · exact absurd leads.starts (nothing front x leads.form)

end DocExpr.Number
