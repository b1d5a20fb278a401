import DocExpr.Library.Dispatch
import DocExpr.Proofs.Evaluation.Run
import DocExpr.Proofs.Text.Separation
import DocExpr.Proofs.Text.Utf8
import Mathlib.Data.List.Basic

/-! Percent-coding undone by percent-decoding. The code of a text is what is left of the escapes of
a stricter coder once the escapes of five marks are written back one after the other: none of them
is found across two escapes. A code stands for no text if a percent sign is stray in it or if its
bytes are not UTF-8, and else for the text of its bytes. -/
namespace DocExpr.Text.Percent
open Number (hexDigit hexValue?)

/-- The letters and digits of ASCII, and the marks that every coder keeps. -/
def strictlyUnreserved (c : Char) : Bool := c.isAlphanum || "-_.~".toList.contains c

/-- The characters that stand for themselves in a component. -/
def unreserved (c : Char) : Bool := strictlyUnreserved c || "!'()*".toList.contains c

/-- The digits of escapes that are written. -/
def upperHexDigits : List Char := "0123456789ABCDEF".toList

/-- The digits of escapes that are read. -/
def hexDigits : List Char := upperHexDigits ++ "abcdef".toList

/-- The escape of a byte. -/
def escape (b : UInt8) : List Char :=
  ['%', upperHexDigits.getD (b.toNat / 16) '0', upperHexDigits.getD (b.toNat % 16) '0']

/-- A character, or the escapes of its bytes if it is not kept. -/
def escapedChar (kept : Char → Bool) (c : Char) : List Char :=
  if kept c then [c] else (String.utf8EncodeChar c).flatMap escape

/-- A text with the bytes of all characters escaped that are not kept. -/
def escaped (kept : Char → Bool) (cs : List Char) : List Char := cs.flatMap (escapedChar kept)

/-- The escapes of five marks written back, one mark after the other. -/
def marksRestored (cs : List Char) : List Char :=
  [("%21", '!'), ("%27", '\''), ("%28", '('), ("%29", ')'), ("%2A", '*')].foldl
    (fun cs (code, mark) => replaceAll code.toList [mark] cs) cs

/-- A percent sign stands somewhere without two hexadecimal digits behind it. -/
def StrayPercent (cs : List Char) : Prop :=
  ∃ front rest, cs = front ++ '%' :: rest ∧
    ¬ ∃ high ∈ hexDigits, ∃ low ∈ hexDigits, ∃ more, rest = high :: low :: more

/-- The bytes with the byte of each escape in its place. What is no escape is left. -/
def unescaped : List UInt8 → List UInt8
  | 37 :: high :: low :: rest =>
    match hexValue? high.toNat, hexValue? low.toNat with
    | some h, some l => UInt8.ofNat (16 * h + l) :: unescaped rest
    | _, _ => 37 :: unescaped (high :: low :: rest)
  | b :: rest => b :: unescaped rest
  | [] => []

theorem all_hexDigits : (hexDigits.all fun c => decide (c ≠ '%' ∧ c.toNat ≤ 127 ∧
    (hexValue? (UInt8.ofNat c.toNat).toNat).isSome = true)) = true := by
  decide

/-- A digit is no percent sign, and as a byte it has a value. -/
theorem hexDigit_plain {c : Char} (isDigit : c ∈ hexDigits) : c ≠ '%' ∧ c.toNat ≤ 127 ∧
    ∃ v, hexValue? (UInt8.ofNat c.toNat).toNat = some v := by
  obtain ⟨other, narrow, some⟩ := of_decide_eq_true (List.all_eq_true.mp all_hexDigits c isDigit)
  exact ⟨other, narrow, Option.isSome_iff_exists.mp some⟩

theorem upperHexDigits_getD : ∀ i < 16,
    upperHexDigits.getD i '0' ∈ hexDigits ∧
      hexValue? (UInt8.ofNat (upperHexDigits.getD i '0').toNat).toNat = some i := by
  decide

theorem escape_digits (b : UInt8) :
    ∃ high ∈ hexDigits, ∃ low ∈ hexDigits, escape b = ['%', high, low] := by
  have small := b.toNat_lt
  exact ⟨_, (upperHexDigits_getD _ (by omega)).1, _, (upperHexDigits_getD _ (by omega)).1, rfl⟩

/-- A digit that is written tells its value. -/
theorem upperHexDigits_inj {i j : Nat} (small : i < 16) (small' : j < 16)
    (same : upperHexDigits.getD i '0' = upperHexDigits.getD j '0') : i = j := by
  have value := (upperHexDigits_getD i small).2
  rw [same, (upperHexDigits_getD j small').2] at value
  exact (Option.some.inj value).symm

theorem escape_inj {a b : UInt8} (same : escape a = escape b) : a = b := by
  have smallA := a.toNat_lt
  have smallB := b.toNat_lt
  simp only [escape, List.cons.injEq, true_and, and_true] at same
  have high := upperHexDigits_inj (by omega) (by omega) same.1
  have low := upperHexDigits_inj (by omega) (by omega) same.2
  exact UInt8.toNat_inj.mp (by omega)

theorem marks_narrow : ("-_.!~*'()".toList.all fun c => decide (c.toNat ≤ 127)) = true := by decide

theorem unreserved_eq (c : Char) :
    unreserved c = (c.isAlphanum || "-_.!~*'()".toList.contains c) := by
  have strict : "-_.~".toList = ['-', '_', '.', '~'] := rfl
  have added : "!'()*".toList = ['!', '\'', '(', ')', '*'] := rfl
  have all : "-_.!~*'()".toList = ['-', '_', '.', '!', '~', '*', '\'', '(', ')'] := rfl
  simp only [unreserved, strictlyUnreserved, strict, added, all, List.contains_cons,
    List.contains_nil, Bool.or_false]
  ac_rfl

theorem narrow_of_unreserved {c : Char} (kept : unreserved c = true) : c.toNat ≤ 127 := by
  rw [unreserved_eq, Bool.or_eq_true] at kept
  rcases kept with alphanum | mark
  · change ((decide (c.val ≥ 65 ∧ c.val ≤ 90) || c.val ≥ 97 && c.val ≤ 122) ||
      (c.val ≥ 48 && c.val ≤ 57)) = true at alphanum
    simp only [Bool.or_eq_true, Bool.and_eq_true, decide_eq_true_eq, UInt32.le_iff_toNat_le,
      ge_iff_le] at alphanum
    change (65 ≤ c.toNat ∧ c.toNat ≤ 90 ∨ 97 ≤ c.toNat ∧ c.toNat ≤ 122) ∨
      48 ≤ c.toNat ∧ c.toNat ≤ 57 at alphanum
    omega
  · exact of_decide_eq_true (List.all_eq_true.mp marks_narrow c (List.contains_iff_mem.mp mark))

theorem toNat_ofNat_byte (b : UInt8) : (Char.ofNat b.toNat).toNat = b.toNat := by
  have small := b.toNat_lt
  exact toNat_ofNat (.inl (by omega))

theorem hexDigit_eq : ∀ n < 16, hexDigit 'A' n = upperHexDigits.getD n '0' := by decide

theorem encodeByte_eq (b : UInt8) : encodeByte b =
    if unreserved (Char.ofNat b.toNat) then [Char.ofNat b.toNat] else escape b := by
  have small := b.toNat_lt
  rw [encodeByte, unreserved_eq, hexDigit_eq _ (by omega), hexDigit_eq _ (by omega)]
  rfl

/-- A character is written by itself or by the escapes of its bytes. -/
theorem encode_char (c : Char) :
    (String.utf8EncodeChar c).flatMap encodeByte = escapedChar unreserved c := by
  unfold escapedChar
  by_cases narrow : c.toNat ≤ 127
  · have value : (UInt8.ofNat c.toNat).toNat = c.toNat :=
      UInt8.toNat_ofNat_of_lt' (Nat.lt_of_le_of_lt narrow (by decide))
    rw [utf8EncodeChar_narrow narrow, List.flatMap_singleton, List.flatMap_singleton,
      encodeByte_eq, value, Char.ofNat_toNat]
  · have wide : 127 < c.toNat := Nat.lt_of_not_le narrow
    rw [if_neg (mt narrow_of_unreserved narrow)]
    refine List.flatMap_congr fun b isIn => ?_
    have large := utf8EncodeChar_wide wide b isIn
    have other : ¬ unreserved (Char.ofNat b.toNat) = true := fun kept => by
      have narrow := narrow_of_unreserved kept
      rw [toNat_ofNat_byte] at narrow
      omega
    rw [encodeByte_eq, if_neg other]

theorem encode_eq (s : String) : encode s = String.ofList (escaped unreserved s.toList) := by
  rw [encode, toList_toUTF8, utf8, List.flatMap_assoc]
  simp only [encode_char]
  rfl

theorem ne_percent {kept : Char → Bool} {c : Char} (noPercent : kept '%' = false)
    (isKept : kept c = true) : c ≠ '%' := by
  rintro rfl
  rw [noPercent] at isKept
  cases isKept

section
variable (a : UInt8) (replacement : List Char)

theorem replaceLoop_other {c : Char} (other : c ≠ '%') (rest : List Char) :
    replaceLoop (escape a) replacement 0 (c :: rest) =
      c :: replaceLoop (escape a) replacement 0 rest := by
  have differs : ¬ startsWith (escape a) (c :: rest) = true := by
    intro starts
    obtain ⟨more, text⟩ := List.isPrefixOf_iff_prefix.mp starts
    exact other (List.cons.inj text).1.symm
  rw [replaceLoop, if_neg differs]

/-- In a row of escapes the loop goes from one to the next. -/
theorem replaceLoop_escape {b : UInt8} (other : b ≠ a) (rest : List Char) :
    replaceLoop (escape a) replacement 0 (escape b ++ rest) =
      escape b ++ replaceLoop (escape a) replacement 0 rest := by
  have differs : ¬ startsWith (escape a) (escape b ++ rest) = true := by
    intro starts
    obtain ⟨more, text⟩ := List.isPrefixOf_iff_prefix.mp starts
    exact other (escape_inj (List.append_inj_left text.symm rfl))
  obtain ⟨high, isHigh, low, isLow, digits⟩ := escape_digits b
  rw [digits, List.cons_append] at differs ⊢
  rw [replaceLoop, if_neg differs, List.cons_append,
    replaceLoop_other a replacement (hexDigit_plain isHigh).1, List.cons_append,
    replaceLoop_other a replacement (hexDigit_plain isLow).1]
  rfl

theorem replaceLoop_escapes {bytes : List UInt8} (others : a ∉ bytes) (rest : List Char) :
    replaceLoop (escape a) replacement 0 (bytes.flatMap escape ++ rest) =
      bytes.flatMap escape ++ replaceLoop (escape a) replacement 0 rest := by
  induction bytes with
  | nil => rfl
  | cons b bytes ih =>
    obtain ⟨other, others⟩ := not_or.mp (mt List.mem_cons.mpr others)
    rw [List.flatMap_cons, List.append_assoc, replaceLoop_escape a replacement (Ne.symm other),
      ih others, List.append_assoc]

end

/-- What is written back is kept, and nothing else is touched. -/
theorem replaceLoop_mark {kept : Char → Bool} {mark : Char} (narrow : mark.toNat ≤ 127)
    (noPercent : kept '%' = false) (cs : List Char) :
    replaceLoop (escape (UInt8.ofNat mark.toNat)) [mark] 0 (escaped kept cs) =
      escaped (fun c => kept c || c == mark) cs := by
  induction cs with
  | nil => rfl
  | cons c cs ih =>
    rw [escaped, List.flatMap_cons, escaped, List.flatMap_cons, ← escaped, ← escaped, ← ih,
      escapedChar, escapedChar]
    by_cases isKept : kept c = true
    · rw [if_pos isKept, if_pos (by simp [isKept])]
      exact replaceLoop_other _ _ (ne_percent noPercent isKept) _
    rw [if_neg isKept]
    by_cases isMark : c = mark
    · rw [if_pos (by simp [isMark]), isMark, utf8EncodeChar_narrow narrow, List.flatMap_singleton]
      exact replaceLoop_here _ (List.cons_ne_nil _ _) _
    · rw [if_neg (by simp [isKept, isMark])]
      exact replaceLoop_escapes _ _ (mt (eq_of_mem_utf8EncodeChar narrow) isMark) _

/-- Where the escapes of the marks are written back, the text is coded with these kept too. -/
theorem marksRestored_escaped (cs : List Char) :
    marksRestored (escaped strictlyUnreserved cs) = escaped unreserved cs := by
  have stage {kept : Char → Bool} {mark : Char} (code : String)
      (isCode : code.toList = escape (UInt8.ofNat mark.toNat)) (narrow : mark.toNat ≤ 127)
      (noPercent : kept '%' = false) : replaceAll code.toList [mark] (escaped kept cs) =
        escaped (fun c => kept c || c == mark) cs := by
    rw [isCode, ← replaceLoop_mark narrow noPercent]
    rfl
  have added : "!'()*".toList = ['!', '\'', '(', ')', '*'] := rfl
  have all : unreserved = fun c => strictlyUnreserved c || c == '!' || c == '\'' || c == '(' ||
      c == ')' || c == '*' := by
    funext c
    simp only [unreserved, added, List.contains_cons, List.contains_nil, Bool.or_false,
      Bool.or_assoc]
  unfold marksRestored
  simp only [List.foldl_cons, List.foldl_nil]
  rw [stage "%21" (by decide) (by decide) (by decide),
    stage "%27" (by decide) (by decide) (by decide),
    stage "%28" (by decide) (by decide) (by decide),
    stage "%29" (by decide) (by decide) (by decide),
    stage "%2A" (by decide) (by decide) (by decide), all]

theorem decodeBytes_other {b : UInt8} (other : b ≠ 37) (rest : List UInt8) :
    decodeBytes (b :: rest) = (decodeBytes rest).map (b :: ·) := by
  rw [decodeBytes.eq_def]
  dsimp only
  rw [if_neg other]
  cases decodeBytes rest <;> rfl

theorem decodeBytes_percent (high low : UInt8) (rest : List UInt8) :
    decodeBytes (37 :: high :: low :: rest) =
      (hexValue? high.toNat).bind fun h => (hexValue? low.toNat).bind fun l =>
        (decodeBytes rest).map (UInt8.ofNat (16 * h + l) :: ·) := by
  rw [decodeBytes.eq_def]
  dsimp only
  rw [if_pos rfl]
  cases decodeBytes rest <;> rfl

theorem unescaped_other {b : UInt8} (other : b ≠ 37) (rest : List UInt8) :
    unescaped (b :: rest) = b :: unescaped rest := by
  rw [unescaped.eq_def]
  split
  next same => exact absurd (List.cons.inj same).1 other
  next same => cases same; rfl
  next same => cases same

section
variable {bytes : List UInt8} (noPercent : 37 ∉ bytes) (rest : List UInt8)
include noPercent

theorem decodeBytes_append : decodeBytes (bytes ++ rest) = (decodeBytes rest).map (bytes ++ ·) := by
  induction bytes with
  | nil => exact Option.map_id'.symm
  | cons b bytes ih =>
    obtain ⟨other, others⟩ := not_or.mp (mt List.mem_cons.mpr noPercent)
    rw [List.cons_append, decodeBytes_other (Ne.symm other), ih others, Option.map_map]
    rfl

theorem unescaped_append : unescaped (bytes ++ rest) = bytes ++ unescaped rest := by
  induction bytes with
  | nil => rfl
  | cons b bytes ih =>
    obtain ⟨other, others⟩ := not_or.mp (mt List.mem_cons.mpr noPercent)
    rw [List.cons_append, unescaped_other (Ne.symm other), ih others, List.cons_append]

end

theorem percent_notMem {c : Char} (other : c ≠ '%') : 37 ∉ String.utf8EncodeChar c :=
  mt (eq_of_mem_utf8EncodeChar (a := '%') (by decide)) other

/-- What an escape stands for. -/
theorem decodeBytes_escape (b : UInt8) (rest : List UInt8) :
    decodeBytes (utf8 (escape b) ++ rest) = (decodeBytes rest).map (b :: ·) := by
  have small := b.toNat_lt
  have digit {i : Nat} (few : i < 16) : String.utf8EncodeChar (upperHexDigits.getD i '0') =
      [UInt8.ofNat (upperHexDigits.getD i '0').toNat] :=
    utf8EncodeChar_narrow (hexDigit_plain (upperHexDigits_getD i few).1).2.1
  have value : UInt8.ofNat (16 * (b.toNat / 16) + b.toNat % 16) = b := by
    rw [Nat.div_add_mod, UInt8.ofNat_toNat]
  have bytes : utf8 (escape b) ++ rest =
      37 :: UInt8.ofNat (upperHexDigits.getD (b.toNat / 16) '0').toNat ::
        UInt8.ofNat (upperHexDigits.getD (b.toNat % 16) '0').toNat :: rest := by
    rw [escape, utf8, List.flatMap_cons, List.flatMap_cons, List.flatMap_singleton,
      digit (by omega), digit (by omega)]
    rfl
  rw [bytes, decodeBytes_percent, (upperHexDigits_getD _ (by omega)).2,
    (upperHexDigits_getD _ (by omega)).2, Option.bind_some, Option.bind_some, value]

theorem decodeBytes_escapes (bytes rest : List UInt8) :
    decodeBytes (utf8 (bytes.flatMap escape) ++ rest) = (decodeBytes rest).map (bytes ++ ·) := by
  induction bytes with
  | nil => exact Option.map_id'.symm
  | cons b bytes ih =>
    rw [List.flatMap_cons, utf8_append, List.append_assoc, decodeBytes_escape, ih, Option.map_map]
    rfl

/-- The code of a text stands for its bytes. -/
theorem decodeBytes_escaped {kept : Char → Bool} (noPercent : kept '%' = false) (cs : List Char) :
    decodeBytes (utf8 (escaped kept cs)) = some (utf8 cs) := by
  induction cs with
  | nil => rfl
  | cons c cs ih =>
    rw [escaped, List.flatMap_cons, utf8_append, ← escaped, utf8_cons, escapedChar]
    split
    next isKept =>
      rw [utf8, List.flatMap_singleton,
        decodeBytes_append (percent_notMem (ne_percent noPercent isKept)), ih]
      rfl
    next =>
      rw [decodeBytes_escapes, ih]
      rfl

section
variable {c : Char} {cs : List Char}

theorem not_strayPercent_nil : ¬ StrayPercent [] := by
  rintro ⟨front, rest, text, -⟩
  exact absurd text.symm (List.append_ne_nil_of_right_ne_nil _ (List.cons_ne_nil _ _))

theorem strayPercent_other (other : c ≠ '%') : StrayPercent (c :: cs) ↔ StrayPercent cs := by
  constructor
  · rintro ⟨front, rest, text, bare⟩
    cases front with
    | nil => exact absurd (List.cons.inj text).1 other
    | cons d front => exact ⟨front, rest, (List.cons.inj text).2, bare⟩
  · rintro ⟨front, rest, rfl, bare⟩
    exact ⟨c :: front, rest, rfl, bare⟩

theorem strayPercent_escape {high low : Char} (isHigh : high ∈ hexDigits)
    (isLow : low ∈ hexDigits) : StrayPercent ('%' :: high :: low :: cs) ↔ StrayPercent cs := by
  have behind : StrayPercent cs ↔ StrayPercent (high :: low :: cs) := by
    rw [strayPercent_other (hexDigit_plain isHigh).1, strayPercent_other (hexDigit_plain isLow).1]
  rw [behind]
  constructor
  · rintro ⟨front, rest, text, bare⟩
    cases front with
    | nil =>
      obtain rfl := (List.cons.inj text).2
      exact absurd ⟨high, isHigh, low, isLow, cs, rfl⟩ bare
    | cons d front => exact ⟨front, rest, (List.cons.inj text).2, bare⟩
  · rintro ⟨front, rest, text, bare⟩
    exact ⟨'%' :: front, rest, congrArg ('%' :: ·) text, bare⟩

/-- A byte that has the value of a digit is the character of the digit. -/
theorem hexDigit_of_byte {b : UInt8} {v : Nat} {bytes : List UInt8}
    (value : hexValue? b.toNat = some v) (starts : utf8 cs = b :: bytes) :
    ∃ c ∈ hexDigits, ∃ rest, cs = c :: rest ∧ bytes = utf8 rest := by
  cases cs with
  | nil => cases starts
  | cons c rest =>
    rw [utf8_cons] at starts
    rcases utf8EncodeChar_cases c with ⟨narrow, whole⟩ | ⟨-, first, more, whole, wide⟩
    · rw [whole] at starts
      obtain ⟨rfl, rfl⟩ := List.cons.inj starts
      have all : ∀ n < 128,
          (hexValue? (UInt8.ofNat n).toNat).isSome = true → Char.ofNat n ∈ hexDigits := by
        decide +kernel
      have isDigit := all c.toNat (by omega) (by rw [value]; rfl)
      rw [Char.ofNat_toNat] at isDigit
      exact ⟨c, isDigit, rest, rfl, rfl⟩
    · rw [whole] at starts
      obtain rfl := (List.cons.inj starts).1
      have none : hexValue? first.toNat = none := by
        rw [hexValue?, if_neg (by omega), if_neg (by omega), if_neg (by omega)]
      rw [none] at value
      cases value

/-- A code ends in front of a percent sign without its two digits. -/
theorem decodeBytes_bare
    (bare : ¬ ∃ high ∈ hexDigits, ∃ low ∈ hexDigits, ∃ more, cs = high :: low :: more) :
    decodeBytes (37 :: utf8 cs) = none := by
  cases bytes : utf8 cs with
  | nil => rfl
  | cons first bytes' =>
    cases bytes' with
    | nil => rfl
    | cons second more =>
      rw [decodeBytes_percent]
      cases high : hexValue? first.toNat with
      | none => rfl
      | some =>
        cases low : hexValue? second.toNat with
        | none => rfl
        | some =>
          obtain ⟨c, isHigh, rest, rfl, behind⟩ := hexDigit_of_byte high bytes
          obtain ⟨d, isLow, rest, rfl, -⟩ := hexDigit_of_byte low behind.symm
          exact absurd ⟨c, isHigh, d, isLow, rest, rfl⟩ bare

end

/-- A text stands for its bytes with the escapes replaced, unless a percent sign is stray in it. -/
theorem decodeBytes_utf8 (cs : List Char) :
    StrayPercent cs ∧ decodeBytes (utf8 cs) = none ∨
      ¬ StrayPercent cs ∧ decodeBytes (utf8 cs) = some (unescaped (utf8 cs)) := by
  -- on the length of the text, since an escape is three characters
  induction size : cs.length using Nat.strong_induction_on generalizing cs with
  | _ n ih =>
  cases cs with
  | nil => exact .inr ⟨not_strayPercent_nil, rfl⟩
  | cons c cs =>
    rw [List.length_cons] at size
    by_cases other : c ≠ '%'
    · have plain := percent_notMem other
      rw [strayPercent_other other, utf8_cons, decodeBytes_append plain, unescaped_append plain]
      rcases ih cs.length (by omega) cs rfl with ⟨stray, none⟩ | ⟨sound, some⟩
      · exact .inl ⟨stray, by rw [none, Option.map_none]⟩
      · exact .inr ⟨sound, by rw [some, Option.map_some]⟩
    obtain rfl := not_not.mp other
    have sign : utf8 ('%' :: cs) = 37 :: utf8 cs := rfl
    by_cases escapes : ∃ high ∈ hexDigits, ∃ low ∈ hexDigits, ∃ more, cs = high :: low :: more
    · obtain ⟨high, isHigh, low, isLow, more, rfl⟩ := escapes
      obtain ⟨-, narrowHigh, h, valueHigh⟩ := hexDigit_plain isHigh
      obtain ⟨-, narrowLow, l, valueLow⟩ := hexDigit_plain isLow
      rw [strayPercent_escape isHigh isLow, sign, utf8_cons, utf8_cons,
        utf8EncodeChar_narrow narrowHigh, utf8EncodeChar_narrow narrowLow, List.singleton_append,
        List.singleton_append, decodeBytes_percent, unescaped, valueHigh, valueLow]
      rw [List.length_cons, List.length_cons] at size
      rcases ih more.length (by omega) more rfl with ⟨stray, none⟩ | ⟨sound, some⟩
      · exact .inl ⟨stray, by rw [none]; rfl⟩
      · exact .inr ⟨sound, by rw [some]; rfl⟩
    · exact .inl ⟨⟨[], cs, rfl, escapes⟩, by rw [sign, decodeBytes_bare escapes]⟩

theorem decode?_encode (s : String) : decode? (encode s) = some s := by
  have noPercent : unreserved '%' = false := by decide
  have bytes := decodeBytes_escaped noPercent s.toList
  rw [decode?, encode_eq, toList_toUTF8, String.toList_ofList, bytes]
  exact fromUTF8?_eq_some_iff.mpr rfl

/-- A code stands for the text of its bytes. -/
theorem decode?_eq_some_iff {s t : String} :
    decode? t = some s ↔ ¬ StrayPercent t.toList ∧ utf8 s.toList = unescaped (utf8 t.toList) := by
  rw [decode?, toList_toUTF8]
  rcases decodeBytes_utf8 t.toList with ⟨stray, none⟩ | ⟨sound, some⟩
  · rw [none]
    exact iff_of_false (fun same => by cases same) fun right => right.1 stray
  · rw [some]
    exact fromUTF8?_eq_some_iff.trans (and_iff_right sound).symm

/-- A code stands for no text if a percent sign is stray in it or no text has its bytes. -/
theorem decode?_eq_none_iff {t : String} : decode? t = none ↔
    StrayPercent t.toList ∨ ¬ ∃ s : String, utf8 s.toList = unescaped (utf8 t.toList) := by
  constructor
  · intro none
    refine or_iff_not_imp_left.mpr fun sound isText => ?_
    obtain ⟨s, bytes⟩ := isText
    rw [decode?_eq_some_iff.mpr ⟨sound, bytes⟩] at none
    cases none
  · intro fails
    refine Option.eq_none_iff_forall_ne_some.mpr fun s found => ?_
    obtain ⟨sound, bytes⟩ := decode?_eq_some_iff.mp found
    rcases fails with stray | noText
    · exact sound stray
    · exact noText ⟨s, bytes⟩

end DocExpr.Text.Percent

namespace DocExpr.Library
open Text (utf8)
open Text.Percent

/-- What a text is coded as stands for it. The code keeps the unreserved characters and escapes the
bytes of all others, as a strict coder does whose escapes of five marks are written back. A text
that is decoded gives null where a percent sign is stray in it or where the bytes that it stands for
are those of no text, and else the text that has these bytes. -/
theorem components_coded (host : Host) (root : Value) :
    (∀ s : String, ∃ code : String,
      callGlobal host root "encodeURIComponent" [.string s] = pure (.string code) ∧
        code.toList = escaped unreserved s.toList ∧
        code.toList = marksRestored (escaped strictlyUnreserved s.toList) ∧
        callGlobal host root "decodeURIComponent" [.string code] = pure (.string s)) ∧
      ∀ code : String,
        (callGlobal host root "decodeURIComponent" [.string code] = pure .null ↔
          StrayPercent code.toList ∨
            ¬ ∃ s : String, utf8 s.toList = unescaped (utf8 code.toList)) ∧
        ∀ s : String, callGlobal host root "decodeURIComponent" [.string code] = pure (.string s) ↔
          ¬ StrayPercent code.toList ∧ utf8 s.toList = unescaped (utf8 code.toList) := by
  have encoded (s : String) : callGlobal host root "encodeURIComponent" [.string s] =
      pure (.string (encode s)) := rfl
  have decoded (code : String) : callGlobal host root "decodeURIComponent" [.string code] =
      pure ((decode? code).elim .null .string) := by
    have argument : textArg [.string code] 0 = code := rfl
    change GlobalFunction.decodeComponent.run host root [.string code] = _
    rw [GlobalFunction.run, argument]
    cases decode? code <;> rfl
  refine ⟨fun s => ⟨encode s, encoded s, ?_, ?_, ?_⟩, fun code => ⟨?_, fun s => ?_⟩⟩
  · rw [encode_eq, String.toList_ofList]
  · rw [marksRestored_escaped, encode_eq, String.toList_ofList]
  · rw [decoded, decode?_encode]
    rfl
  · rw [decoded, ← decode?_eq_none_iff]
    refine ⟨fun null => ?_, fun none => by rw [none]; rfl⟩
    have null := EvalM.pure_injective null
    cases found : decode? code with
    | none => rfl
    | some => rw [found] at null; cases null
  · rw [decoded, ← decode?_eq_some_iff]
    refine ⟨fun text => ?_, fun some => by rw [some]; rfl⟩
    have text := EvalM.pure_injective text
    cases found : decode? code with
    | none => rw [found] at text; cases text
    | some => rw [found] at text; rw [Value.string.inj text]

end DocExpr.Library
