import DocExpr.Library.Dispatch
import DocExpr.Proofs.Calendar.Standard
import DocExpr.Proofs.Json.Reading
import DocExpr.Proofs.Lexer.Mark
import Mathlib.Data.String.Basic

/-! How many bytes the texts have that the library cuts out of others, puts together within a limit,
or decodes. -/
namespace DocExpr

namespace Text
open List (Sublist)

theorem trimLeft_sublist (cs : List Char) : Sublist (trimLeft cs) cs := List.dropWhile_sublist _

theorem trimRight_sublist (cs : List Char) : Sublist (trimRight cs) cs := by
  have kept := List.dropWhile_sublist isBlank (l := cs.reverse)
  simpa only [trimRight, List.reverse_reverse] using kept.reverse

theorem trim_sublist (cs : List Char) : Sublist (trim cs) cs :=
  (trimRight_sublist _).trans (trimLeft_sublist cs)

end Text

namespace Library
open List (Sublist)

theorem between_sublist (cs : List Char) (start stop : Nat) : Sublist (between cs start stop) cs :=
  (List.take_sublist _ _).trans (List.drop_sublist _ _)

theorem charAtText_sublist (cs : List Char) (args : List Value) :
    Sublist (charAtText cs args) cs := by
  unfold charAtText
  split
  · exact between_sublist cs _ _
  · exact List.nil_sublist cs

theorem substrText_sublist (cs : List Char) (args : List Value) :
    Sublist (substrText cs args) cs :=
  (List.take_sublist _ _).trans (List.drop_sublist _ _)

theorem size_ofList_le {s : String} {cs : List Char} (sublist : Sublist cs s.toList) :
    (String.ofList cs).utf8ByteSize ≤ s.utf8ByteSize := by
  rw [String.utf8ByteSize_ofList, ← String.utf8Len_toList]
  exact String.utf8Len_le_of_sublist sublist

variable {limit : Nat}

theorem checkLength_ok {length : Nat} {u : Unit} (ok : checkLength length limit = .ok u) :
    length ≤ limit := by
  unfold checkLength at ok
  split at ok
  · cases ok
  · omega

theorem appendAll_size {s t : String} {vs : List Value} (short : s.utf8ByteSize ≤ limit)
    (ok : appendAll limit s vs = .ok t) : t.utf8ByteSize ≤ limit := by
  induction vs generalizing s with
  | nil =>
    cases ok
    exact short
  | cons v vs ih =>
    obtain ⟨_, fits, ok⟩ := Expr.ok_of_bind ok
    refine ih ?_ ok
    rw [String.utf8ByteSize_append]
    exact checkLength_ok fits

theorem appendTimes_size (piece s : String) (times : Nat) :
    (appendTimes piece times s).utf8ByteSize = s.utf8ByteSize + piece.utf8ByteSize * times := by
  induction times generalizing s with
  | zero => rfl
  | succ times ih =>
    rw [appendTimes, ih, String.utf8ByteSize_append, Nat.mul_succ]
    omega

/-- The product of the check is held at the largest 64-bit number, so a limit as large allows
every text. -/
theorem repeatText_size {s : String} {count : Float} {v : Value} (room : limit < Nat.pow 2 64 - 1)
    (ok : repeatText limit s count = .ok v) :
    ∃ t : String, v = .string t ∧ t.utf8ByteSize ≤ limit := by
  unfold repeatText at ok
  dsimp only at ok
  split at ok
  · cases ok
  · obtain ⟨_, fits, ok⟩ := Expr.ok_of_bind ok
    have size := checkLength_ok fits
    split at ok
    · cases ok
    cases ok
    refine ⟨_, rfl, ?_⟩
    split
    next empty =>
      rw [String.isEmpty_iff_utf8ByteSize_eq_zero.mp empty]
      exact Nat.zero_le limit
    next =>
      rw [appendTimes_size, String.utf8ByteSize_empty]
      omega

end Library

namespace Text.Percent

theorem decodeBytes_length {bytes decoded : List UInt8} (found : decodeBytes bytes = some decoded) :
    decoded.length ≤ bytes.length := by
  induction bytes using decodeBytes.induct generalizing decoded with
  | case1 =>
    cases found
    exact Nat.le_refl _
  | case2 high low rest ih =>
    simp only [decodeBytes, if_true] at found
    obtain ⟨_, -, found⟩ := Option.bind_eq_some_iff.mp found
    obtain ⟨_, -, found⟩ := Option.bind_eq_some_iff.mp found
    obtain ⟨others, left, found⟩ := Option.bind_eq_some_iff.mp found
    cases found
    have shorter := ih left
    simp only [List.length_cons]
    omega
  | case3 rest short =>
    unfold decodeBytes at found
    rw [if_pos rfl] at found
    split at found
    next high low rest => exact absurd rfl (short high low rest)
    next => cases found
  | case4 b rest noMark ih =>
    unfold decodeBytes at found
    rw [if_neg noMark] at found
    obtain ⟨others, left, found⟩ := Option.bind_eq_some_iff.mp found
    cases found
    exact Nat.succ_le_succ (ih left)

theorem length_toList_loop (bytes : ByteArray) (i : Nat) (done : List UInt8) :
    (ByteArray.toList.loop bytes i done).length = done.length + (bytes.size - i) := by
  induction i, done using ByteArray.toList.loop.induct bytes with
  | case1 i done more ih =>
    rw [ByteArray.toList.loop, if_pos more, ih, List.length_cons]
    omega
  | case2 i done ends =>
    rw [ByteArray.toList.loop, if_neg ends, List.length_reverse]
    omega

theorem decode?_size {s t : String} (found : decode? s = some t) :
    t.utf8ByteSize ≤ s.utf8ByteSize := by
  obtain ⟨bytes, decoded, found⟩ := Option.bind_eq_some_iff.mp found
  have shorter := decodeBytes_length decoded
  rw [ByteArray.toList, length_toList_loop, List.length_nil, Nat.zero_add] at shorter
  unfold String.fromUTF8? at found
  split at found
  · cases found
    exact shorter
  · cases found

end Text.Percent

namespace Json

theorem Piece.size {pairs : Bool} {cs : List Char} {c : Char} (piece : Piece pairs cs c) :
    c.utf8Size ≤ String.utf8Len cs := by
  have fourAtMost := c.utf8Size_le_four
  have oneAtLeast := fun c : Char => c.utf8Size_pos
  cases piece with
  | plain => simp
  | @short c x stands =>
    unfold shortEscape? at stands
    split at stands <;> cases stands <;> decide
  | unit | pair =>
    simp only [String.utf8Len_cons, String.utf8Len_nil]
    grind

theorem Content.size {pairs : Bool} {cs xs : List Char} (content : Content pairs cs xs) :
    String.utf8Len xs ≤ String.utf8Len cs := by
  induction content with
  | done => exact Nat.le_refl _
  | piece first others ih =>
    have := first.size
    simp only [String.utf8Len_cons, String.utf8Len_append]
    omega

/-- A text that is read as a string has it between quotes. -/
theorem quoted_of_readJson? {text s : String} (found : Value.readJson? text = some (.string s)) :
    ∃ before cs after, text.toList = before ++ ('"' :: (cs ++ ['"']) ++ after) ∧ Blank before ∧
      Content true cs s.toList := by
  obtain ⟨j, read, same⟩ := Option.map_eq_some_iff.mp found
  have spelled := spells_of_read? read
  generalize text.toList = cs at spelled
  obtain ⟨front, inner, back⟩ := spelled
  cases j with
  | string =>
    cases same
    cases inner with
    | scalar scalar =>
      cases scalar with
      | string content => exact ⟨_, _, _, rfl, front, content⟩
  | _ => cases same

theorem readJson?_size {text s : String} (found : Value.readJson? text = some (.string s)) :
    s.utf8ByteSize ≤ text.utf8ByteSize := by
  obtain ⟨before, cs, after, whole, -, content⟩ := quoted_of_readJson? found
  have size := content.size
  rw [← String.utf8Len_toList, ← String.utf8Len_toList, whole]
  simp only [String.utf8Len_append, String.utf8Len_cons]
  omega

/-- The text starts with what no string starts with, nor white space. -/
def OpensNoString (cs : List Char) : Prop := ∀ c ∈ cs.head?, c ≠ '"' ∧ isSpace c = false

theorem OpensNoString.readJson? {text s : String} (opens : OpensNoString text.toList) :
    Value.readJson? text ≠ some (.string s) := by
  intro found
  obtain ⟨before, cs, after, whole, blank, -⟩ := quoted_of_readJson? found
  rw [whole] at opens
  cases before with
  | nil => exact (opens '"' rfl).1 rfl
  | cons c before =>
    have solid := (opens c rfl).2
    rw [blank c List.mem_cons_self] at solid
    cases solid

theorem OpensNoString.of_all {cs : List Char} (all : ∀ c ∈ cs, c ≠ '"' ∧ isSpace c = false) :
    OpensNoString cs :=
  fun c isHead => all c (List.mem_of_mem_head? isHead)

theorem OpensNoString.cons {c : Char} (noQuote : c ≠ '"') (solid : isSpace c = false)
    (cs : List Char) : OpensNoString (c :: cs) := by
  intro d isHead
  cases isHead
  exact ⟨noQuote, solid⟩

theorem toText_opensNoString (x : Float) : OpensNoString (Number.toText x).toList := by
  cases finite : Number.isFinite x with
  | true =>
    have part := (Number.toText_signedNumeral finite).part
    refine .of_all fun c isIn => ⟨?_, ?_⟩
    · rintro rfl
      exact absurd (part _ isIn) (by decide)
    · refine Bool.eq_false_iff.mpr fun space => ?_
      have stops := partOfNumeral_of_isSpace space
      rw [part c isIn] at stops
      cases stops
  | false =>
    unfold Number.isFinite at finite
    unfold Number.toText
    split at finite
    next => cases finite
    next other =>
      split
      · exact .cons (by decide) (by decide) _
      · split
        · exact .cons (by decide) (by decide) _
        · exact .cons (by decide) (by decide) _
      · next found => exact absurd found (other _ _ _)

theorem isoText_opensNoString (d : Calendar.Date) : OpensNoString d.isoText.toList := by
  refine .of_all fun c isIn => ?_
  have standard := Calendar.isStandard_isoText d c isIn
  refine ⟨?_, ?_⟩
  · rintro rfl
    exact absurd standard (by decide)
  · refine Bool.eq_false_iff.mpr fun space => ?_
    have isIn := mem_of_isSpace space
    simp only [List.mem_cons, List.not_mem_nil, or_false] at isIn
    rcases isIn with rfl | rfl | rfl | rfl <;> exact absurd standard (by decide)

/-- Only a string can have a display text that is read as a string. -/
theorem display_opensNoString {v : Value} (noString : ∀ s, v ≠ .string s) :
    OpensNoString v.display.toList := by
  cases v with
  | string s => exact absurd rfl (noString s)
  | number x => exact toText_opensNoString x
  | date d => exact isoText_opensNoString d
  | regex pattern flags =>
    simp only [Value.display, String.toList_append]
    exact .cons (by decide) (by decide) _
  | bool b =>
    cases b with
    | true => exact .cons (by decide) (by decide) ['r', 'u', 'e']
    | false => exact .cons (by decide) (by decide) ['a', 'l', 's', 'e']
  | null => exact .cons (by decide) (by decide) ['u', 'l', 'l']
  | lambda f =>
    rw [Value.display]
    exact .cons (c := '[') (by decide) (by decide) ['f', 'u', 'n', 'c', 't', 'i', 'o', 'n', ']']
  | array | object =>
    simp only [Value.display, Value.compact, String.toList_ofList, List.cons_append]
    exact .cons (by decide) (by decide) _

end Json
end DocExpr
