import DocExpr.Text.Bytes

/-! The bytes of a text in UTF-8. A test of bytes that finds no byte from 128 on finds single
characters only, so a scan that goes on by such tests stops between characters, and cuts there fall
inside none. -/
namespace DocExpr.Text

/-- A text in UTF-8. -/
def utf8 (cs : List Char) : List UInt8 := cs.flatMap String.utf8EncodeChar

/-- The part of a text between two of its bytes; none if one of them is inside a character. -/
def sliceBytes? (start stop : Nat) (cs : List Char) : Option (List Char) :=
  (cutBytes? stop cs).bind fun (front, _) => (cutBytes? start front).map (·.2)

/-- Behind one byte, if it passes a test. -/
def overOne (p : UInt8 → Bool) (bs : List UInt8) (i : Nat) : Nat :=
  if (bs[i]?).any p then i + 1 else i

/-- Behind all bytes that pass a test. -/
def overAll (p : UInt8 → Bool) (bs : List UInt8) (i : Nat) : Nat :=
  i + ((bs.drop i).takeWhile p).length

theorem toNat_ofNat {n : Nat} (valid : n.isValidChar) : (Char.ofNat n).toNat = n := by
  rw [Char.ofNat, dif_pos valid]
  rfl

/-- A character of one byte is that byte, and all others start with a byte that is none. -/
theorem utf8EncodeChar_cases (c : Char) :
    c.toNat ≤ 127 ∧ String.utf8EncodeChar c = [UInt8.ofNat c.toNat] ∨
      127 < c.toNat ∧ ∃ b bs, String.utf8EncodeChar c = b :: bs ∧ 128 ≤ b.toNat := by
  unfold String.utf8EncodeChar
  dsimp only
  change c.val.toNat ≤ 127 ∧ _ ∨ 127 < c.val.toNat ∧ _
  by_cases one : c.val.toNat ≤ 127
  · rw [if_pos one]
    exact .inl ⟨one, rfl⟩
  · refine .inr ⟨by omega, ?_⟩
    rw [if_neg one]
    split
    · refine ⟨_, _, rfl, ?_⟩
      rw [UInt8.toNat_ofNat']
      omega
    · split
      · refine ⟨_, _, rfl, ?_⟩
        rw [UInt8.toNat_ofNat']
        omega
      · refine ⟨_, _, rfl, ?_⟩
        rw [UInt8.toNat_ofNat']
        omega

theorem utf8EncodeChar_wide {c : Char} (wide : 127 < c.toNat) :
    ∀ b ∈ String.utf8EncodeChar c, 128 ≤ b.toNat := by
  have wide : ¬ c.val.toNat ≤ 127 := Nat.not_le_of_lt wide
  unfold String.utf8EncodeChar
  dsimp only
  rw [if_neg wide]
  intro b isIn
  split at isIn
  · simp only [List.mem_cons, List.not_mem_nil, or_false] at isIn
    rcases isIn with rfl | rfl <;> rw [UInt8.toNat_ofNat'] <;> omega
  · split at isIn
    · simp only [List.mem_cons, List.not_mem_nil, or_false] at isIn
      rcases isIn with rfl | rfl | rfl <;> rw [UInt8.toNat_ofNat'] <;> omega
    · simp only [List.mem_cons, List.not_mem_nil, or_false] at isIn
      rcases isIn with rfl | rfl | rfl | rfl <;> rw [UInt8.toNat_ofNat'] <;> omega

theorem utf8EncodeChar_narrow {c : Char} (narrow : c.toNat ≤ 127) :
    String.utf8EncodeChar c = [UInt8.ofNat c.toNat] := by
  rcases utf8EncodeChar_cases c with ⟨-, bytes⟩ | ⟨wide, -⟩
  · exact bytes
  · omega

/-- The byte of a character of one byte is in no other character. -/
theorem eq_of_mem_utf8EncodeChar {a c : Char} (narrow : a.toNat ≤ 127)
    (isIn : UInt8.ofNat a.toNat ∈ String.utf8EncodeChar c) : c = a := by
  have value {n : Nat} (small : n ≤ 127) : (UInt8.ofNat n).toNat = n :=
    UInt8.toNat_ofNat_of_lt' (Nat.lt_of_le_of_lt small (by decide))
  rcases utf8EncodeChar_cases c with ⟨narrow', bytes⟩ | ⟨wide, -⟩
  · rw [bytes, List.mem_singleton] at isIn
    have same := congrArg UInt8.toNat isIn
    rw [value narrow, value narrow'] at same
    exact Char.toNat_inj.mp same.symm
  · have large := utf8EncodeChar_wide wide _ isIn
    rw [value narrow] at large
    omega

theorem utf8_append (cs ds : List Char) : utf8 (cs ++ ds) = utf8 cs ++ utf8 ds :=
  List.flatMap_append

theorem utf8_cons (c : Char) (cs : List Char) :
    utf8 (c :: cs) = String.utf8EncodeChar c ++ utf8 cs :=
  List.flatMap_cons

theorem length_utf8 (cs : List Char) : (utf8 cs).length = byteCount cs := by
  induction cs with
  | nil => rfl
  | cons c cs ih =>
    rw [utf8, List.flatMap_cons, List.length_append, String.length_utf8EncodeChar, ← utf8, ih]
    rfl

theorem byteCount_eq_zero_iff {cs : List Char} : byteCount cs = 0 ↔ cs = [] := by
  cases cs with
  | nil => exact iff_of_true rfl rfl
  | cons c cs =>
    have pos := c.utf8Size_pos
    rw [byteCount]
    exact iff_of_false (by omega) (List.cons_ne_nil c cs)

theorem toList_loop (bytes : ByteArray) (i : Nat) (done : List UInt8) :
    ByteArray.toList.loop bytes i done = done.reverse ++ bytes.data.toList.drop i := by
  induction i, done using ByteArray.toList.loop.induct bytes with
  | case1 i done more ih =>
    have within : i < bytes.data.toList.length := more
    have here : bytes.get! i = bytes.data.toList[i] := getElem!_pos bytes.data i more
    rw [ByteArray.toList.loop, if_pos more, ih, List.reverse_cons, List.append_assoc,
      List.singleton_append, here, List.getElem_cons_drop within]
  | case2 i done ends =>
    have beyond : bytes.data.toList.length ≤ i := Nat.le_of_not_lt ends
    rw [ByteArray.toList.loop, if_neg ends, List.drop_eq_nil_of_le beyond, List.append_nil]

theorem toList_toUTF8 (s : String) : s.toUTF8.toList = utf8 s.toList := by
  rw [ByteArray.toList, toList_loop, List.reverse_nil, List.nil_append, List.drop_zero,
    String.toUTF8_eq_toByteArray, ← String.utf8Encode_toList, List.utf8Encode,
    List.data_toByteArray]
  rfl

/-- A text is found in bytes if and only if they are its bytes. -/
theorem fromUTF8?_eq_some_iff {bytes : List UInt8} {s : String} :
    String.fromUTF8? ⟨bytes.toArray⟩ = some s ↔ utf8 s.toList = bytes := by
  have own : s.toByteArray = (utf8 s.toList).toByteArray := String.utf8Encode_toList.symm
  have packed : (⟨bytes.toArray⟩ : ByteArray) = bytes.toByteArray :=
    ByteArray.ext List.data_toByteArray.symm
  rw [packed]
  unfold String.fromUTF8?
  constructor
  · intro found
    split at found
    next =>
      cases found
      have same : bytes.toByteArray.data.toList = (utf8 _).toByteArray.data.toList :=
        congrArg (fun a => a.data.toList) own
      rw [List.data_toByteArray, List.data_toByteArray] at same
      exact same.symm
    next => cases found
  · rintro rfl
    rw [← own, dif_pos s.isValidUTF8]
    rfl

/-- A test of bytes that finds the characters of one byte that a test of characters finds. -/
structure Narrow (p : UInt8 → Bool) (q : Char → Bool) : Prop where
  low : ∀ c : Char, c.toNat ≤ 127 → p (UInt8.ofNat c.toNat) = q c
  high : ∀ b : UInt8, 128 ≤ b.toNat → p b = false
  wide : ∀ c : Char, 127 < c.toNat → q c = false

section
variable {p : UInt8 → Bool} {q : Char → Bool} (narrow : Narrow p q)
include narrow

theorem Narrow.head (cs : List Char) : ((utf8 cs)[0]?).any p = cs.head?.any q := by
  cases cs with
  | nil => rfl
  | cons c cs =>
    rw [utf8, List.flatMap_cons]
    rcases utf8EncodeChar_cases c with ⟨one, bytes⟩ | ⟨more, b, bs, bytes, large⟩
    · rw [bytes]
      exact narrow.low c one
    · rw [bytes]
      exact (narrow.high b large).trans (narrow.wide c more).symm

theorem Narrow.run (cs : List Char) :
    ((utf8 cs).takeWhile p).length = (cs.takeWhile q).length := by
  induction cs with
  | nil => rfl
  | cons c cs ih =>
    rw [utf8, List.flatMap_cons]
    rcases utf8EncodeChar_cases c with ⟨one, bytes⟩ | ⟨more, b, bs, bytes, large⟩
    · rw [bytes, List.singleton_append, ← utf8, List.takeWhile_cons, List.takeWhile_cons,
        narrow.low c one]
      split
      · rw [List.length_cons, List.length_cons, ih]
      · rfl
    · rw [bytes, List.cons_append, List.takeWhile_cons, List.takeWhile_cons,
        narrow.high b large, narrow.wide c more]
      rfl

/-- A character is one byte if a narrow test finds it. -/
theorem Narrow.size {c : Char} (found : q c = true) : c.utf8Size = 1 := by
  rcases utf8EncodeChar_cases c with ⟨-, bytes⟩ | ⟨more, -⟩
  · rw [← String.length_utf8EncodeChar, bytes, List.length_singleton]
  · rw [narrow.wide c more] at found
    cases found

end

theorem narrow_one {a : Char} (ascii : a.toNat ≤ 127) :
    Narrow (· == UInt8.ofNat a.toNat) (· == a) where
  low := by
    intro c one
    rw [Bool.eq_iff_iff, beq_iff_eq, beq_iff_eq]
    constructor
    · intro same
      refine eq_of_mem_utf8EncodeChar ascii ?_
      rw [utf8EncodeChar_narrow one, List.mem_singleton, same]
    · rintro rfl
      rfl
  high := by
    intro b large
    rw [beq_eq_false_iff_ne]
    rintro rfl
    rw [UInt8.toNat_ofNat'] at large
    omega
  wide := by
    intro c more
    rw [beq_eq_false_iff_ne]
    rintro rfl
    omega

theorem Narrow.or {p p' : UInt8 → Bool} {q q' : Char → Bool} (narrow : Narrow p q)
    (narrow' : Narrow p' q') : Narrow (fun b => p b || p' b) (fun c => q c || q' c) where
  low := by
    intro c one
    rw [narrow.low c one, narrow'.low c one]
  high := by
    intro b large
    rw [narrow.high b large, narrow'.high b large, Bool.or_false]
  wide := by
    intro c more
    rw [narrow.wide c more, narrow'.wide c more, Bool.or_false]

/-- So many bytes of a text are the characters in front of the rest. -/
def Reaches (cs : List Char) (i : Nat) (rest : List Char) : Prop :=
  ∃ front, cs = front ++ rest ∧ byteCount front = i

theorem Reaches.start (cs : List Char) : Reaches cs 0 cs := ⟨[], rfl, rfl⟩

section
variable {cs rest : List Char} {i : Nat} (reaches : Reaches cs i rest)
include reaches

theorem Reaches.drop : (utf8 cs).drop i = utf8 rest := by
  obtain ⟨front, rfl, rfl⟩ := reaches
  rw [utf8, List.flatMap_append, ← utf8, ← utf8, ← length_utf8, List.drop_left]

theorem Reaches.getElem? : (utf8 cs)[i]? = (utf8 rest)[0]? := by
  rw [← reaches.drop, List.getElem?_drop, Nat.add_zero]

theorem Reaches.further {front more : List Char} (split : rest = front ++ more) :
    Reaches cs (i + byteCount front) more := by
  obtain ⟨before, rfl, rfl⟩ := reaches
  exact ⟨before ++ front, by rw [split, List.append_assoc], byteCount_append before front⟩

theorem Reaches.unique {j : Nat} (reaches' : Reaches cs j rest) : i = j := by
  obtain ⟨before, whole, rfl⟩ := reaches
  obtain ⟨before', whole', rfl⟩ := reaches'
  rw [List.append_cancel_right (whole.symm.trans whole')]

theorem Reaches.slice {front more : List Char} {j : Nat} (split : rest = front ++ more)
    (reaches' : Reaches cs j more) : sliceBytes? i j cs = some front := by
  obtain ⟨before, whole, rfl⟩ := reaches
  obtain ⟨before', whole', rfl⟩ := reaches'
  rw [split, ← List.append_assoc] at whole
  obtain rfl : before' = before ++ front := List.append_cancel_right (whole'.symm.trans whole)
  have cut := cutBytes?_front before front
  rw [sliceBytes?, whole', cutBytes?_front, Option.bind_some]
  dsimp only
  rw [cut]
  rfl

variable {p : UInt8 → Bool} {q : Char → Bool} (narrow : Narrow p q)
include narrow

theorem Reaches.overOne :
    Reaches cs (overOne p (utf8 cs) i) (if rest.head?.any q then rest.tail else rest) := by
  rw [Text.overOne, reaches.getElem?, narrow.head]
  cases rest with
  | nil => exact reaches
  | cons c rest =>
    rw [List.head?_cons, Option.any_some]
    by_cases found : q c = true
    · have further := reaches.further (List.singleton_append (x := c)).symm
      rw [if_pos found, if_pos found]
      rwa [byteCount, byteCount, narrow.size found] at further
    · rw [if_neg found, if_neg found]
      exact reaches

theorem Reaches.overAll :
    Reaches cs (overAll p (utf8 cs) i) (rest.dropWhile q) := by
  have size : byteCount (rest.takeWhile q) = (rest.takeWhile q).length := by
    apply byteCount_eq_length
    intro c isIn
    exact narrow.size (List.all_eq_true.mp List.all_takeWhile c isIn)
  rw [Text.overAll, reaches.drop, narrow.run, ← size]
  exact reaches.further List.takeWhile_append_dropWhile.symm

end
end DocExpr.Text
