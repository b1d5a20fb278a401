import DocExpr.Json.Reader
import DocExpr.Proofs.Number.Numeral

/-! What the reader of a document takes for a number is a numeral, and the same number whatever
follows that no numeral goes on with. Each part of the reader gives the text that it takes. -/
namespace DocExpr.Json
open DocExpr.Number (Digits Fraction Exponent Stops isDigit spanDigits spanSign)

/-- No digit stands in front. -/
def NoDigit (rest : List Char) : Prop := ∀ c ∈ rest.head?, isDigit c = false

theorem noDigit_of_stops {rest : List Char} (stops : Stops rest) : NoDigit rest := by
  intro c isIn
  refine Bool.eq_false_iff.mpr fun digit => ?_
  have := stops c isIn
  rw [Number.partOfNumeral_of_isDigit digit] at this
  cases this

theorem exists_digits (cs : List Char) :
    ∃ digits rest, cs = digits ++ rest ∧ (∀ c ∈ digits, isDigit c = true) ∧ NoDigit rest := by
  refine ⟨cs.takeWhile isDigit, cs.dropWhile isDigit, List.takeWhile_append_dropWhile.symm,
    fun c isIn => ?_, fun c isIn => ?_⟩
  · exact List.all_eq_true.mp List.all_takeWhile c isIn
  · have := List.head?_dropWhile_not isDigit cs
    rw [Option.mem_def.mp isIn] at this
    exact this

section
variable {p : Char → Bool} {front rest : List Char} (all : ∀ c ∈ front, p c = true)
  (ends : ∀ c ∈ rest.head?, p c = false)
include all ends

theorem takeWhile_front : (front ++ rest).takeWhile p = front := by
  rw [List.takeWhile_append_of_pos all]
  cases rest with
  | nil => exact List.append_nil _
  | cons c rest => rw [List.takeWhile_cons_of_neg (by simp [ends c rfl]), List.append_nil]

theorem dropWhile_front : (front ++ rest).dropWhile p = rest := by
  rw [List.dropWhile_append_of_pos all]
  cases rest with
  | nil => rfl
  | cons c rest => rw [List.dropWhile_cons_of_neg (by simp [ends c rfl])]

end

section
variable {digits rest : List Char} (all : ∀ c ∈ digits, isDigit c = true) (ends : NoDigit rest)
include all ends

theorem spanDigits_digits : spanDigits (digits ++ rest) = (digits, rest) := by
  rw [spanDigits, takeWhile_front all ends, dropWhile_front all ends]

/-- Digits are taken alike whatever follows them. -/
theorem takeDigits_digits (n count : Nat) :
    takeDigits n count (digits ++ rest) =
      ((takeDigits n count digits).1, (takeDigits n count digits).2.1,
        (takeDigits n count digits).2.2 ++ rest) := by
  induction digits generalizing n count with
  | nil =>
    cases rest with
    | nil => rfl
    | cons c rest =>
      have other : ¬ (isDigit c = true ∧ 10 * n + Number.digitValue c < Nat.pow 2 64) := by
        simp [ends c rfl]
      simp only [List.nil_append, takeDigits, if_neg other]
  | cons c digits ih =>
    have later : ∀ c ∈ digits, isDigit c = true := fun c isIn => all c (List.mem_cons_of_mem _ isIn)
    rw [List.cons_append, takeDigits, takeDigits]
    split
    · exact ih later _ _
    · rfl

end

theorem takeDigits_suffix (n count : Nat) (cs : List Char) :
    (takeDigits n count cs).2.2 <:+ cs := by
  fun_induction takeDigits n count cs with
  | case1 => exact List.suffix_rfl
  | case2 n count c cs fits ih => exact ih.trans (List.suffix_cons c cs)
  | case3 => exact List.suffix_rfl

theorem spanSign_digit {c : Char} (digit : isDigit c = true) (more : List Char) :
    spanSign (c :: more) = (false, c :: more) := by
  rw [spanSign]
  all_goals
    rintro rest same
    cases same
    cases digit

theorem spanSign_reads {cs rest : List Char} {down : Bool} (h : spanSign cs = (down, rest)) :
    ∃ sign, cs = sign ++ rest ∧ sign ∈ [[], ['-'], ['+']] ∧
      ∀ {c : Char} {more : List Char}, isDigit c = true →
        spanSign (sign ++ c :: more) = (down, c :: more) := by
  unfold spanSign at h
  split at h
  · cases h
    exact ⟨['-'], rfl, by decide, fun _ => rfl⟩
  · cases h
    exact ⟨['+'], rfl, by decide, fun _ => rfl⟩
  · cases h
    exact ⟨[], rfl, by decide, fun digit => spanSign_digit digit _⟩

section
variable {negative : Bool} {significand : Nat} {exponent : Int}

theorem finishExponent_plain {rest : List Char} (plain : ∀ c ∈ rest.head?, c ≠ 'e' ∧ c ≠ 'E') :
    finishExponent negative significand exponent rest =
      (ofParts negative significand exponent).map fun x => (x, rest) := by
  unfold finishExponent
  split
  next c rest =>
    have other : ¬ (c = 'e' ∨ c = 'E') := not_or.mpr (plain c rfl)
    rw [if_neg other]
    cases ofParts negative significand exponent <;> rfl
  next => cases ofParts negative significand exponent <;> rfl

theorem noMark_of_stops {rest : List Char} (stops : Stops rest) :
    ∀ c ∈ rest.head?, c ≠ 'e' ∧ c ≠ 'E' := by
  intro c isIn
  have part := stops c isIn
  constructor
  · rintro rfl
    cases part
  · rintro rfl
    cases part

theorem finishExponent_marked {c : Char} {cs rest : List Char} {x : Numeral}
    (isMark : c = 'e' ∨ c = 'E')
    (h : finishExponent negative significand exponent (c :: cs) = some (x, rest)) :
    ∃ t, cs = t ++ rest ∧ Exponent (c :: t) ∧ ∀ rest', Stops rest' →
      finishExponent negative significand exponent (c :: (t ++ rest')) = some (x, rest') := by
  rw [finishExponent, if_pos isMark] at h
  cases signed : spanSign cs with
  | mk down cs₁ =>
  obtain ⟨sign, rfl, isSign, again⟩ := spanSign_reads signed
  obtain ⟨digits, cs₂, rfl, all, ends⟩ := exists_digits cs₁
  rw [signed] at h
  dsimp only at h
  rw [spanDigits_digits all ends] at h
  cases digits with
  | nil => cases h
  | cons d digits =>
    have behind : Digits (d :: digits) := ⟨List.cons_ne_nil d digits, all⟩
    have left : cs₂ = rest := by
      dsimp only at h
      split at h
      · obtain ⟨y, -, h⟩ := Option.bind_eq_some_iff.mp h
        cases h
        rfl
      · split at h
        · cases h
        · cases h
          rfl
    subst left
    refine ⟨sign ++ (d :: digits), by simp, .mark isMark isSign behind, fun rest' stops => ?_⟩
    have signed' : spanSign (sign ++ (d :: digits ++ rest')) = (down, d :: digits ++ rest') :=
      again (all d List.mem_cons_self)
    rw [List.append_assoc, finishExponent, if_pos isMark, signed']
    dsimp only
    rw [spanDigits_digits all (noDigit_of_stops stops)]
    dsimp only at h ⊢
    split at h
    next few =>
      rw [if_pos few]
      obtain ⟨y, parts, h⟩ := Option.bind_eq_some_iff.mp h
      cases h
      rw [parts]
      rfl
    next many =>
      rw [if_neg many]
      split at h
      · cases h
      next fits =>
        cases h
        rw [if_neg fits]

/-- What is behind digits does not go on with digits or a point. -/
theorem exponent_ends {t rest : List Char} (mark : Exponent t) (stops : Stops rest) :
    NoDigit (t ++ rest) ∧ '.' ∉ (t ++ rest).head? := by
  cases mark with
  | none => exact ⟨noDigit_of_stops stops, fun isIn => nomatch stops '.' isIn⟩
  | mark isMark =>
    rcases isMark with rfl | rfl
    all_goals
      refine ⟨?_, fun isIn => nomatch isIn⟩
      rintro _ ⟨⟩
      rfl

theorem finishExponent_reads {cs rest : List Char} {x : Numeral}
    (h : finishExponent negative significand exponent cs = some (x, rest)) :
    ∃ t, cs = t ++ rest ∧ Exponent t ∧ ∀ rest', Stops rest' →
      finishExponent negative significand exponent (t ++ rest') = some (x, rest') := by
  by_cases plain : ∀ c ∈ cs.head?, c ≠ 'e' ∧ c ≠ 'E'
  · rw [finishExponent_plain plain] at h
    obtain ⟨y, parts, same⟩ := Option.map_eq_some_iff.mp h
    cases same
    refine ⟨[], rfl, .none, fun rest' stops => ?_⟩
    rw [List.nil_append, finishExponent_plain (noMark_of_stops stops), parts]
    rfl
  · cases cs with
    | nil => exact absurd (fun c none => nomatch none) plain
    | cons c cs =>
      have isMark : c = 'e' ∨ c = 'E' := by
        refine Classical.byContradiction fun other => plain ?_
        rintro _ ⟨⟩
        exact not_or.mp other
      obtain ⟨t, rfl, mark, again⟩ := finishExponent_marked isMark h
      exact ⟨c :: t, rfl, mark, again⟩

theorem finishFraction_digits {digits rest : List Char} (behind : Digits digits)
    (ends : NoDigit rest) :
    finishFraction negative significand exponent (digits ++ rest) =
      finishExponent negative (takeDigits significand 0 digits).1
        (exponent - (takeDigits significand 0 digits).2.1) rest := by
  have left : ∀ c ∈ (takeDigits significand 0 digits).2.2, isDigit c = true :=
    fun c isIn => behind.all c ((takeDigits_suffix significand 0 digits).subset isIn)
  unfold finishFraction
  rw [takeDigits_digits behind.all ends, takeWhile_front behind.all ends]
  dsimp only
  rw [dropWhile_front left ends, if_neg]
  simp [behind.some]

theorem finishFraction_reads {cs rest : List Char} {x : Numeral}
    (h : finishFraction negative significand exponent cs = some (x, rest)) :
    ∃ digits t, cs = digits ++ (t ++ rest) ∧ Digits digits ∧ Exponent t ∧ ∀ rest', Stops rest' →
      finishFraction negative significand exponent (digits ++ (t ++ rest')) = some (x, rest') := by
  obtain ⟨digits, cs₁, rfl, all, ends⟩ := exists_digits cs
  have behind : Digits digits := by
    refine ⟨fun none => ?_, all⟩
    unfold finishFraction at h
    rw [takeWhile_front all ends, none] at h
    cases h
  rw [finishFraction_digits behind ends] at h
  obtain ⟨t, rfl, mark, again⟩ := finishExponent_reads h
  refine ⟨digits, t, rfl, behind, mark, fun rest' stops => ?_⟩
  rw [finishFraction_digits behind (exponent_ends mark stops).1]
  exact again rest' stops

end

section
variable {negative : Bool} {digits : List Char} (all : ∀ c ∈ digits, isDigit c = true)
include all

/-- The digits that do not fit. -/
theorem isDigit_left : ∀ c ∈ (takeDigits 0 0 digits).2.2, isDigit c = true :=
  fun c isIn => all c ((takeDigits_suffix 0 0 digits).subset isIn)

theorem body_point (rest : List Char) :
    unsigned.body negative (digits ++ '.' :: rest) =
      finishFraction negative (takeDigits 0 0 digits).1 (takeDigits 0 0 digits).2.2.length
        rest := by
  have ends : NoDigit ('.' :: rest) := by
    rintro _ ⟨⟩
    rfl
  unfold unsigned.body
  rw [takeDigits_digits all ends]
  dsimp only
  rw [spanDigits_digits (isDigit_left all) ends]
  rfl

theorem body_exponent {rest : List Char} (ends : NoDigit rest) (noPoint : '.' ∉ rest.head?)
    (goesOn : (takeDigits 0 0 digits).2.2 ≠ [] ∨ ∃ c ∈ rest.head?, c = 'e' ∨ c = 'E') :
    unsigned.body negative (digits ++ rest) =
      finishExponent negative (takeDigits 0 0 digits).1 (takeDigits 0 0 digits).2.2.length
        rest := by
  unfold unsigned.body
  rw [takeDigits_digits all ends]
  dsimp only
  rw [spanDigits_digits (isDigit_left all) ends]
  dsimp only
  split
  next => exact absurd rfl noPoint
  next c rest _ =>
    rw [if_pos]
    rcases goesOn with many | ⟨c', same, isMark⟩
    · simp [many]
    · cases same
      rcases isMark with rfl | rfl
      · exact .inl rfl
      · exact .inr (.inl rfl)
  next =>
    rcases goesOn with many | ⟨c', same, -⟩
    · rw [if_neg (by simp [many])]
    · cases same

theorem body_integer {rest : List Char} (ends : NoDigit rest) (noPoint : '.' ∉ rest.head?)
    (plain : ∀ c ∈ rest.head?, c ≠ 'e' ∧ c ≠ 'E') (fits : (takeDigits 0 0 digits).2.2 = []) :
    unsigned.body negative (digits ++ rest) =
      some (ofInteger negative (takeDigits 0 0 digits).1, rest) := by
  unfold unsigned.body
  rw [takeDigits_digits all ends]
  dsimp only
  rw [spanDigits_digits (isDigit_left all) ends, fits]
  dsimp only
  split
  next => exact absurd rfl noPoint
  next c rest _ =>
    have other := plain c rfl
    rw [if_neg]
    simp [other.1, other.2]
  next => rfl

end

theorem body_reads {negative : Bool} {cs rest : List Char} {x : Numeral} {c : Char}
    (first : c ∈ cs.head?) (digit : isDigit c = true)
    (h : unsigned.body negative cs = some (x, rest)) :
    ∃ t, cs = t ++ rest ∧ Number.Numeral t ∧ ∀ rest', Stops rest' →
      unsigned.body negative (t ++ rest') = some (x, rest') := by
  obtain ⟨digits, cs, rfl, all, ends⟩ := exists_digits cs
  have whole : Digits digits := by
    refine ⟨?_, all⟩
    rintro rfl
    rw [ends c first] at digit
    cases digit
  by_cases point : '.' ∈ cs.head?
  · obtain ⟨cs, rfl⟩ : ∃ more, cs = '.' :: more := List.head?_eq_some_iff.mp point
    rw [body_point all] at h
    obtain ⟨places, t, rfl, behind, mark, again⟩ := finishFraction_reads h
    refine ⟨digits ++ ('.' :: places ++ t), by simp, .mk whole (.point behind) mark,
      fun rest' stops => ?_⟩
    rw [List.append_assoc, List.append_assoc, List.cons_append, body_point all]
    exact again rest' stops
  by_cases fits : (takeDigits 0 0 digits).2.2 = []
  · cases cs with
    | nil =>
      rw [body_integer all ends point (fun c none => nomatch none) fits] at h
      cases h
      refine ⟨digits, rfl, whole.numeral, fun rest' stops => ?_⟩
      exact body_integer all (noDigit_of_stops stops) (exponent_ends .none stops).2
        (noMark_of_stops stops) fits
    | cons c cs =>
      by_cases isMark : c = 'e' ∨ c = 'E'
      · rw [body_exponent all ends point (.inr ⟨c, rfl, isMark⟩)] at h
        obtain ⟨t, rfl, mark, again⟩ := finishExponent_marked isMark h
        refine ⟨digits ++ c :: t, by simp, .mk whole .none mark, fun rest' stops => ?_⟩
        obtain ⟨ends', point'⟩ := exponent_ends mark stops
        rw [List.append_assoc, body_exponent all ends' point' (.inr ⟨c, rfl, isMark⟩)]
        exact again rest' stops
      · have plain : ∀ c' ∈ (c :: cs).head?, c' ≠ 'e' ∧ c' ≠ 'E' := by
          rintro _ ⟨⟩
          exact not_or.mp isMark
        rw [body_integer all ends point plain fits] at h
        cases h
        refine ⟨digits, rfl, whole.numeral, fun rest' stops => ?_⟩
        exact body_integer all (noDigit_of_stops stops) (exponent_ends .none stops).2
          (noMark_of_stops stops) fits
  · rw [body_exponent all ends point (.inl fits)] at h
    obtain ⟨t, rfl, mark, again⟩ := finishExponent_reads h
    refine ⟨digits ++ t, by simp, .mk whole .none mark, fun rest' stops => ?_⟩
    obtain ⟨ends', point'⟩ := exponent_ends mark stops
    rw [List.append_assoc, body_exponent all ends' point' (.inl fits)]
    exact again rest' stops

/-- A number starts with a digit, and a zero in front is its only whole digit. -/
def Starts (cs : List Char) : Prop :=
  (∃ c ∈ cs.head?, isDigit c = true) ∧ ∀ more, cs = '0' :: more → NoDigit more

theorem unsigned_eq_body {negative : Bool} {cs : List Char} (starts : Starts cs) :
    unsigned negative cs = unsigned.body negative cs := by
  obtain ⟨⟨c, first, digit⟩, noZero⟩ := starts
  unfold unsigned
  split
  next c' more =>
    have := noZero _ rfl c' rfl
    rw [if_neg (by simp [this])]
  next c' more _ =>
    cases first
    rw [if_pos digit]
  next => cases first

theorem starts_of_unsigned {negative : Bool} {cs : List Char} {found : Numeral × List Char}
    (h : unsigned negative cs = some found) : Starts cs := by
  unfold unsigned at h
  split at h
  next c more =>
    split at h
    · cases h
    next other =>
      refine ⟨⟨'0', rfl, rfl⟩, ?_⟩
      rintro _ ⟨⟩ _ ⟨⟩
      exact Bool.eq_false_iff.mpr other
  next c more noZero =>
    split at h
    next digit =>
      refine ⟨⟨c, rfl, digit⟩, ?_⟩
      rintro more' ⟨⟩ c' isIn
      obtain ⟨more'', rfl⟩ : ∃ more'', more = c' :: more'' := List.head?_eq_some_iff.mp isIn
      exact (noZero c' more'' rfl rfl).elim
    next => cases h
  next => cases h

/-- A number that is read is a numeral in front, and the same one whatever follows it. -/
theorem unsigned_reads {negative : Bool} {cs rest : List Char} {x : Numeral}
    (h : unsigned negative cs = some (x, rest)) :
    ∃ t, cs = t ++ rest ∧ Number.Numeral t ∧ ∀ rest', Stops rest' →
      unsigned negative (t ++ rest') = some (x, rest') := by
  have starts := starts_of_unsigned h
  rw [unsigned_eq_body starts] at h
  obtain ⟨⟨c, first, digit⟩, noZero⟩ := starts
  obtain ⟨t, rfl, numeral, again⟩ := body_reads first digit h
  refine ⟨t, rfl, numeral, fun rest' stops => ?_⟩
  obtain ⟨d, more, rfl, digit'⟩ := numeral.cons
  refine (unsigned_eq_body ⟨⟨d, rfl, digit'⟩, ?_⟩).trans (again rest' stops)
  rintro _ ⟨⟩
  have here := noZero _ rfl
  cases more with
  | nil => exact noDigit_of_stops stops
  | cons => exact here

end DocExpr.Json
