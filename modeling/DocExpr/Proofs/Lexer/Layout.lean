import DocExpr.Proofs.Lexer.Coverage
import DocExpr.Proofs.Lexer.Lookahead

/-! Layout may be put between any two tokens. It starts with nothing that a token goes on with, so
the token in front of it is read as before; and it is passed over before the next token is read,
with what is known of the last one. -/
namespace DocExpr.Expr

/-- The white space of Unicode, by number. -/
def blankCodes : List Nat :=
  [9, 10, 11, 12, 13, 0x20, 0x85, 0xa0, 0x1680, 0x2000, 0x2001, 0x2002, 0x2003, 0x2004, 0x2005,
    0x2006, 0x2007, 0x2008, 0x2009, 0x200a, 0x2028, 0x2029, 0x202f, 0x205f, 0x3000]

theorem mem_blankCodes {c : Char} (blank : Text.isBlank c = true) : c.toNat ∈ blankCodes := by
  simp only [Text.isBlank, Bool.or_eq_true, Bool.and_eq_true, decide_eq_true_eq, beq_iff_eq]
    at blank
  simp only [blankCodes, List.mem_cons, List.not_mem_nil, or_false]
  omega

/-- No white space lies in the stretch of code points. -/
def clearOfBlanks (run : Nat × Nat × Nat) : Bool :=
  let (first, last, _) := run
  0x3000 < first || (0x205f < first && last < 0x3000) || (0x202f < first && last < 0x205f) ||
    (0x200a < first && last < 0x2028) || (0x1680 < first && last < 0x2000) ||
    (0xa0 < first && last < 0x1680) || (0x20 < first && last < 0x85)

theorem not_has_of_isBlank {runs : Text.Runs} (clear : runs.all clearOfBlanks = true) {c : Char}
    (blank : Text.isBlank c = true) : runs.has c = false := by
  rw [Text.Runs.has, List.any_eq_false]
  rintro ⟨first, last, step⟩ isIn
  have apart := List.all_eq_true.mp clear _ isIn
  simp only [clearOfBlanks, Bool.or_eq_true, Bool.and_eq_true, decide_eq_true_eq] at apart
  simp only [Text.isBlank, Bool.or_eq_true, Bool.and_eq_true, decide_eq_true_eq, beq_iff_eq]
    at blank
  simp only [Bool.and_eq_true, decide_eq_true_eq]
  omega

/-- The tables that tell letters and numerals beyond ASCII hold no white space. -/
theorem clear_tables : ∀ runs ∈ [Text.upperLetters, Text.lowerLetters, Text.titleLetters,
    Text.modifierLetters, Text.otherLetters, Text.letterNumerals, Text.addedAlphabetic,
    Text.recentAlphabetic, Text.decimalDigits, Text.otherNumerals, Text.recentNumerals],
    runs.all clearOfBlanks = true := by
  decide +kernel

theorem plain_blankCodes : ∀ n ∈ blankCodes, Number.isDigit (Char.ofNat n) = false ∧
    (Char.ofNat n).isDigit = false ∧ (Char.ofNat n).isAlpha = false ∧
    (Char.ofNat n == '_') = false ∧
    ['*', '.', '=', '>', '&', '|', '+', '-'].contains (Char.ofNat n) = false := by
  decide

theorem not_goesOn_of_isBlank {c : Char} (blank : Text.isBlank c = true) : goesOn c = false := by
  have plain := plain_blankCodes c.toNat (mem_blankCodes blank)
  rw [Char.ofNat_toNat] at plain
  obtain ⟨noNumeral, digit, alpha, other, mark⟩ := plain
  have clear := clear_tables
  simp only [List.forall_mem_cons, List.not_mem_nil, false_imp_iff, implies_true, and_true] at clear
  obtain ⟨upper, lower, title, modifier, letter, numeral, added, recent, decimal, others, news⟩ :=
    clear
  have alphabetic : Text.isAlphabetic c = false := by
    simp only [Text.isAlphabetic, Text.isSettledAlphabetic, alpha, not_has_of_isBlank upper blank,
      not_has_of_isBlank lower blank, not_has_of_isBlank title blank,
      not_has_of_isBlank modifier blank, not_has_of_isBlank letter blank,
      not_has_of_isBlank numeral blank, not_has_of_isBlank added blank,
      not_has_of_isBlank recent blank, Bool.or_false, ite_self]
  have numeric : Text.isNumeric c = false := by
    simp only [Text.isNumeric, digit, not_has_of_isBlank decimal blank,
      not_has_of_isBlank numeral blank, not_has_of_isBlank others blank,
      not_has_of_isBlank news blank, Bool.or_false, ite_self]
  simp only [goesOn, continuesName, Text.isAlphanumeric, noNumeral, alpha, alphabetic, numeric,
    other, mark, Bool.or_false]

/-- No token goes on with layout. -/
theorem Layout.not_goesOn {gap : List Char} (layout : Layout gap) :
    ∀ c ∈ gap.head?, goesOn c = false := by
  intro c isFirst
  cases layout with
  | nothing => cases isFirst
  | blank blank _ =>
    cases isFirst
    exact not_goesOn_of_isBlank blank
  | comment none _ =>
    cases isFirst
    decide

theorem skipLayout_opening (cs : List Char) :
    skipLayout none ('/' :: '*' :: cs) = skipLayout (some ('/' :: '*' :: cs)) cs := rfl

/-- A comment is passed over up to the first mark that ends one. -/
theorem skipLayout_comment {body : List Char} (none : ¬ ['*', '/'] <:+: body ++ ['*'])
    (start cs : List Char) :
    skipLayout (some start) (body ++ '*' :: '/' :: cs) = skipLayout .none cs := by
  induction body with
  | nil => rfl
  | cons c body ih =>
    rw [List.cons_append, List.infix_cons_iff, not_or] at none
    rw [List.cons_append, skipLayout_inside]
    · exact ih none.2
    · rintro rest rfl same
      refine none.1 ?_
      cases body with
      | nil => cases same
      | cons c body =>
        cases same
        exact ⟨body ++ ['*'], rfl⟩

theorem Layout.skip {gap : List Char} (layout : Layout gap) (cs : List Char) :
    skipLayout none (gap ++ cs) = skipLayout none cs := by
  induction layout with
  | nothing => rfl
  | @blank c gap blank _ ih =>
    rw [List.cons_append, skipLayout_outside, if_pos blank]
    · exact ih
    · rintro rest rfl
      cases blank
  | @comment body gap none _ ih =>
    have opened : skipLayout Option.none ('/' :: '*' :: body ++ '*' :: '/' :: gap ++ cs) =
        skipLayout (some ('/' :: '*' :: body ++ '*' :: '/' :: gap ++ cs))
          (body ++ '*' :: '/' :: (gap ++ cs)) := by
      simp only [List.cons_append, List.append_assoc]
      exact skipLayout_opening _
    rw [opened, skipLayout_comment none, ih]

/-- The second text is the first one with layout put between its tokens, in front of them or behind
them. Layout that is there already stays; layout is put beside it or into it. -/
inductive Respaced : Bool → List Char → List Char → Prop where
  | done {regexAllowed : Bool} : Respaced regexAllowed [] []
  | kept {regexAllowed : Bool} {gap cs cs' : List Char} : Layout gap →
      Respaced regexAllowed cs cs' → Respaced regexAllowed (gap ++ cs) (gap ++ cs')
  | put {regexAllowed : Bool} {gap cs cs' : List Char} : Layout gap →
      Respaced regexAllowed cs cs' → Respaced regexAllowed cs (gap ++ cs')
  | token {regexAllowed : Bool} {c : Char} {body after after' : List Char} {token : Token}
      (solid : skipLayout none (c :: (body ++ after)) = .ok (c :: (body ++ after)))
      (first : readToken regexAllowed c (body ++ after) = .ok (token, after))
      (others : Respaced token.allowsRegex after after') :
      Respaced regexAllowed (c :: (body ++ after)) (c :: (body ++ after'))

/-- A text that reads as tokens is one into which layout may be put. -/
theorem Reads.respaced {regexAllowed : Bool} {cs : List Char} {tokens : List Token}
    (reads : Reads regexAllowed cs tokens) : Respaced regexAllowed cs cs := by
  induction reads with
  | done layout =>
    obtain ⟨gap, rfl, passed⟩ := skipLayout_passed layout
    exact .kept passed .done
  | token layout first others ih =>
    obtain ⟨gap, rfl, passed⟩ := skipLayout_passed layout
    obtain ⟨body, rfl, -⟩ := readToken_ahead first
    have passed : Layout gap := passed
    rw [passed.skip] at layout
    exact .kept passed (.token layout first ih)

theorem NothingNew.layout {gap rest rest' : List Char} (layout : Layout gap)
    (new : NothingNew rest rest') : NothingNew rest (gap ++ rest') := by
  cases gap with
  | nil => exact new
  | cons c gap =>
    refine .of_head fun d isFirst => ?_
    exact layout.not_goesOn d isFirst

theorem Respaced.nothingNew {regexAllowed : Bool} {cs cs' : List Char}
    (respaced : Respaced regexAllowed cs cs') : NothingNew cs cs' := by
  induction respaced with
  | done => exact .refl []
  | @kept _ gap cs cs' _ _ ih => exact ih.append gap
  | put layout _ ih => exact ih.layout layout
  | @token _ c body _ _ _ _ _ _ ih => exact ih.append (c :: body)

/-- Where nothing is passed over, neither white space nor a comment comes first. -/
theorem solid_front {c : Char} {cs : List Char} (solid : skipLayout none (c :: cs) = .ok (c :: cs)) :
    Text.isBlank c = false ∧ ∀ more, c = '/' → cs = '*' :: more → False := by
  have shorter {comment : Option (List Char)} (front more : List Char)
      (passed : skipLayout comment more = .ok (front ++ more)) : front = [] := by
    have fits := (skipLayout_suffix passed).length_le
    rw [List.length_append] at fits
    exact List.length_eq_zero_iff.mp (by omega)
  have noComment : ∀ more, c = '/' → cs = '*' :: more → False := by
    rintro more rfl rfl
    rw [skipLayout_opening] at solid
    cases shorter ['/', '*'] more solid
  refine ⟨?_, noComment⟩
  cases blank : Text.isBlank c with
  | false => rfl
  | true =>
    rw [skipLayout_outside noComment, if_pos blank] at solid
    cases shorter [c] cs solid

/-- What starts with no layout does so in front of another rest that starts with nothing new. -/
theorem solid_ahead {c : Char} {body rest rest' : List Char} (new : NothingNew rest rest')
    (solid : skipLayout none (c :: (body ++ rest)) = .ok (c :: (body ++ rest))) :
    skipLayout none (c :: (body ++ rest')) = .ok (c :: (body ++ rest')) := by
  obtain ⟨noBlank, noComment⟩ := solid_front solid
  rw [skipLayout_outside, if_neg (by simp [noBlank])]
  intro more slash
  exact (new.append body).absent (goesOn_of_part (by decide)) (fun more => noComment more slash) more

/-- A text reads as the same tokens with more layout between them. -/
theorem Respaced.reads {regexAllowed : Bool} {cs cs' : List Char}
    (respaced : Respaced regexAllowed cs cs') :
    ∃ tokens, Reads regexAllowed cs tokens ∧ Reads regexAllowed cs' tokens := by
  induction respaced with
  | done => exact ⟨[], .done rfl, .done rfl⟩
  | kept layout _ ih =>
    obtain ⟨tokens, reads, reads'⟩ := ih
    exact ⟨tokens, reads.of_layout (layout.skip _), reads'.of_layout (layout.skip _)⟩
  | put layout _ ih =>
    obtain ⟨tokens, reads, reads'⟩ := ih
    exact ⟨tokens, reads, reads'.of_layout (layout.skip _)⟩
  | token solid first others ih =>
    obtain ⟨tokens, reads, reads'⟩ := ih
    obtain ⟨body', same, ahead⟩ := readToken_ahead first
    cases List.append_cancel_right same
    have first' := ahead _ others.nothingNew
    exact ⟨_ :: tokens, .token solid first reads,
      .token (solid_ahead others.nothingNew solid) first' reads'⟩

/-- In front of what no token goes on with, a text reads as it does alone. -/
theorem Reads.before {regexAllowed : Bool} {cs more : List Char} {tokens others : List Token}
    (front : Reads regexAllowed cs tokens) (stops : ∀ c ∈ more.head?, goesOn c = false)
    (back : ∀ regexAllowed, Reads regexAllowed more others) :
    Reads regexAllowed (cs ++ more) (tokens ++ others) := by
  induction front with
  | done layout =>
    obtain ⟨gap, rfl, passed⟩ := skipLayout_passed layout
    have passed : Layout gap := passed
    rw [List.append_nil]
    exact (back _).of_layout (passed.skip more)
  | @token _ _ _ after c _ _ layout first others ih =>
    obtain ⟨gap, rfl, passed⟩ := skipLayout_passed layout
    obtain ⟨body, rfl, ahead⟩ := readToken_ahead first
    have passed : Layout gap := passed
    have new : NothingNew after (after ++ more) := by
      have alone : NothingNew [] more := .of_head stops
      have front := alone.append after
      rwa [List.append_nil] at front
    rw [passed.skip] at layout
    rw [List.append_assoc]
    refine Reads.of_layout (passed.skip _) ?_
    rw [List.cons_append, List.append_assoc]
    exact .token (solid_ahead new layout) (ahead _ new) ih

end DocExpr.Expr
