import DocExpr.Proofs.Lexer.Lookahead

/-! Every reader of the lexer reads alike where a bracket, comma or colon follows: such a mark goes
on with no token and with no layout. -/
namespace DocExpr.Expr

/-- Characters that end every token and stand for themselves. -/
def marks : List Char := ['(', ')', '[', ']', '\x7b', '\x7d', ',', ':']

/-- A character with which no token goes on. -/
structure Ends (mark : Char) : Prop where
  notBlank : Text.isBlank mark = false
  notDigit : Number.isDigit mark = false
  notLetter : mark.isAlpha = false
  notName : continuesName mark = false
  noPart : mark ∉ ['/', '*', '.', '=', '>', '&', '|', 'e', 'E', '+', '-', '"', '\'']

theorem marks_end {mark : Char} (h : mark ∈ marks) : Ends mark := by
  simp only [marks, List.mem_cons, List.not_mem_nil, or_false] at h
  rcases h with rfl | rfl | rfl | rfl | rfl | rfl | rfl | rfl <;>
    exact ⟨rfl, rfl, rfl, rfl, by decide⟩

theorem Ends.not_goesOn {mark : Char} (ends : Ends mark) : goesOn mark = false := by
  have noPart : ['*', '.', '=', '>', '&', '|', '+', '-'].contains mark = false := by
    refine Bool.eq_false_iff.mpr fun isPart => ends.noPart ?_
    have isIn := List.contains_iff_mem.mp isPart
    simp only [List.mem_cons, List.not_mem_nil, or_false] at isIn
    rcases isIn with rfl | rfl | rfl | rfl | rfl | rfl | rfl | rfl <;> decide
  simp only [goesOn, ends.notDigit, ends.notLetter, ends.notName, noPart, Bool.or_false]

section
variable {mark : Char} (ends : Ends mark) (more : List Char)

include ends in
theorem Ends.ne {c : Char} (part : c ∈ ['/', '*', '.', '=', '>', '&', '|', 'e', 'E', '+', '-']) :
    mark ≠ c := by
  rintro rfl
  exact ends.noPart (List.mem_append_left ['"', '\''] part)

omit ends in
/-- A character other than the mark that does not stand in front does not come there. -/
theorem absent_mark {c : Char} {cs : List Char} (other : mark ≠ c)
    (absent : ∀ rest, cs = c :: rest → False) (rest : List Char) :
    cs ++ mark :: more = c :: rest → False := by
  intro h
  rcases List.append_eq_cons_iff.mp h with ⟨-, same⟩ | ⟨rest', same, -⟩
  · cases same
    exact other rfl
  · exact absent rest' same

theorem skipLayout_outside {c : Char} {cs : List Char}
    (plain : ∀ rest, c = '/' → cs = '*' :: rest → False) :
    skipLayout none (c :: cs) =
      if Text.isBlank c then skipLayout none cs else .ok (c :: cs) := by
  conv =>
    lhs
    unfold skipLayout
  split
  case h_1 rest _ found =>
    cases found
    exact (plain rest rfl rfl).elim
  case h_2 found =>
    cases found
    rfl
  case h_3 found => cases found
  all_goals contradiction

theorem skipLayout_inside {start : List Char} {c : Char} {cs : List Char}
    (plain : ∀ rest, c = '*' → cs = '/' :: rest → False) :
    skipLayout (some start) (c :: cs) = skipLayout (some start) cs := by
  conv =>
    lhs
    unfold skipLayout
  split
  case h_4 rest _ found =>
    cases found
    exact (plain rest rfl rfl).elim
  case h_5 opened found =>
    cases opened
    cases found
    rfl
  case h_6 found => cases found
  all_goals contradiction

include ends in
/-- Where an open comment started matters to faults only. -/
theorem skipLayout_mark {comment comment' : Option (List Char)} {cs rest : List Char}
    (same : comment'.isSome = comment.isSome) (h : skipLayout comment cs = .ok rest) :
    skipLayout comment' (cs ++ mark :: more) = .ok (rest ++ mark :: more) := by
  fun_induction skipLayout comment cs generalizing comment' with
  | case1 cs ih =>
    cases comment' with
    | none => exact ih rfl h
    | some start => cases same
  | case2 c cs open_ blank ih =>
    cases comment' with
    | none =>
      rw [List.cons_append, skipLayout_outside, if_pos blank]
      · exact ih rfl h
      · rintro rest rfl
        cases blank
    | some start => cases same
  | case3 c cs open_ notBlank =>
    cases comment' with
    | none =>
      cases h
      rw [List.cons_append, skipLayout_outside, if_neg notBlank]
      rintro rest rfl
      exact absent_mark more (ends.ne (by decide)) (fun rest => open_ rest rfl) rest
    | some start => cases same
  | case4 =>
    cases comment' with
    | none =>
      cases h
      rw [List.nil_append, skipLayout_outside, if_neg (by simp [ends.notBlank])]
      rintro rest rfl
      exact absurd rfl (ends.ne (by decide))
    | some start => cases same
  | case5 start cs ih =>
    cases comment' with
    | none => cases same
    | some start' => exact ih rfl h
  | case6 start c cs open_ ih =>
    cases comment' with
    | none => cases same
    | some start' =>
      rw [List.cons_append, skipLayout_inside]
      · exact ih rfl h
      · rintro rest rfl
        exact absent_mark more (ends.ne (by decide)) (fun rest => open_ rest rfl) rest
  | case7 => cases h

include ends

theorem Ends.nothingNew (rest : List Char) : NothingNew rest (rest ++ mark :: more) := by
  have stops : NothingNew [] (mark :: more) := by
    refine .of_head ?_
    rintro _ ⟨⟩
    exact ends.not_goesOn
  have behind := stops.append rest
  rwa [List.append_nil] at behind

theorem readToken_mark {regexAllowed : Bool} {c : Char} {cs rest : List Char} {token : Token}
    (h : readToken regexAllowed c cs = .ok (token, rest)) :
    readToken regexAllowed c (cs ++ mark :: more) = .ok (token, rest ++ mark :: more) := by
  obtain ⟨body, rfl, reads⟩ := readToken_ahead h
  rw [List.append_assoc]
  exact reads _ (ends.nothingNew more rest)

end

end DocExpr.Expr
