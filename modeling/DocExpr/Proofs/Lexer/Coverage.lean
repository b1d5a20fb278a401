import DocExpr.Proofs.Lexer.Reading
import DocExpr.Expr.Parser

/-! Where the tokens of a text stand, and where its faults. Every character belongs to one token or
to the white space and comments around them; a fault is found at some rest of the text. -/
namespace DocExpr.Expr

/-- White space and complete comments; a comment ends at the first mark that ends one. -/
inductive Layout : List Char → Prop where
  | nothing : Layout []
  | blank {c : Char} {cs : List Char} : Text.isBlank c = true → Layout cs → Layout (c :: cs)
  | comment {body cs : List Char} : ¬ ['*', '/'] <:+: body ++ ['*'] → Layout cs →
      Layout ('/' :: '*' :: body ++ '*' :: '/' :: cs)

/-- What is passed over: layout, or the rest of a comment and the layout behind it. -/
def Passed (inComment : Bool) (passed : List Char) : Prop :=
  if inComment then ∃ body cs, passed = body ++ '*' :: '/' :: cs ∧
    ¬ ['*', '/'] <:+: body ++ ['*'] ∧ Layout cs
  else Layout passed

theorem not_ends_comment_cons {c : Char} {body : List Char}
    (open_ : ∀ rest, c = '*' → body ++ ['*'] = '/' :: rest → False)
    (none : ¬ ['*', '/'] <:+: body ++ ['*']) : ¬ ['*', '/'] <:+: (c :: body) ++ ['*'] := by
  rw [List.cons_append, List.infix_cons_iff]
  rintro (atFront | later)
  · obtain ⟨rest, same⟩ := atFront
    obtain ⟨star, slash⟩ := List.cons.inj same
    exact open_ rest star.symm slash.symm
  · exact none later

theorem skipLayout_passed {comment : Option (List Char)} {cs rest : List Char}
    (h : skipLayout comment cs = .ok rest) :
    ∃ passed, cs = passed ++ rest ∧ Passed comment.isSome passed := by
  fun_induction skipLayout comment cs with
  | case1 cs ih =>
    obtain ⟨_, rfl, body, gap, rfl, none, layout⟩ := ih h
    exact ⟨'/' :: '*' :: (body ++ '*' :: '/' :: gap), rfl, .comment none layout⟩
  | case2 c cs plain blank ih =>
    obtain ⟨gap, rfl, layout⟩ := ih h
    exact ⟨c :: gap, rfl, .blank blank layout⟩
  | case3 | case4 =>
    cases h
    exact ⟨[], rfl, .nothing⟩
  | case5 start cs ih =>
    obtain ⟨gap, rfl, layout⟩ := ih h
    exact ⟨'*' :: '/' :: gap, rfl, [], gap, rfl, by decide, layout⟩
  | case6 start c cs open_ ih =>
    obtain ⟨_, rfl, body, gap, rfl, none, layout⟩ := ih h
    refine ⟨c :: (body ++ '*' :: '/' :: gap), rfl, c :: body, gap, rfl, ?_, layout⟩
    refine not_ends_comment_cons (fun rest' star slash => ?_) none
    have longer := congrArg (· ++ '/' :: gap ++ rest) slash
    exact open_ (rest' ++ '/' :: gap ++ rest) star (by simpa using longer)
  | case7 => cases h

theorem skipLayout_fault {comment : Option (List Char)} {cs rest : List Char} {fault : TextFault}
    (h : skipLayout comment cs = .error (fault, rest)) : comment = some rest ∨ rest <:+ cs := by
  fun_induction skipLayout comment cs with
  | case1 cs ih =>
    rcases ih h with same | later
    · cases same
      exact .inr (List.suffix_refl _)
    · exact .inr (later.trans (List.suffix_append [_, _] cs))
  | case2 c cs plain blank ih =>
    have inside := (ih h).resolve_left (Option.some_ne_none _).symm
    exact .inr (inside.trans (List.suffix_cons c cs))
  | case3 | case4 => cases h
  | case5 start cs ih =>
    have inside := (ih h).resolve_left (Option.some_ne_none _).symm
    exact .inr (inside.trans (List.suffix_append [_, _] cs))
  | case6 start c cs plain ih =>
    exact (ih h).imp_right fun later => later.trans (List.suffix_cons c cs)
  | case7 =>
    cases h
    exact .inl rfl

theorem stringRest_fault {quote : Char} {start done cs rest : List Char} {fault : TextFault}
    (h : stringRest quote start done cs = .error (fault, rest)) : rest = start ∨ rest <:+ cs := by
  fun_induction stringRest quote start done cs with
  | case1 | case2 =>
    cases h
    exact .inl rfl
  | case4 | case5 =>
    cases h
    exact .inr (List.suffix_refl _)
  | case3 done a b c d cs x escaped ih =>
    exact (ih h).imp_right fun later => later.trans (List.suffix_append [_, _, a, b, c, d] cs)
  | case6 done c cs long short ih =>
    exact (ih h).imp_right fun later => later.trans (List.suffix_append [_, c] cs)
  | case7 => cases h
  | case8 done c cs last unicode broken escape other ih =>
    exact (ih h).imp_right fun later => later.trans (List.suffix_cons c cs)

theorem regexFlags_fault {done cs rest : List Char} {fault : TextFault}
    (h : regexFlags done cs = .error (fault, rest)) : rest <:+ cs := by
  fun_induction regexFlags done cs with
  | case1 | case2 => cases h
  | case3 done c cs letter flag ih => exact (ih h).trans (List.suffix_cons c cs)
  | case4 =>
    cases h
    exact List.suffix_refl _

theorem regexToken_fault {start cs rest : List Char} {fault : TextFault}
    (h : regexToken start cs = .error (fault, rest)) : rest = start ∨ rest <:+ cs := by
  unfold regexToken at h
  split at h
  · cases h
    exact .inl rfl
  next pattern after body =>
    cases read : regexFlags [] after with
    | error e =>
      rw [read] at h
      cases h
      exact .inr ((regexFlags_fault read).trans (regexBody_suffix body))
    | ok found =>
      rw [read] at h
      simp only [bind, Except.bind] at h
      split at h
      · cases h
        exact .inl rfl
      · cases h

theorem readToken_fault {regexAllowed : Bool} {c : Char} {cs rest : List Char} {fault : TextFault}
    (h : readToken regexAllowed c cs = .error (fault, rest)) : rest <:+ c :: cs := by
  have here {rest : List Char} (found : rest = c :: cs ∨ rest <:+ cs) : rest <:+ c :: cs := by
    rcases found with rfl | later
    · exact List.suffix_refl _
    · exact later.trans (List.suffix_cons c cs)
  unfold readToken at h
  dsimp only at h
  split at h
  next =>
    cases read : stringRest c (c :: cs) [] cs with
    | error e =>
      rw [read] at h
      cases h
      exact here (stringRest_fault read)
    | ok found =>
      rw [read] at h
      cases h
  next =>
    split at h
    next => cases h
    next =>
      split at h
      next => exact here (regexToken_fault h)
      next =>
        split at h
        next => cases h
        next =>
          split at h
          next => cases h
          next =>
            cases h
            exact List.suffix_refl _

theorem tokensLoop_fault {total fuel : Nat} {regexAllowed : Bool} {cs rest : List Char}
    {fault : TextFault} (h : tokensLoop total fuel regexAllowed cs = .error (fault, rest)) :
    rest <:+ cs := by
  induction fuel generalizing regexAllowed cs with
  | zero => cases h
  | succ fuel ih =>
    rw [tokensLoop] at h
    cases layout : skipLayout none cs with
    | error e =>
      rw [layout] at h
      cases h
      exact (skipLayout_fault layout).resolve_left (Option.some_ne_none _).symm
    | ok left =>
      rw [layout] at h
      refine List.IsSuffix.trans ?_ (skipLayout_suffix layout)
      cases left with
      | nil => cases h
      | cons c left =>
        cases first : readToken regexAllowed c left with
        | error e =>
          simp only [bind, Except.bind, first] at h
          cases h
          exact readToken_fault first
        | ok read =>
          obtain ⟨token, after⟩ := read
          simp only [bind, Except.bind, first] at h
          split at h
          next others =>
            cases h
            exact (ih others).trans ((readToken_suffix first).trans (List.suffix_cons c left))
          next => cases h

/-- The error names a place of the text, and shows the text from there on. -/
def Placed (source : List Char) (e : EvalError) : Prop :=
  ∀ spot, e.spot? = some spot →
    spot.offset ≤ source.length ∧ spot = .at source spot.offset

theorem placed_ofRest {source rest : List Char} (isEnd : rest <:+ source) (fault : TextFault) :
    Placed source (.badText fault (.ofRest source.length rest)) := by
  intro spot found
  cases found
  refine ⟨Nat.sub_le _ _, ?_⟩
  simp only [Spot.at, Spot.ofRest]
  rw [← List.suffix_iff_eq_drop.mp isEnd]

theorem tokensOf_placed {source : List Char} {e : EvalError} (h : tokensOf source = .error e) :
    Placed source e := by
  unfold tokensOf at h
  split at h
  next => cases h
  next fault rest read =>
    cases h
    exact placed_ofRest (tokensLoop_fault read) fault

/-- From the character `start` of a text on there is layout, and between it these tokens, each of
them from its offset up to the layout behind it. -/
inductive Spans (source : List Char) : Bool → Nat → List Spanned → Prop where
  | rest {regexAllowed : Bool} {start : Nat} : start ≤ source.length →
      Layout (source.drop start) → Spans source regexAllowed start []
  | token {regexAllowed : Bool} {start stop : Nat} {c : Char} {cs : List Char} {t : Spanned}
      {ts : List Spanned} : start ≤ t.offset → t.offset < stop →
        Layout ((source.drop start).take (t.offset - start)) → source.drop t.offset = c :: cs →
          readToken regexAllowed c cs = .ok (t.token, source.drop stop) →
            Spans source t.token.allowsRegex stop ts → Spans source regexAllowed start (t :: ts)

theorem tokensLoop_spans {source cs : List Char} {fuel : Nat} {regexAllowed : Bool}
    {ts : List Spanned} (isEnd : cs <:+ source) (enough : cs.length < fuel)
    (h : tokensLoop source.length fuel regexAllowed cs = .ok ts) :
    Spans source regexAllowed (source.length - cs.length) ts := by
  induction fuel generalizing regexAllowed cs ts with
  | zero => exact absurd enough (Nat.not_lt_zero _)
  | succ fuel ih =>
    have from_ := List.suffix_iff_eq_drop.mp isEnd
    obtain ⟨rest, layout, h⟩ := ok_of_bind h
    obtain ⟨gap, whole, passed⟩ := skipLayout_passed layout
    cases rest with
    | nil =>
      cases h
      refine .rest (Nat.sub_le _ _) ?_
      rw [← from_, whole, List.append_nil]
      exact passed
    | cons c rest =>
      obtain ⟨⟨token, after⟩, first, h⟩ := ok_of_bind h
      obtain ⟨others, read, h⟩ := ok_of_bind h
      cases h
      have here : c :: rest <:+ source := (whole ▸ List.suffix_append gap _ : _ <:+ cs).trans isEnd
      have behind : after <:+ rest := readToken_suffix first
      have left : after <:+ source := behind.trans ((List.suffix_cons c rest).trans here)
      have shorter := behind.length_le
      have lengths : cs.length = gap.length + (rest.length + 1) := by
        rw [whole, List.length_append, List.length_cons]
      have within := isEnd.length_le
      have width : source.length - (rest.length + 1) - (source.length - cs.length) =
          gap.length := by omega
      have later := ih left (by omega) read
      have reads : readToken regexAllowed c rest =
          .ok (token, source.drop (source.length - after.length)) := by
        rw [← List.suffix_iff_eq_drop.mp left]
        exact first
      refine .token ?_ ?_ ?_ (List.suffix_iff_eq_drop.mp here).symm reads later
      · simp only [List.length_cons]
        omega
      · simp only [List.length_cons]
        omega
      · rw [← from_, List.length_cons, width, whole, List.take_left]
        exact passed

theorem tokensOf_spans {source : List Char} {ts : List Spanned} (h : tokensOf source = .ok ts) :
    Spans source true 0 ts := by
  unfold tokensOf at h
  split at h
  next tokens read =>
    cases h
    have spans := tokensLoop_spans (List.suffix_refl source) (Nat.lt_succ_self _) read
    rwa [Nat.sub_self] at spans
  next => cases h

/-- The offsets go up from token to token, and from the last one to the end of the text. -/
theorem Spans.increasing {source : List Char} {regexAllowed : Bool} {start : Nat}
    {ts : List Spanned} (spans : Spans source regexAllowed start ts) :
    (ts.map (·.offset) ++ [source.length]).Pairwise (· < ·) ∧
      ∀ n ∈ ts.map (·.offset) ++ [source.length], start ≤ n := by
  induction spans with
  | rest within _ =>
    refine ⟨List.pairwise_singleton _ _, fun n isIn => ?_⟩
    cases List.mem_singleton.mp isIn
    exact within
  | @token regexAllowed start stop c cs t ts before short _ _ _ _ ih =>
    obtain ⟨increasing, behind⟩ := ih
    refine ⟨List.pairwise_cons.mpr ⟨fun n isIn => Nat.lt_of_lt_of_le short (behind n isIn),
      increasing⟩, fun n isIn => ?_⟩
    rcases List.mem_cons.mp isIn with rfl | later
    · exact before
    · exact Nat.le_trans (Nat.le_trans before (Nat.le_of_lt short)) (behind n later)

/-- Every token stands in front of the end of the text. -/
theorem tokensOf_inside {source : List Char} {ts : List Spanned} (h : tokensOf source = .ok ts) :
    ∀ t ∈ ts, t.offset < source.length := by
  intro t isIn
  have increasing := (tokensOf_spans h).increasing.1
  refine (List.pairwise_append.mp increasing).2.2 t.offset ?_ source.length ?_
  · exact List.mem_map_of_mem isIn
  · exact List.mem_singleton_self _

end DocExpr.Expr
