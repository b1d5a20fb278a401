import DocExpr.Proofs.Lexer.Mark
import DocExpr.Proofs.Number.Sign

/-! The tokens of a text as a relation that leaves out places. Two texts with a bracket, comma or
colon between them read as one after the other, so no token depends on what encloses its text. Of
the literals among the tokens, a number has no sign, and a regex has a body and each of its flags
once. -/
namespace DocExpr.Expr

/-- The text reads as these tokens, where a regex may stand in front or may not. -/
inductive Reads : Bool → List Char → List Token → Prop where
  | done {regexAllowed : Bool} {cs : List Char} (layout : skipLayout none cs = .ok []) :
      Reads regexAllowed cs []
  | token {regexAllowed : Bool} {cs rest after : List Char} {c : Char} {token : Token}
      {tokens : List Token} (layout : skipLayout none cs = .ok (c :: rest))
      (first : readToken regexAllowed c rest = .ok (token, after))
      (others : Reads token.allowsRegex after tokens) : Reads regexAllowed cs (token :: tokens)

theorem Reads.of_layout {regexAllowed : Bool} {cs cs' : List Char} {tokens : List Token}
    (same : skipLayout none cs' = skipLayout none cs) (reads : Reads regexAllowed cs tokens) :
    Reads regexAllowed cs' tokens := by
  cases reads with
  | done layout => exact .done (same.trans layout)
  | token layout first others => exact .token (same.trans layout) first others

theorem Ends.skipLayout {mark : Char} (ends : Ends mark) (cs : List Char) :
    skipLayout none (mark :: cs) = .ok (mark :: cs) := by
  rw [skipLayout_outside, if_neg (by simp [ends.notBlank])]
  intro rest slash
  exact absurd slash (ends.ne (by decide))

/-- A mark and what follows it read alike wherever a regex may stand. -/
theorem Reads.mark {mark : Char} {s : Symbol} {cs : List Char} {tokens : List Token}
    (ends : Ends mark) (spells : symbol? (mark :: cs) = some (s, cs))
    (others : Reads (Token.symbol s).allowsRegex cs tokens) (regexAllowed : Bool) :
    Reads regexAllowed (mark :: cs) (.symbol s :: tokens) := by
  refine .token (ends.skipLayout cs) ?_ others
  have noQuote : ¬ (mark = '"' ∨ mark = '\'') := by
    rintro (rfl | rfl)
    · exact ends.noPart (by decide)
    · exact ends.noPart (by decide)
  have noRegex : ¬ (mark = '/' ∧ regexAllowed) := fun h => ends.ne (by decide) h.1
  rw [readToken, if_neg noQuote, if_neg (by simp [ends.notDigit]), if_neg noRegex]
  simp only [spells]

/-- Two texts with a mark between them read as one after the other. -/
theorem Reads.append {regexAllowed : Bool} {cs more : List Char} {mark : Char}
    {tokens others : List Token} (front : Reads regexAllowed cs tokens) (ends : Ends mark)
    (back : ∀ regexAllowed, Reads regexAllowed (mark :: more) others) :
    Reads regexAllowed (cs ++ mark :: more) (tokens ++ others) := by
  induction front with
  | done layout =>
    have reached := skipLayout_mark ends more rfl layout
    exact (back _).of_layout (reached.trans (ends.skipLayout more).symm)
  | token layout first others ih =>
    exact .token (skipLayout_mark ends more rfl layout) (readToken_mark ends more first) ih

theorem skipLayout_suffix {comment : Option (List Char)} {cs rest : List Char}
    (h : skipLayout comment cs = .ok rest) : rest <:+ cs := by
  fun_induction skipLayout comment cs with
  | case1 cs ih => exact (ih h).trans (List.suffix_append [_, _] cs)
  | case2 c cs plain blank ih => exact (ih h).trans (List.suffix_cons c cs)
  | case3 | case4 =>
    cases h
    exact List.suffix_refl _
  | case5 start cs ih => exact (ih h).trans (List.suffix_append [_, _] cs)
  | case6 start c cs plain ih => exact (ih h).trans (List.suffix_cons c cs)
  | case7 => cases h

theorem regexBody_suffix {inClass : Bool} {done cs body rest : List Char}
    (h : regexBody inClass done cs = some (body, rest)) : rest <:+ cs := by
  obtain ⟨read, rfl, -⟩ := regexBody_ahead h
  exact List.suffix_append read rest

theorem readToken_suffix {regexAllowed : Bool} {c : Char} {cs rest : List Char} {token : Token}
    (h : readToken regexAllowed c cs = .ok (token, rest)) : rest <:+ cs := by
  obtain ⟨body, rfl, -⟩ := readToken_ahead h
  exact List.suffix_append body rest

theorem tokensLoop_reads {total fuel : Nat} {regexAllowed : Bool} {cs : List Char}
    {ts : List Spanned} (enough : cs.length < fuel)
    (h : tokensLoop total fuel regexAllowed cs = .ok ts) :
    Reads regexAllowed cs (ts.map (·.token)) := by
  induction fuel generalizing regexAllowed cs ts with
  | zero => exact absurd enough (Nat.not_lt_zero _)
  | succ fuel ih =>
    obtain ⟨rest, layout, h⟩ := ok_of_bind h
    cases rest with
    | nil =>
      cases h
      exact .done layout
    | cons c rest =>
      obtain ⟨⟨token, after⟩, first, h⟩ := ok_of_bind h
      obtain ⟨others, read, h⟩ := ok_of_bind h
      cases h
      have left := (skipLayout_suffix layout).length_le
      have taken := (readToken_suffix first).length_le
      have shorter : after.length < fuel := by
        simp only [List.length_cons] at left
        omega
      exact .token layout first (ih shorter read)

theorem Reads.tokensLoop {regexAllowed : Bool} {cs : List Char} {tokens : List Token}
    (reads : Reads regexAllowed cs tokens) (total : Nat) {fuel : Nat} (enough : cs.length < fuel) :
    ∃ ts, tokensLoop total fuel regexAllowed cs = .ok ts ∧ ts.map (·.token) = tokens := by
  induction reads generalizing fuel with
  | done layout =>
    cases fuel with
    | zero => exact absurd enough (Nat.not_lt_zero _)
    | succ fuel =>
      refine ⟨[], ?_, rfl⟩
      rw [Expr.tokensLoop, layout]
      rfl
  | @token regexAllowed cs rest after c token tokens layout first others ih =>
    cases fuel with
    | zero => exact absurd enough (Nat.not_lt_zero _)
    | succ fuel =>
      have left := (skipLayout_suffix layout).length_le
      have taken := (readToken_suffix first).length_le
      have shorter : after.length < fuel := by
        simp only [List.length_cons] at left
        omega
      obtain ⟨ts, read, same⟩ := ih shorter
      refine ⟨⟨token, total - (c :: rest).length⟩ :: ts, ?_, congrArg (token :: ·) same⟩
      rw [Expr.tokensLoop, layout]
      simp only [bind, Except.bind, first, read]
      rfl

theorem tokensOf_reads {source : List Char} {ts : List Spanned} (h : tokensOf source = .ok ts) :
    Reads true source (ts.map (·.token)) := by
  unfold tokensOf at h
  split at h
  next tokens read =>
    cases h
    exact tokensLoop_reads (Nat.lt_succ_self _) read
  next => cases h

theorem Reads.tokensOf {source : List Char} {tokens : List Token}
    (reads : Reads true source tokens) :
    ∃ ts, tokensOf source = .ok ts ∧ ts.map (·.token) = tokens := by
  obtain ⟨ts, read, same⟩ := reads.tokensLoop source.length (Nat.lt_succ_self _)
  exact ⟨ts, by rw [Expr.tokensOf, read], same⟩

/-- The tokens of a text without their places; there are none where the text has a fault. -/
def tokensIn (text : String) : List Token :=
  match tokensOf text.toList with
  | .ok ts => ts.map (·.token)
  | .error _ => []

theorem tokensOf_of_tokensIn {text : String} {token : Token} {tokens : List Token}
    (h : tokensIn text = token :: tokens) :
    ∃ ts, tokensOf text.toList = .ok ts ∧ ts.map (·.token) = token :: tokens := by
  unfold tokensIn at h
  split at h
  next ts read => exact ⟨ts, read, h⟩
  next => cases h

theorem reads_of_tokensIn {text : String} {token : Token} {tokens : List Token}
    (h : tokensIn text = token :: tokens) : Reads true text.toList (token :: tokens) := by
  obtain ⟨ts, read, same⟩ := tokensOf_of_tokensIn h
  rw [← same]
  exact tokensOf_reads read

/-- The flags that a regex may have. -/
def regexFlagChars : List Char := ['g', 'i', 'm', 's']

/-- A regex as a text can write it. -/
structure RegexShaped (pattern flags : String) : Prop where
  body : pattern ≠ ""
  known : ∀ flag ∈ flags.toList, flag ∈ regexFlagChars
  distinct : flags.toList.Nodup

/-- A literal as a text can write it; the minus sign is a token of its own. -/
def Token.Shaped : Token → Prop
  | .number x => Number.signBit x = false
  | .regex pattern flags => RegexShaped pattern flags
  | _ => True

theorem regexFlags_shaped {done cs flags rest : List Char}
    (known : ∀ flag ∈ done, flag ∈ regexFlagChars) (distinct : done.Nodup)
    (h : regexFlags done cs = .ok (flags, rest)) :
    (∀ flag ∈ flags, flag ∈ regexFlagChars) ∧ flags.Nodup := by
  fun_induction regexFlags done cs with
  | case1 done | case2 done =>
    cases h
    exact ⟨fun flag isIn => known flag (List.mem_reverse.mp isIn),
      (List.reverse_perm done).nodup_iff.mpr distinct⟩
  | case3 done c cs letter flag ih =>
    obtain ⟨isFlag, new⟩ := Bool.and_eq_true_iff.mp flag
    refine ih ?_ ?_ h
    · intro f isIn
      rcases List.mem_cons.mp isIn with rfl | old
      · exact List.contains_iff_mem.mp isFlag
      · exact known f old
    · refine List.nodup_cons.mpr ⟨fun old => ?_, distinct⟩
      rw [List.contains_iff_mem.mpr old] at new
      cases new
  | case4 => cases h

theorem regexToken_shaped {start cs rest : List Char} {token : Token}
    (h : regexToken start cs = .ok (token, rest)) : token.Shaped := by
  unfold regexToken at h
  split at h
  · cases h
  next pattern after body =>
    obtain ⟨⟨flags, after'⟩, read, h⟩ := ok_of_bind h
    dsimp only at h
    split at h
    · cases h
    next some =>
      cases h
      obtain ⟨known, distinct⟩ :=
        regexFlags_shaped (fun _ isIn => absurd isIn List.not_mem_nil) List.nodup_nil read
      rw [← String.toList_ofList (l := flags)] at known distinct
      refine ⟨fun none => some ?_, known, distinct⟩
      rw [← String.toList_ofList (l := pattern), none]
      rfl

theorem readToken_shaped {regexAllowed : Bool} {c : Char} {cs rest : List Char} {token : Token}
    (h : readToken regexAllowed c cs = .ok (token, rest)) : token.Shaped := by
  unfold readToken at h
  dsimp only at h
  split at h
  next =>
    cases read : stringRest c (c :: cs) [] cs with
    | error e =>
      rw [read] at h
      cases h
    | ok found =>
      rw [read] at h
      cases h
      trivial
  next =>
    split at h
    next digit =>
      cases h
      obtain ⟨numeral, starts⟩ := spanNumeral_cons digit cs
      change Number.signBit _ = false
      rw [starts]
      cases read : Number.ofNumeral? (c :: numeral) with
      | none => exact Number.signBit_nan
      | some x => exact Number.signBit_ofNumeral? digit read
    next =>
      split at h
      next => exact regexToken_shaped h
      next =>
        split at h
        next =>
          cases h
          trivial
        next =>
          split at h
          next =>
            cases h
            unfold Token.ofWord
            split <;> trivial
          next => cases h

theorem Reads.shaped {regexAllowed : Bool} {cs : List Char} {tokens : List Token}
    (reads : Reads regexAllowed cs tokens) : ∀ token ∈ tokens, token.Shaped := by
  induction reads with
  | done => exact fun _ isIn => absurd isIn List.not_mem_nil
  | token layout first others ih =>
    intro token isIn
    rcases List.mem_cons.mp isIn with rfl | later
    · exact readToken_shaped first
    · exact ih token later

end DocExpr.Expr
