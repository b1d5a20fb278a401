import DocExpr.Expression
import DocExpr.Proofs.Evaluation.Run
import DocExpr.Proofs.Lexer.Document
import DocExpr.Proofs.Lexer.Layout
import DocExpr.Proofs.Parser.Places

/-! What the faults of a path show. A path is trimmed and written out from the document on before
it is read, and only the place of a fault is moved back: the fragment is cut from the text that was
read. Behind what was put in front both agree, and a fault is in front of that only where the point
that was put there has no name behind it. -/
namespace DocExpr.Expr

theorem length_trim (cs : List Char) : (Text.trim cs).length ≤ cs.length := by
  have left : (Text.trimLeft cs).length ≤ cs.length := (List.dropWhile_suffix _).length_le
  have right (cs : List Char) : (Text.trimRight cs).length ≤ cs.length := by
    have shorter := (List.dropWhile_suffix Text.isBlank (l := cs.reverse)).length_le
    rwa [List.length_reverse, ← List.length_reverse] at shorter
  exact Nat.le_trans (right _) left

section
variable {source : List Char} {front : Nat}

theorem placedFrom_ofRest {rest : List Char} (room : front ≤ source.length)
    (isEnd : rest <:+ source.drop front) (fault : TextFault) :
    PlacedFrom source front (.badText fault (.ofRest source.length rest)) := by
  intro spot found
  cases found
  have fits := isEnd.length_le
  rw [List.length_drop] at fits
  have behind : front ≤ source.length - rest.length := by omega
  refine ⟨⟨behind, Nat.sub_le _ _⟩, ?_⟩
  simp only [Spot.at, Spot.ofRest]
  rw [← List.suffix_iff_eq_drop.mp (isEnd.trans (List.drop_suffix front source))]

/-- A token at the front is read first, and the rest after it. -/
theorem tokensLoop_front (total fuel : Nat) {regexAllowed : Bool} {c : Char}
    {cs after : List Char} {token : Token} (solid : skipLayout none (c :: cs) = .ok (c :: cs))
    (first : readToken regexAllowed c cs = .ok (token, after)) :
    tokensLoop total (fuel + 1) regexAllowed (c :: cs) =
      (tokensLoop total fuel token.allowsRegex after).map
        (⟨token, total - (c :: cs).length⟩ :: ·) := by
  rw [tokensLoop, solid]
  simp only [bind, Except.bind, first]
  cases tokensLoop total fuel token.allowsRegex after with
  | error e => rfl
  | ok ts => rfl

/-- Where offsets go up, those behind `k` tokens are at least `k`. -/
theorem le_of_increasing {k m : Nat} {offsets : List Nat} (increasing : offsets.Pairwise (· < ·))
    (least : ∀ n ∈ offsets, m ≤ n) : ∀ n ∈ offsets.drop k, m + k ≤ n := by
  induction k generalizing m offsets with
  | zero => exact least
  | succ k ih =>
    cases offsets with
    | nil => exact fun n isIn => absurd isIn List.not_mem_nil
    | cons first offsets =>
      obtain ⟨above, increasing⟩ := List.pairwise_cons.mp increasing
      have later : ∀ n ∈ offsets, m + 1 ≤ n := by
        intro n isIn
        have bound := least first List.mem_cons_self
        have higher := above n isIn
        omega
      intro n isIn
      have bound := ih increasing later n isIn
      omega

/-- Behind `k` tokens the others stand behind `k` characters at least. -/
theorem inText_drop {ts : List Spanned} (read : tokensOf source = .ok ts) {k : Nat}
    (some : k ≤ ts.length) : InText source k (ts.drop k) := by
  have increasing := (tokensOf_spans read).increasing.1
  have behind := le_of_increasing (k := k) increasing fun n _ => Nat.zero_le n
  rw [List.drop_append_of_le_length (by rwa [List.length_map])] at behind
  constructor
  · have atEnd := behind source.length (List.mem_append_right _ List.mem_cons_self)
    rwa [Nat.zero_add] at atEnd
  · intro t isIn
    have inside := tokensOf_inside read t (List.mem_of_mem_drop isIn)
    have offsets : t.offset ∈ (ts.map (·.offset)).drop k := by
      rw [← List.map_drop]
      exact List.mem_map_of_mem isIn
    have bound := behind t.offset (List.mem_append_left _ offsets)
    rw [Nat.zero_add] at bound
    exact ⟨bound, Nat.le_of_lt inside⟩

/-- The readers of a level place their faults from `front` on if all tokens stand there. -/
theorem levelAt_placing (maxDepth depth : Nat) :
    (levelAt source maxDepth depth).Placing source front :=
  ⟨expression_placing maxDepth depth, pattern_placing maxDepth depth⟩

/-- Accessors and operators behind the document are what can be at fault. -/
theorem expression_dollar_placing {maxDepth depth offset : Nat} {ts : List Spanned}
    (accessors : ∀ level : Level, level.Placing source front →
      Places source front (postfixes source level (ts.length + 1) .root ts)) :
    Places source front
      (expression source maxDepth depth 0 (⟨.symbol .dollar, offset⟩ :: ts)) := by
  cases depth with
  | zero => exact .fault (placed_tooDeep maxDepth)
  | succ depth =>
    have levels : (levelAt source maxDepth depth).Placing source front :=
      levelAt_placing maxDepth depth
    have whole : expression source maxDepth (depth + 1) 0 (⟨.symbol .dollar, offset⟩ :: ts) =
        postfixes source (levelAt source maxDepth depth) (ts.length + 1) .root ts >>= fun found =>
          operators source (levelAt source maxDepth depth) 0 (found.2.length + 1) found.1 found.2 :=
      rfl
    rw [whole]
    exact (accessors _ levels).bind fun _ _ inText => operators_placing levels _ _ _ _ inText

end

/-- Where the lexer fails behind `front` characters only, its error is placed there. -/
theorem tokensOf_placedFrom {source : List Char} {front : Nat} {e : EvalError}
    (room : front ≤ source.length)
    (behind : ∀ fault rest, tokensLoop source.length (source.length + 1) true source =
      .error (fault, rest) → rest <:+ source.drop front)
    (h : tokensOf source = .error e) : PlacedFrom source front e := by
  unfold tokensOf at h
  split at h
  next => cases h
  next fault rest read =>
    cases h
    exact placedFrom_ofRest room (behind fault rest read) fault

/-- A parse fails in the lexer or on the tokens. -/
theorem parseWithDepth_error {cs : List Char} {depth : Nat} {e : EvalError}
    (h : parseWithDepth (String.ofList cs) depth = .error e) :
    tokensOf cs = .error e ∨
      ∃ ts, tokensOf cs = .ok ts ∧ parseTokens cs depth ts = .error e := by
  unfold parseWithDepth at h
  rw [String.toList_ofList] at h
  cases read : tokensOf cs with
  | error e' =>
    rw [read] at h
    cases h
    exact .inl rfl
  | ok ts =>
    rw [read] at h
    exact .inr ⟨ts, rfl, h⟩

theorem tokensLoop_dollar (total fuel : Nat) (cs : List Char) :
    tokensLoop total (fuel + 1) true ('$' :: cs) =
      (tokensLoop total fuel false cs).map (⟨.symbol .dollar, total - ('$' :: cs).length⟩ :: ·) :=
  tokensLoop_front total fuel rfl rfl

/-- The tokens of what starts with the document. -/
theorem tokensOf_dollar {cs : List Char} {ts : List Spanned}
    (read : tokensOf ('$' :: cs) = .ok ts) :
    ∃ offset behind, ts = ⟨.symbol .dollar, offset⟩ :: behind ∧
      tokensLoop ('$' :: cs).length ('$' :: cs).length false cs = .ok behind := by
  unfold tokensOf at read
  split at read
  next tokens listed =>
    cases read
    rw [tokensLoop_dollar] at listed
    obtain ⟨behind, listed, same⟩ := ok_of_map listed
    exact ⟨_, behind, same.symm, listed⟩
  next => cases read

/-- The document itself is never at fault. -/
theorem parse_rooted_placed {cs : List Char} {depth : Nat} {e : EvalError}
    (h : parseWithDepth (String.ofList ('$' :: cs)) depth = .error e) :
    PlacedFrom ('$' :: cs) 1 e := by
  have room : 1 ≤ ('$' :: cs).length := Nat.succ_le_succ (Nat.zero_le _)
  rcases parseWithDepth_error h with h | ⟨ts, read, h⟩
  · refine tokensOf_placedFrom room (fun fault rest fails => ?_) h
    rw [tokensLoop_dollar] at fails
    exact tokensLoop_fault (error_of_map fails)
  · obtain ⟨offset, behind, rfl, -⟩ := tokensOf_dollar read
    have inText := inText_drop read (k := 1) (by simp)
    exact parseTokens_placed (expression_dollar_placing fun _ levels =>
      postfixes_placing levels _ _ _ inText) h

/-- A character that a name starts with or that stands for all children. -/
def OpensField (c : Char) : Prop := c = '*' ∨ startsName c = true

/-- A token that may follow a point. -/
def FieldToken (token : Token) : Prop :=
  token = .symbol .star ∨ (fieldName? token).isSome

theorem fieldToken_ofWord (s : String) : FieldToken (.ofWord s) := by
  refine .inr ?_
  unfold Token.ofWord
  split <;> rfl

theorem solid_of_startsName {c : Char} (name : startsName c = true) :
    Text.isBlank c = false ∧ Number.isDigit c = false := by
  constructor
  · refine Bool.eq_false_iff.mpr fun blank => ?_
    have goes : goesOn c = true := by
      refine goesOn_of_continuesName ?_
      simp only [startsName, Bool.or_eq_true] at name
      simp only [continuesName, Text.isAlphanumeric, Bool.or_eq_true]
      exact name.imp_left .inl
    rw [not_goesOn_of_isBlank blank] at goes
    cases goes
  · refine Bool.eq_false_iff.mpr fun digit => ?_
    have none : ∀ n < 58, 48 ≤ n → startsName (Char.ofNat n) = false := by decide
    obtain ⟨low, high⟩ := Bool.and_eq_true_iff.mp digit
    have low : 48 ≤ c.toNat := of_decide_eq_true low
    have high : c.toNat < 58 := Nat.lt_succ_of_le (of_decide_eq_true high)
    have letter := none c.toNat high low
    rw [Char.ofNat_toNat, name] at letter
    cases letter

theorem OpensField.solid {c : Char} (opens : OpensField c) (cs : List Char) :
    skipLayout none (c :: cs) = .ok (c :: cs) := by
  rcases opens with rfl | name
  · rfl
  · rw [skipLayout_outside, if_neg (by simp [(solid_of_startsName name).1])]
    rintro _ rfl
    cases name

theorem OpensField.reads {c : Char} (opens : OpensField c) (regexAllowed : Bool)
    (cs : List Char) : ∃ token after, readToken regexAllowed c cs = .ok (token, after) ∧
      FieldToken token := by
  rcases opens with rfl | name
  · exact ⟨.symbol .star, cs, rfl, .inl rfl⟩
  · have other : c ∉ ['"', '\'', '/'] := by
      simp only [List.mem_cons, List.not_mem_nil, or_false]
      rintro (rfl | rfl | rfl) <;> cases name
    exact ⟨_, _, readToken_name name (solid_of_startsName name).2 other regexAllowed cs,
      fieldToken_ofWord _⟩

theorem OpensField.point {c : Char} (opens : OpensField c) (cs : List Char) :
    readToken false '.' (c :: cs) = .ok (.symbol .dot, c :: cs) := by
  have noPoint : c ≠ '.' := by
    rintro rfl
    rcases opens with star | name
    · cases star
    · cases name
  have spells : symbol? ('.' :: c :: cs) = some (.dot, c :: cs) := by
    rw [symbol?]
    all_goals simp [noPoint]
  have noDigit : Number.isDigit '.' = false := rfl
  simp [readToken, spells, noDigit]

theorem postfixes_field_placing {source : List Char} {front : Nat} {level : Level}
    (levels : level.Placing source front) {fuel offset : Nat} {node : Node} {t : Spanned}
    {ts : List Spanned} (field : FieldToken t.token) (inText : InText source front ts) :
    Places source front
      (postfixes source level (fuel + 1) node (⟨.symbol .dot, offset⟩ :: t :: ts)) := by
  have go (node : Node) : Places source front (postfixes source level fuel node ts) :=
    postfixes_placing levels fuel node ts inText
  have member (name : String) : Places source front
      (if startsWith .leftParen ts then
        arguments source level ts >>= fun found =>
          postfixes source level fuel (.method node name found.1) found.2
      else postfixes source level fuel (node.withSegment (.field name)) ts) := by
    split
    · exact (arguments_placing levels ts inText).bind
        fun args rest inText => postfixes_placing levels _ _ _ inText
    · exact go _
  obtain ⟨token, offset'⟩ := t
  rcases field with rfl | named
  · exact go _
  · cases token with
    | identifier name => exact member name
    | bool b => exact member (if b then "true" else "false")
    | null => exact member "null"
    | _ => cases named

/-- Where a name stands behind the point, the point is not at fault. -/
theorem parse_dotted_placed {c : Char} {cs : List Char} {depth : Nat} {e : EvalError}
    (opens : OpensField c)
    (h : parseWithDepth (String.ofList ('$' :: '.' :: c :: cs)) depth = .error e) :
    PlacedFrom ('$' :: '.' :: c :: cs) 2 e := by
  have room : 2 ≤ ('$' :: '.' :: c :: cs).length := by simp
  have step (total fuel : Nat) := tokensLoop_front total fuel rfl (opens.point cs)
  rcases parseWithDepth_error h with h | ⟨ts, read, h⟩
  · refine tokensOf_placedFrom room (fun fault rest fails => ?_) h
    rw [tokensLoop_dollar] at fails
    have fails := error_of_map fails
    rw [List.length_cons, step] at fails
    exact tokensLoop_fault (error_of_map fails)
  · obtain ⟨offset, behind, rfl, listed⟩ := tokensOf_dollar read
    rw [List.length_cons, step] at listed
    obtain ⟨members, listed', rfl⟩ := ok_of_map listed
    obtain ⟨token, after, first, field⟩ := opens.reads (Token.symbol .dot).allowsRegex cs
    rw [List.length_cons, tokensLoop_front _ _ (opens.solid cs) first] at listed'
    obtain ⟨others, -, rfl⟩ := ok_of_map listed'
    have inText := inText_drop read (k := 3) (by simp)
    have behind : InText ('$' :: '.' :: c :: cs) 2 others :=
      ⟨room, fun t isIn => ⟨Nat.le_of_succ_le (inText.each t isIn).1, (inText.each t isIn).2⟩⟩
    exact parseTokens_placed (expression_dollar_placing fun _ levels =>
      postfixes_field_placing levels field behind) h

/-- A path that is its own trimming and starts as a path does: with the document, a bracket, a name
or all children. -/
def OpensPath (cs : List Char) : Prop :=
  ∃ c rest, cs = c :: rest ∧ (c = '$' ∨ c = '[' ∨ OpensField c)

/-- What was put in front of a path comes to light in a fault at that place only. -/
theorem rooted_shown {trimmed : List Char} {depth : Nat} {e : EvalError} {found : Spot}
    (fails : parseWithDepth (String.ofList (rootedPath trimmed).1) depth = .error e)
    (located : e.spot? = some found) :
    found.offset - (rootedPath trimmed).2 ≤ trimmed.length ∧
      (found.fragment = (Spot.at trimmed (found.offset - (rootedPath trimmed).2)).fragment ∨
        ¬ OpensPath trimmed ∧ found.offset - (rootedPath trimmed).2 = 0 ∧
          found.fragment = (Spot.at ('.' :: trimmed) 0).fragment) := by
  revert fails
  fun_cases rootedPath trimmed with
  | case1 rest =>
    intro fails
    obtain ⟨within, same⟩ := parse_rooted_placed fails found located
    exact ⟨within.2, .inl (congrArg Spot.fragment same)⟩
  | case2 rest =>
    intro fails
    obtain ⟨⟨least, most⟩, same⟩ := parse_rooted_placed fails found located
    rw [List.length_cons] at most
    refine ⟨by omega, .inl ?_⟩
    obtain ⟨offset, back⟩ : ∃ n, found.offset = n + 1 := ⟨found.offset - 1, by omega⟩
    rw [same, back]
    rfl
  | case3 _ noDollar noBracket =>
    intro fails
    obtain ⟨⟨least, most⟩, same⟩ := parse_rooted_placed fails found located
    simp only [List.length_cons] at most
    refine ⟨by omega, ?_⟩
    rcases Nat.lt_or_ge found.offset 2 with first | behind
    · have point : found.offset = 1 := by omega
      refine .inr ⟨?_, by omega, ?_⟩
      · rintro ⟨c, rest, rfl, dollar | bracket | opens⟩
        · exact noDollar rest (by rw [dollar])
        · exact noBracket rest (by rw [bracket])
        · have placed := (parse_dotted_placed opens fails found located).1.1
          omega
      · rw [same, point]
        rfl
    · obtain ⟨offset, back⟩ : ∃ n, found.offset = n + 2 := ⟨found.offset - 2, by omega⟩
      rw [same, back]
      exact .inl rfl

theorem asPathError_spot {e : EvalError} {shift : Nat} {fault : TextFault} {spot : Spot}
    (h : e.asPathError shift = .badPath fault spot) :
    ∃ found, e.spot? = some found ∧ spot.offset = found.offset - shift ∧
      spot.fragment = found.fragment := by
  cases e with
  | badText fault' found | badPath fault' found =>
    cases h
    exact ⟨found, rfl, rfl, rfl⟩
  | _ => cases h

/-- A fault of a path is in its text, and shows the trimmed text from there on, or else, at the
front of a text that does not start as a path does, the point that was put there. -/
theorem parsePath_shown {path : String} {depth : Nat} {fault : TextFault} {spot : Spot}
    (h : parsePath path depth = .error (.badPath fault spot)) :
    spot.offset ≤ (Text.trim path.toList).length ∧
      (spot.fragment = (Spot.at (Text.trim path.toList) spot.offset).fragment ∨
        ¬ OpensPath (Text.trim path.toList) ∧ spot.offset = 0 ∧
          spot.fragment = (Spot.at ('.' :: Text.trim path.toList) 0).fragment) := by
  unfold parsePath at h
  dsimp only at h
  cases read : parseWithDepth (String.ofList (rootedPath (Text.trim path.toList)).1) depth with
  | error e =>
    rw [read] at h
    obtain ⟨found, located, offset, fragment⟩ := asPathError_spot (Except.error.inj h)
    rw [offset, fragment]
    exact rooted_shown read located
  | ok node =>
    rw [read] at h
    dsimp only at h
    split at h
    · cases h
    · cases h
      exact ⟨Nat.zero_le _, .inl rfl⟩

/-- What follows a path that is given as text fails where the text is no path. -/
theorem jsonPath_fails {path : String} {e : EvalError}
    (h : parsePath path ({} : Options).maxDepth = .error e) (document : Value) :
    jsonPath document path = .error e := by
  have fails (eval : Eval) :
      (eval.resolvePath document path).runOn (.start {} 0) = (.error e, .start {} 0) := by
    unfold Eval.resolvePath
    rw [EvalM.runOn_get, EvalM.runOn_bind, EvalM.runOn_lift]
    have read : parsePath path (Evaluator.start {} 0).options.maxDepth = .error e := h
    rw [read]
  unfold jsonPath EvalM.resolvePath
  rw [EvalM.runOn_get, fails]

/-- A fault of a path lies in its text. It shows the trimmed text from there on, or else, at the
front of a text that does not start as a path does, the point that was put there. So it shows the
text itself from there on, where there is no white space around a text that starts as a path does.
What follows a path fails alike. -/
theorem path_fault_accounted {path : String} {depth : Nat} {fault : TextFault} {spot : Spot}
    (h : parsePath path depth = .error (.badPath fault spot)) :
    spot.offset ≤ path.toList.length ∧
      (spot.fragment =
          String.ofList (Text.clip 24 ((Text.trim path.toList).drop spot.offset)) ∨
        ¬ OpensPath (Text.trim path.toList) ∧ spot.offset = 0 ∧
          spot.fragment = String.ofList (Text.clip 24 ('.' :: Text.trim path.toList))) ∧
      (Text.trim path.toList = path.toList → OpensPath path.toList →
        spot.fragment = String.ofList (Text.clip 24 (path.toList.drop spot.offset))) ∧
      (depth = ({} : Options).maxDepth →
        ∀ document, jsonPath document path = .error (.badPath fault spot)) := by
  obtain ⟨within, shown⟩ := parsePath_shown h
  refine ⟨Nat.le_trans within (length_trim _), shown, fun solid opens => ?_, ?_⟩
  · rw [solid] at shown
    exact shown.resolve_right fun point => point.1 opens
  · rintro rfl
    exact jsonPath_fails h

/-- A bracket that is not closed is shown from where it stands. -/
theorem open_bracket_shown :
    parsePath "$.a[0" 256 = .error (.badPath .unbalancedBracket ⟨3, "[0"⟩) ∧
      3 ≤ "$.a[0".toList.length ∧
      "[0" = String.ofList (Text.clip 24 ("$.a[0".toList.drop 3)) ∧
      jsonPath .null "$.a[0" = .error (.badPath .unbalancedBracket ⟨3, "[0"⟩) := by
  have fails : parsePath "$.a[0" 256 = .error (.badPath .unbalancedBracket ⟨3, "[0"⟩) := by rfl
  obtain ⟨within, -, shown, follows⟩ := path_fault_accounted fails
  have solid : Text.trim "$.a[0".toList = "$.a[0".toList := by rfl
  have opens : OpensPath "$.a[0".toList := ⟨'$', _, rfl, .inl rfl⟩
  exact ⟨fails, within, shown solid opens, follows rfl .null⟩

/-- A path that starts with a number is shown with the point that was put in front of it. -/
theorem point_shown :
    parsePath "0.name" 256 = .error (.badPath .noFieldAfterDot ⟨0, ".0.name"⟩) ∧
      ".0.name" ≠ String.ofList (Text.clip 24 ("0.name".toList.drop 0)) := by
  constructor
  · rfl
  · decide

end DocExpr.Expr
