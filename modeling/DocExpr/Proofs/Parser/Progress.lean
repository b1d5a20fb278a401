import DocExpr.Proofs.Parser.Correspondence

/-! Reading an expression never outruns its tokens. Each nested reader starts behind one token more
at least, and each round of a loop takes one, so a limit that lets an expression nest as deep as it
has tokens is never met. -/
namespace DocExpr.Expr

/-- Equal errors that are such as the faults of a text are. -/
def Correspondence.twice (source : List Char) (Such : EvalError → Prop)
    (such : ∀ e, e.spot?.isSome → Such e) : Correspondence source source where
  place := Eq
  error e e' := e = e' ∧ Such e
  ends := rfl
  fault _ _ _ same := ⟨congrArg _ same, such _ rfl⟩
  pathFault _ _ _ same := ⟨congrArg _ same, such _ rfl⟩

section
variable {source : List Char} {Such : EvalError → Prop} {such : ∀ e, e.spot?.isSome → Such e}
  {α : Type}

theorem Correspondence.Tokens.refl (ts : List Spanned) :
    (Correspondence.twice source Such such).Tokens ts ts := by
  induction ts with
  | nil => exact .nil
  | cons t ts ih => exact .cons t.token rfl ih

theorem Correspondence.Tokens.eq {ts ts' : List Spanned}
    (tokens : (Correspondence.twice source Such such).Tokens ts ts') : ts = ts' := by
  induction tokens with
  | nil => rfl
  | cons token here tail ih =>
    cases here
    rw [ih]

theorem Correspondence.Agree.eq {r r' : Except EvalError (α × List Spanned)}
    (agree : (Correspondence.twice source Such such).Agree r r') : r = r' := by
  cases agree with
  | found x left => rw [left.eq]
  | failed alike => rw [alike.1]

theorem Correspondence.Agree.error_such {r r' : Except EvalError (α × List Spanned)}
    (agree : (Correspondence.twice source Such such).Agree r r') {e : EvalError}
    (failed : r = .error e) : Such e := by
  cases agree with
  | found x left => cases failed
  | failed alike =>
    cases failed
    exact alike.2

end

/-- Equal errors, whichever they are. -/
def Correspondence.exact (source : List Char) : Correspondence source source :=
  .twice source (fun _ => True) fun _ _ => trivial

theorem Correspondence.Agree.of_eq {source : List Char} {α : Type}
    {r r' : Except EvalError (α × List Spanned)} (same : r = r') :
    (Correspondence.exact source).Agree r r' := by
  subst same
  cases r with
  | ok found => exact .found found.1 (.refl found.2)
  | error e => exact .failed ⟨rfl, trivial⟩

/-- Two readers find the same on everything that is left of `ts` after one token or more. -/
def SameBehind {α : Type} (ts : List Spanned) (p p' : Parse α) : Prop :=
  ∀ rest, Consumed rest ts → p rest = p' rest

theorem SameBehind.agreeing {α : Type} {source : List Char} {ts : List Spanned} {p p' : Parse α}
    (same : SameBehind ts p p') : (Correspondence.exact source).Agreeing ts p p' := by
  intro rest rest' inside tokens
  rw [← tokens.eq]
  exact .of_eq (same rest inside)

/-- All readers of two levels do. -/
structure Level.SameBehind (ts : List Spanned) (level level' : Level) : Prop where
  expression : ∀ power, Expr.SameBehind ts (level.expression power) (level'.expression power)
  pattern : Expr.SameBehind ts level.pattern level'.pattern

theorem Level.SameBehind.refl (level : Level) (ts : List Spanned) : level.SameBehind ts level :=
  ⟨fun _ _ _ => rfl, fun _ _ => rfl⟩

theorem Level.SameBehind.levels {source : List Char} {ts : List Spanned} {level level' : Level}
    (same : Level.SameBehind ts level level') :
    (Correspondence.exact source).Levels ts level level' :=
  ⟨fun power => (same.expression power).agreeing, same.pattern.agreeing⟩

section
variable {source : List Char} {level : Level} (taking : level.Consumes)
include taking

theorem expressionWith_behind {level' : Level} {ts : List Spanned}
    (same : Level.SameBehind ts level level') (power : Nat) :
    expressionWith source level power ts = expressionWith source level' power ts :=
  (Correspondence.expressionWith_agree same.levels taking power (.refl ts)).eq

theorem patternWith_behind {inner : Parse Pattern} {ts : List Spanned}
    (same : SameBehind ts level.pattern inner) :
    patternWith source level.pattern ts = patternWith source inner ts :=
  (Correspondence.patternWith_agree (c := .exact source) same.agreeing taking.pattern
    (.refl ts)).eq

omit taking in
theorem itemsUntil_count {α : Type} {item : List α → Parse α}
    (items : ∀ done, Consumes (item done)) {close : Symbol} {fuel : Nat} {done xs : List α}
    {ts rest : List Spanned} (h : itemsUntil close item done fuel ts = .ok (xs, rest)) :
    xs.length + rest.length ≤ done.length + ts.length := by
  induction fuel generalizing done ts with
  | zero =>
    cases h
    exact Nat.add_le_add_right (Nat.le_of_eq List.length_reverse) _
  | succ fuel ih =>
    rw [itemsUntil] at h
    split at h
    · cases h
      exact Nat.add_le_add_right (Nat.le_of_eq List.length_reverse) _
    · obtain ⟨⟨x, ts₁⟩, read, h⟩ := ok_of_bind h
      have shorter : ts₁.length < ts.length := (items done read).2
      dsimp only at h
      split at h
      · have count := ih h
        rw [List.length_cons] at count shorter
        omega
      · cases h
        rw [List.length_reverse, List.length_cons]
        omega

/-- However the list ends, its loop ends before the fuel does, and there is a token taken for every
item. -/
def Runs {α : Type} (item : List α → Parse α) : Prop :=
  ∀ (close : Symbol) (done : List α) (fuel : Nat) (ts : List Spanned), ts.length < fuel →
    itemsUntil close item done fuel ts = itemsUntil close item done (ts.length + 1) ts ∧
      ∀ xs rest, itemsUntil close item done fuel ts = .ok (xs, rest) →
        xs.length + rest.length ≤ done.length + ts.length

omit taking in
theorem runs_of_consumes {α : Type} {item : List α → Parse α}
    (items : ∀ done, Consumes (item done)) : Runs item := by
  intro close done fuel ts enough
  refine ⟨?_, fun xs rest => itemsUntil_count items⟩
  have itself (done : List α) : SameBehind (⟨.null, 0⟩ :: ts) (item done) (item done) :=
    fun _ _ => rfl
  exact (Correspondence.itemsUntil_agree (c := .exact []) close (fun done => (itself done).agreeing)
    items (.cons _ (List.suffix_refl ts)) (.refl ts) enough (Nat.lt_succ_self _)).eq

theorem postfixes_enough {fuel : Nat} {ts : List Spanned} (enough : ts.length < fuel)
    (node : Node) :
    postfixes source level fuel node ts = postfixes source level (ts.length + 1) node ts :=
  (Correspondence.postfixes_agree (Level.SameBehind.refl level (⟨.null, 0⟩ :: ts)).levels taking
    (.cons _ (List.suffix_refl ts)) (.refl ts) enough (Nat.lt_succ_self _)).eq

theorem operators_enough {power fuel : Nat} {ts : List Spanned} (enough : ts.length < fuel)
    (left : Node) :
    operators source level power fuel left ts =
      operators source level power (ts.length + 1) left ts :=
  (Correspondence.operators_agree (Level.SameBehind.refl level (⟨.null, 0⟩ :: ts)).levels taking
    (.cons _ (List.suffix_refl ts)) (.refl ts) enough (Nat.lt_succ_self _)).eq

omit taking in
theorem namesThenArrow?_count {ts rest : List Spanned} {names : List String}
    (h : namesThenArrow? ts = some (names, rest)) : names.length + rest.length < ts.length := by
  fun_induction namesThenArrow? ts generalizing names with
  | case1 name _ _ ts ih =>
    obtain ⟨⟨names, ts'⟩, found, same⟩ := Option.map_eq_some_iff.mp h
    cases same
    have count := ih found
    simp only [List.length_cons]
    omega
  | case2 name _ _ _ ts =>
    cases h
    simp only [List.length_cons, List.length_nil]
    omega
  | case3 => cases h

omit taking in
theorem parameters?_count {ts rest : List Spanned} {names : List String}
    (h : parameters? ts = some (names, rest)) : names.length + rest.length < ts.length := by
  unfold parameters? at h
  split at h
  · cases h
    simp only [List.length_cons, List.length_nil]
    omega
  · exact namesThenArrow?_count h

end

/-- How an expression and a pattern go forward whose parts `level` reads. -/
structure Progress (source : List Char) (level : Level) : Prop where
  /-- What reads the parts of an expression is asked behind one of its tokens only. -/
  nested : ∀ {level' ts}, Level.SameBehind ts level level' → ∀ power,
    expressionWith source level power ts = expressionWith source level' power ts
  /-- The same for a pattern. -/
  nestedPattern : ∀ {inner ts}, SameBehind ts level.pattern inner →
    patternWith source level.pattern ts = patternWith source inner ts
  /-- Arguments of calls and items of arrays. -/
  items : Runs fun _ => level.expression 0
  entries : ∀ start, Runs fun _ => objectEntry source level start
  arms : ∀ braceAt, Runs (matchArm source level braceAt)
  patternItems : Runs (arrayPatternItem source level.pattern)
  patternEntries : ∀ start, Runs fun _ => objectPatternEntry source level.pattern start
  parameters : ∀ {ts names rest}, parameters? ts = some (names, rest) →
    names.length + rest.length < ts.length
  accessors : ∀ {fuel ts} node, ts.length < fuel →
    postfixes source level fuel node ts = postfixes source level (ts.length + 1) node ts
  operators : ∀ {power fuel ts} left, ts.length < fuel →
    Expr.operators source level power fuel left ts =
      Expr.operators source level power (ts.length + 1) left ts

theorem progress (source : List Char) {level : Level} (taking : level.Consumes) :
    Progress source level where
  nested := expressionWith_behind taking
  nestedPattern := patternWith_behind taking
  items := runs_of_consumes fun _ => taking.expression 0
  entries _ := runs_of_consumes fun _ => objectEntry_consumes taking _
  arms _ := runs_of_consumes (matchArm_consumes taking _)
  patternItems := runs_of_consumes (arrayPatternItem_consumes taking.pattern)
  patternEntries _ := runs_of_consumes fun _ => objectPatternEntry_consumes taking.pattern _
  parameters := parameters?_count
  accessors node enough := postfixes_enough taking enough node
  operators left enough := operators_enough taking enough left

/-- Equal errors that have a place in the text; limits have none. -/
def Correspondence.located (source : List Char) : Correspondence source source :=
  .twice source (fun e => e.spot?.isSome) fun _ => id

section
variable {source : List Char} {maxDepth maxDepth' depth depth' : Nat} {ts : List Spanned}

theorem pattern_deep (enough : ts.length < depth) (enough' : ts.length < depth') :
    (Correspondence.located source).Agree (pattern source maxDepth depth ts)
      (pattern source maxDepth' depth' ts) := by
  induction depth generalizing depth' ts with
  | zero => exact absurd enough (Nat.not_lt_zero _)
  | succ depth ih =>
    obtain ⟨depth', rfl⟩ : ∃ n, depth' = n + 1 := ⟨depth' - 1, by omega⟩
    have inners : (Correspondence.located source).Agreeing ts (pattern source maxDepth depth)
        (pattern source maxDepth' depth') := by
      intro rest rest' inside tokens
      have shorter := inside.2
      rw [← tokens.eq]
      exact ih (by omega) (by omega)
    exact Correspondence.patternWith_agree inners (pattern_consumes maxDepth depth) (.refl ts)

theorem expression_deep (enough : ts.length < depth) (enough' : ts.length < depth')
    (power : Nat) :
    (Correspondence.located source).Agree (expression source maxDepth depth power ts)
      (expression source maxDepth' depth' power ts) := by
  induction depth generalizing depth' ts power with
  | zero => exact absurd enough (Nat.not_lt_zero _)
  | succ depth ih =>
    obtain ⟨depth', rfl⟩ : ∃ n, depth' = n + 1 := ⟨depth' - 1, by omega⟩
    have levels : (Correspondence.located source).Levels ts (levelAt source maxDepth depth)
        (levelAt source maxDepth' depth') := by
      refine ⟨fun power rest rest' inside tokens => ?_, fun {rest rest'} inside tokens => ?_⟩
      · have shorter := inside.2
        rw [← tokens.eq]
        exact ih (by omega) (by omega) power
      · have shorter := inside.2
        rw [← tokens.eq]
        exact pattern_deep (by omega) (by omega)
    exact Correspondence.expressionWith_agree levels (levelAt_consumes source maxDepth depth) power
      (.refl ts)

end

/-- How many tokens a text has, its end counted with them; none if it is no text of tokens. -/
def tokenCount (text : String) : Nat :=
  match tokensOf text.toList with
  | .ok ts => ts.length + 1
  | .error _ => 0

theorem located_cases {e : EvalError} (located : e.spot?.isSome) :
    ∃ fault spot, e = .badText fault spot ∨ e = .badPath fault spot := by
  cases e with
  | badText fault spot => exact ⟨fault, spot, .inl rfl⟩
  | badPath fault spot => exact ⟨fault, spot, .inr rfl⟩
  | _ => cases located

theorem unexpected_located (source : List Char) (ts : List Spanned) :
    (unexpected source ts).spot?.isSome := by
  cases ts <;> rfl

theorem parseTokens_deep {source : List Char} {maxDepth maxDepth' : Nat} {ts : List Spanned}
    (enough : ts.length < maxDepth) (enough' : ts.length < maxDepth') :
    parseTokens source maxDepth ts = parseTokens source maxDepth' ts ∧
      ∀ e, parseTokens source maxDepth ts = .error e → e.spot?.isSome := by
  have agree : (Correspondence.located source).Agree
      (expression source maxDepth maxDepth 0 ts) (expression source maxDepth' maxDepth' 0 ts) :=
    expression_deep enough enough' 0
  unfold parseTokens
  rw [← agree.eq]
  refine ⟨rfl, fun e failed => ?_⟩
  cases read : expression source maxDepth maxDepth 0 ts with
  | error fault =>
    rw [read] at failed
    cases failed
    exact agree.error_such read
  | ok found =>
    obtain ⟨node, rest⟩ := found
    rw [read] at failed
    cases rest with
    | nil => cases failed
    | cons t rest =>
      cases failed
      exact unexpected_located source (t :: rest)

theorem parseWithDepth_deep {text : String} {maxDepth maxDepth' : Nat}
    (enough : tokenCount text ≤ maxDepth) (enough' : tokenCount text ≤ maxDepth') :
    parseWithDepth text maxDepth = parseWithDepth text maxDepth' ∧
      ∀ e, parseWithDepth text maxDepth = .error e → e.spot?.isSome := by
  unfold tokenCount at enough enough'
  unfold parseWithDepth
  cases read : tokensOf text.toList with
  | ok ts =>
    rw [read] at enough enough'
    exact parseTokens_deep enough enough'
  | error e =>
    refine ⟨rfl, fun e' failed => ?_⟩
    cases failed
    unfold tokensOf at read
    split at read
    · cases read
    · cases read
      rfl

/-- With a limit of as many levels as the text has tokens, its end counted, reading ends in a tree
or in a fault of the text; a higher limit makes no difference. That is so because every nested
reader and every round of a loop takes a token, whatever the tokens are. -/
theorem parse_ends (text : String) {maxDepth : Nat} (enough : tokenCount text ≤ maxDepth) :
    ((∃ tree, parseWithDepth text maxDepth = .ok tree) ∨
      ∃ fault spot, parseWithDepth text maxDepth = .error (.badText fault spot) ∨
        parseWithDepth text maxDepth = .error (.badPath fault spot)) ∧
      parseWithDepth text maxDepth = parseWithDepth text (tokenCount text) ∧
      ∀ depth, Progress text.toList (levelAt text.toList maxDepth depth) := by
  obtain ⟨same, located⟩ := parseWithDepth_deep enough (Nat.le_refl _)
  refine ⟨?_, same, fun depth => progress _ (levelAt_consumes _ maxDepth depth)⟩
  cases read : parseWithDepth text maxDepth with
  | ok tree => exact .inl ⟨tree, rfl⟩
  | error e =>
    obtain ⟨fault, spot, rfl | rfl⟩ := located_cases (located e read)
    · exact .inr ⟨fault, spot, .inl rfl⟩
    · exact .inr ⟨fault, spot, .inr rfl⟩

/-- A text that breaks off inside brackets and a match has thirteen tokens. -/
theorem broken_off_ends :
    tokenCount "f([1, match a \x7b [x, ..." ≤ 13 ∧
      parseWithDepth "f([1, match a \x7b [x, ..." 13 =
        parseWithDepth "f([1, match a \x7b [x, ..." (tokenCount "f([1, match a \x7b [x, ...") ∧
      ∃ fault spot,
        parseWithDepth "f([1, match a \x7b [x, ..." 13 = .error (.badText fault spot) := by
  have enough : tokenCount "f([1, match a \x7b [x, ..." ≤ 13 := by decide
  exact ⟨enough, (parse_ends _ enough).2.1, _, _, rfl⟩

end DocExpr.Expr
