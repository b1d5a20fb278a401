import DocExpr.Proofs.Lexer.Layout
import DocExpr.Proofs.Limits.Parsing
import DocExpr.Proofs.Parser.Composition

/-! What may be the subject of a match. The word `match` is no keyword: what stands behind it tells
whether a match starts there. Behind it a parenthesis opens the arguments of a call; any other
token that an expression starts with opens the subject. -/
namespace DocExpr.Expr

/-- A match on a text, with one arm that takes everything. -/
def matchOn (subject : String) : String := "match " ++ subject ++ " \x7b _ => 1 \x7d"

/-- The tokens of the arms of such a match. -/
def armTokens : List Token :=
  [.symbol .leftBrace, .identifier "_", .symbol .arrow, .number 1, .symbol .rightBrace]

/-- A token that is no regex is read alike where a regex may stand and where none may. -/
theorem readToken_plain {c : Char} {cs after : List Char} {token : Token}
    (first : readToken true c cs = .ok (token, after)) (plain : ∀ p f, token ≠ .regex p f)
    (regexAllowed : Bool) : readToken regexAllowed c cs = .ok (token, after) := by
  by_cases slash : c = '/'
  · subst slash
    have read : regexToken ('/' :: cs) cs = .ok (token, after) := first
    unfold regexToken at read
    split at read
    next => cases read
    next pattern rest _ =>
      obtain ⟨⟨flags, rest⟩, -, read⟩ := ok_of_bind read
      dsimp only at read
      split at read
      next => cases read
      next =>
        cases read
        exact absurd rfl (plain _ _)
  · have noSlash (allowed : Bool) : ¬ (c = '/' ∧ allowed) := fun h => slash h.1
    unfold readToken at first ⊢
    dsimp only at first ⊢
    rw [if_neg (noSlash _)] at first ⊢
    exact first

/-- A text that does not start with a regex reads alike where none may stand. -/
theorem Reads.unslashed {cs : List Char} {tokens : List Token} (reads : Reads true cs tokens)
    (plain : ∀ p f, tokens.head? ≠ some (.regex p f)) (regexAllowed : Bool) :
    Reads regexAllowed cs tokens := by
  cases reads with
  | done layout => exact .done layout
  | token layout first others =>
    refine .token layout (readToken_plain first ?_ regexAllowed) others
    rintro p f rfl
    exact plain p f rfl

theorem reads_arms (regexAllowed : Bool) :
    Reads regexAllowed " \x7b _ => 1 \x7d".toList armTokens :=
  .token rfl rfl (.token rfl rfl (.token rfl rfl (.token rfl rfl (.token rfl rfl (.done rfl)))))

section
variable {depth : Nat} (part : Part depth)

theorem Part.reads_matchOn (plain : ∀ p f, part.tokens.head? ≠ some (.regex p f)) :
    Reads true (matchOn part.text).toList
      (.identifier "match" :: (part.tokens ++ armTokens)) := by
  have blank : ∀ c ∈ " \x7b _ => 1 \x7d".toList.head?, goesOn c = false := by
    intro c isFirst
    cases isFirst
    decide
  have subject := (part.reads.unslashed plain false).before blank reads_arms
  have spaced : Reads false (' ' :: (part.text.toList ++ " \x7b _ => 1 \x7d".toList))
      (part.tokens ++ armTokens) :=
    subject.of_layout (Layout.skip (.blank rfl .nothing) _)
  rw [matchOn, String.toList_append, String.toList_append, List.append_assoc]
  exact .token rfl rfl spaced

/-- The word is no operator. -/
theorem matchOn_plain : unaryOp? (.identifier "match") = none := rfl

/-- Behind the word, any token but a parenthesis and an arrow opens the subject. -/
theorem afterName_match {source : List Char} {level : Level} {t : Spanned}
    (noCall : t.token ≠ .symbol .leftParen) (noArrow : t.token ≠ .symbol .arrow) (start : Nat)
    (ts : List Spanned) :
    afterName source level "match" start (t :: ts) = matching source level start (t :: ts) := by
  obtain ⟨token, offset⟩ := t
  cases token with
  | symbol s =>
    cases s with
    | leftParen => exact absurd rfl noCall
    | arrow => exact absurd rfl noArrow
    | _ => rfl
  | _ => rfl

/-- A part starts with some token, and not with an arrow. -/
theorem Part.first (part : Part depth) :
    ∃ token tokens, part.tokens = token :: tokens ∧ token ≠ .symbol .arrow := by
  obtain ⟨ts, read, parsed⟩ := part.parsed
  rw [part.tokens_eq read]
  cases depth with
  | zero => cases parsed
  | succ depth =>
    cases ts with
    | nil => cases parsed
    | cons t ts =>
      refine ⟨t.token, ts.map (·.token), rfl, fun arrow => ?_⟩
      obtain ⟨token, offset⟩ := t
      cases arrow
      cases parsed

theorem parse_matchOn (noCall : part.tokens.head? ≠ some (.symbol .leftParen))
    (noRegex : ∀ p f, part.tokens.head? ≠ some (.regex p f)) :
    parseWithDepth (matchOn part.text) (depth + 1) =
      .ok (.matching part.node [(.wildcard, .number 1)]) := by
  obtain ⟨ts, read, same⟩ := (part.reads_matchOn noRegex).tokensOf
  obtain ⟨start, ts, rfl, tail⟩ := front_of_tokens same
  have brace : Symbol.leftBrace ∈ stops := by decide
  obtain ⟨rest, subject, left⟩ := part.stands (matchOn part.text).toList (depth + 1) brace tail
  obtain ⟨token, tokens, opens, noArrow⟩ := part.first
  rw [opens] at noCall tail
  obtain ⟨offset, ts, rfl, -⟩ := front_of_tokens tail
  obtain ⟨braceAt, rest, rfl, wildcard⟩ := front_of_tokens left
  obtain ⟨wildcardAt, rest, rfl, arrow⟩ := front_of_tokens wildcard
  obtain ⟨arrowAt, rest, rfl, body⟩ := front_of_tokens arrow
  obtain ⟨bodyAt, rest, rfl, closing⟩ := front_of_tokens body
  obtain ⟨endAt, rest, rfl, last⟩ := front_of_tokens closing
  cases List.map_eq_nil_iff.mp last
  obtain ⟨depth, rfl⟩ : ∃ n, depth = n + 1 := by
    cases depth with
    | zero => cases subject
    | succ depth => exact ⟨depth, rfl⟩
  have noCall : token ≠ .symbol .leftParen := fun same => noCall (congrArg some same)
  have arms (source : List Char) : enclosed source .rightBrace
      (matchArm source (levelAt source (depth + 1 + 1) (depth + 1)) braceAt) braceAt
      [⟨.identifier "_", wildcardAt⟩, ⟨.symbol .arrow, arrowAt⟩, ⟨.number 1, bodyAt⟩,
        ⟨.symbol .rightBrace, endAt⟩] = .ok ([(.wildcard, .number 1)], []) := rfl
  refine parse_of_tokens read (expression_of_primary matchOn_plain ?_)
  refine (afterName_match noCall noArrow start ts).trans ?_
  exact bind_ok subject (bind_ok (expect_symbol _ _) (bind_ok (arms _) rfl))

end

section
variable {source : List Char} {level : Level} {x : Node} {ts rest : List Spanned}

/-- What follows an operand is read alike behind any other one. -/
theorem postfixes_anyNode {fuel : Nat} {node : Node}
    (h : postfixes source level fuel node ts = .ok (x, rest)) (node' : Node) :
    ∃ x', postfixes source level fuel node' ts = .ok (x', rest) := by
  induction fuel generalizing node node' ts with
  | zero =>
    cases h
    exact ⟨node', rfl⟩
  | succ fuel ih =>
    unfold postfixes at h ⊢
    split at h
    · exact ih h _
    · split at h
      · dsimp only
        split at h
        · split at h
          next call =>
            rw [if_pos call]
            obtain ⟨⟨args, ts₂⟩, read, h⟩ := ok_of_bind h
            obtain ⟨x', read'⟩ := ih h (.method node' _ args)
            exact ⟨x', bind_ok read read'⟩
          next noCall =>
            rw [if_neg noCall]
            exact ih h _
        · cases h
      · cases h
    · split at h
      · exact ih h _
      · cases h
    · obtain ⟨⟨segment, ts₁⟩, read, h⟩ := ok_of_bind h
      dsimp only at h
      split at h
      · obtain ⟨x', read'⟩ := ih h (node'.withSegment segment)
        exact ⟨x', bind_ok read read'⟩
      · cases h
    · cases h
      exact ⟨node', rfl⟩

theorem conditionalRest_anyNode {condition : Node} {start : Nat}
    (h : conditionalRest source level condition start ts = .ok (x, rest)) (condition' : Node) :
    ∃ x', conditionalRest source level condition' start ts = .ok (x', rest) := by
  obtain ⟨⟨thenBranch, ts₁⟩, read, h⟩ := ok_of_bind h
  dsimp only at h
  split at h
  · obtain ⟨⟨elseBranch, ts₂⟩, last, h⟩ := ok_of_bind h
    cases h
    exact ⟨.conditional condition' thenBranch elseBranch, bind_ok read (bind_ok last rfl)⟩
  · cases h
  · cases h

theorem operators_anyNode {power fuel : Nat} {left : Node}
    (h : operators source level power fuel left ts = .ok (x, rest)) (left' : Node) :
    ∃ x', operators source level power fuel left' ts = .ok (x', rest) := by
  induction fuel generalizing left left' ts with
  | zero =>
    cases h
    exact ⟨left', rfl⟩
  | succ fuel ih =>
    unfold operators at h ⊢
    split at h
    · dsimp only
      split at h
      next stop =>
        cases h
        exact ⟨left', if_pos stop⟩
      next binds =>
        rw [if_neg binds]
        obtain ⟨⟨node, ts₁⟩, read, h⟩ := ok_of_bind h
        obtain ⟨node', read'⟩ := conditionalRest_anyNode read left'
        obtain ⟨x', read₂⟩ := ih h node'
        exact ⟨x', bind_ok read' read₂⟩
    · split at h
      next stop =>
        cases h
        exact ⟨left', if_pos stop⟩
      next test =>
        rw [if_neg test]
        split at h
        · split at h
          · exact ih h _
          · cases h
        · cases h
    · split at h
      · dsimp only
        split at h
        next stop =>
          cases h
          exact ⟨left', if_pos stop⟩
        next binds =>
          rw [if_neg binds]
          obtain ⟨⟨right, ts₁⟩, read, h⟩ := ok_of_bind h
          obtain ⟨x', read'⟩ := ih h (.binary _ left' right)
          exact ⟨x', bind_ok read read'⟩
      · cases h
        exact ⟨left', rfl⟩
    · cases h
      exact ⟨left', rfl⟩

end

section
variable {source : List Char} {maxDepth depth : Nat}

/-- Parameters read as arguments are left at the parenthesis behind them. -/
theorem itemsUntil_names {fuel : Nat} {ts rest body : List Spanned} {names : List String}
    {done xs : List Node} (found : namesThenArrow? ts = some (names, body))
    (enough : ts.length < fuel)
    (h : itemsUntil .rightParen (fun _ => expression source maxDepth depth 0) done fuel ts =
      .ok (xs, rest)) :
    ∃ parenAt arrowAt,
      rest = ⟨.symbol .rightParen, parenAt⟩ :: ⟨.symbol .arrow, arrowAt⟩ :: body := by
  have right : Symbol.rightParen ∈ closers := by decide
  have comma : Symbol.comma ∈ closers := by decide
  fun_induction namesThenArrow? ts generalizing names fuel done with
  | case1 name nameAt commaAt ts ih =>
    obtain ⟨⟨names, ts₁⟩, found, same⟩ := Option.map_eq_some_iff.mp found
    cases same
    obtain ⟨fuel, rfl⟩ : ∃ n, fuel = n + 1 := ⟨fuel - 1, by omega⟩
    obtain ⟨⟨y, ts₂⟩, read, h⟩ := ok_of_bind h
    cases expression_name_closer comma read
    simp only [List.length_cons] at enough
    exact ih found (by omega) h
  | case2 name nameAt parenAt arrowAt ts =>
    cases found
    obtain ⟨fuel, rfl⟩ : ∃ n, fuel = n + 1 := ⟨fuel - 1, by omega⟩
    obtain ⟨⟨y, ts₂⟩, read, h⟩ := ok_of_bind h
    cases expression_name_closer right read
    cases h
    exact ⟨parenAt, arrowAt, rfl⟩
  | case3 => cases found

/-- Parameters read as arguments leave the arrow. -/
theorem arguments_parameters {offset : Nat} {ts rest body : List Spanned} {names : List String}
    {args : List Node} (found : parameters? ts = some (names, body))
    (h : arguments source (levelAt source maxDepth depth) (⟨.symbol .leftParen, offset⟩ :: ts) =
      .ok (args, rest)) : ∃ arrowAt, rest = ⟨.symbol .arrow, arrowAt⟩ :: body := by
  obtain ⟨⟨⟨⟩, ts₁⟩, opened, h⟩ := ok_of_bind h
  cases opened
  obtain ⟨⟨xs, ts₂⟩, listed, h⟩ := ok_of_bind h
  unfold parameters? at found
  split at found
  next =>
    cases found
    cases listed
    cases h
    exact ⟨_, rfl⟩
  next =>
    obtain ⟨parenAt, arrowAt, rfl⟩ := itemsUntil_names found (Nat.lt_succ_self _) listed
    cases h
    exact ⟨arrowAt, rfl⟩

/-- The word and parameters behind it are a call, and an arrow is left over. -/
theorem expression_parameters {power start offset : Nat} {ts rest body : List Spanned}
    {names : List String} {x : Node} (found : parameters? ts = some (names, body))
    (h : expression source maxDepth depth power
      (⟨.identifier "match", start⟩ :: ⟨.symbol .leftParen, offset⟩ :: ts) = .ok (x, rest)) :
    rest ≠ [] := by
  cases depth with
  | zero => cases h
  | succ depth =>
    obtain ⟨⟨left, ts₁⟩, first, h⟩ := ok_of_bind h
    rw [operand_plain matchOn_plain] at first
    obtain ⟨⟨node, ts₂⟩, called, first⟩ := ok_of_bind first
    obtain ⟨⟨args, ts₃⟩, listed, called⟩ := ok_of_bind called
    cases called
    obtain ⟨arrowAt, rfl⟩ := arguments_parameters found listed
    cases first
    cases h
    exact List.cons_ne_nil _ _

/-- What is in parentheses is the argument of a call where the word stands in front of it, and what
follows is read alike. -/
theorem expression_group {power offset : Nat} (start : Nat) {ts rest : List Spanned} {x : Node}
    (group : parameters? ts = none)
    (h : expression source maxDepth (depth + 1) power (⟨.symbol .leftParen, offset⟩ :: ts) =
      .ok (x, rest)) :
    ∃ x', expression source maxDepth (depth + 1) power
      (⟨.identifier "match", start⟩ :: ⟨.symbol .leftParen, offset⟩ :: ts) = .ok (x', rest) := by
  obtain ⟨⟨left, ts₁⟩, first, h⟩ := ok_of_bind h
  rw [operand_plain rfl] at first
  obtain ⟨⟨node, ts₂⟩, grouped, first⟩ := ok_of_bind first
  unfold primary at grouped
  dsimp only at grouped
  rw [group] at grouped
  obtain ⟨⟨inner, ts₃⟩, read, grouped⟩ := ok_of_bind grouped
  obtain ⟨⟨⟨⟩, ts₄⟩, close, grouped⟩ := ok_of_bind grouped
  cases grouped
  obtain ⟨closeAt, rfl⟩ := expect_front close
  have right : Symbol.rightParen ∈ closers := by decide
  have other : ¬ startsWith .rightParen ts = true := fun starts =>
    expression_refuses right starts read
  have listed : itemsUntil .rightParen (fun _ => (levelAt source maxDepth depth).expression 0) []
      (ts.length + 1) ts = .ok ([inner], ⟨.symbol .rightParen, closeAt⟩ :: ts₄) := by
    rw [itemsUntil, if_neg other]
    exact bind_ok read rfl
  have called : arguments source (levelAt source maxDepth depth)
      (⟨.symbol .leftParen, offset⟩ :: ts) = .ok ([inner], ts₄) :=
    bind_ok (expect_symbol _ _) (bind_ok listed rfl)
  obtain ⟨left', first'⟩ := postfixes_anyNode first (.call "match" [inner])
  obtain ⟨x', h'⟩ := operators_anyNode h left'
  have operand' : operand source (levelAt source maxDepth depth)
      (⟨.identifier "match", start⟩ :: ⟨.symbol .leftParen, offset⟩ :: ts) = .ok (left', ts₁) := by
    rw [operand_plain matchOn_plain]
    exact bind_ok (bind_ok called rfl) first'
  exact ⟨x', bind_ok operand' h'⟩

end

/-- Behind the word a parenthesis starts the arguments of a call, and the arms are left over. -/
theorem parse_matchOn_call {depth : Nat} (part : Part depth)
    (call : part.tokens.head? = some (.symbol .leftParen)) (limit : Nat) :
    ∃ e, parseWithDepth (matchOn part.text) limit = .error e := by
  have noRegex : ∀ p f, part.tokens.head? ≠ some (.regex p f) := by
    rw [call]
    exact nofun
  obtain ⟨ts, read, same⟩ := (part.reads_matchOn noRegex).tokensOf
  obtain ⟨start, ts, rfl, tail⟩ := front_of_tokens same
  obtain ⟨token, tokens, opens, -⟩ := part.first
  have brace : Symbol.leftBrace ∈ stops := by decide
  cases whole : parseWithDepth (matchOn part.text) limit with
  | error e => exact ⟨e, rfl⟩
  | ok tree =>
    obtain ⟨ts', read', parsed⟩ := ok_of_bind whole
    cases read.symm.trans read'
    obtain ⟨⟨node, rest⟩, parsed, ended⟩ := ok_of_bind parsed
    have all : rest = [] := by
      cases rest with
      | nil => rfl
      | cons t rest => cases ended
    subst all
    rw [opens] at call tail
    cases call
    obtain ⟨offset, ts, rfl, -⟩ := front_of_tokens tail
    rw [← opens] at tail
    cases params : parameters? ts with
    | some found => exact absurd rfl (expression_parameters params parsed)
    | none =>
      obtain ⟨rest, alone, left⟩ := part.stands (matchOn part.text).toList limit brace tail
      obtain ⟨braceAt, rest, rfl, -⟩ := front_of_tokens left
      -- the two readings are compared at a depth that is enough for both
      have deep : depth ≤ depth + limit + 1 := by omega
      have deep' : limit ≤ depth + limit + 1 := by omega
      have alone : expression _ limit (depth + limit + 1) 0 _ = .ok _ :=
        expression_deeper deep alone
      have parsed : expression _ limit (depth + limit + 1) 0 _ = .ok _ :=
        expression_deeper deep' parsed
      obtain ⟨x', called⟩ := expression_group start params alone
      cases parsed.symm.trans called

/-- A text that parses on its own may be the subject of a match, if it starts neither with a
parenthesis nor with a regex. Behind a parenthesis no match starts: the word is called with what is
in the parentheses, and there is no place for the arms, whatever the limit. -/
theorem subject_or_call {depth : Nat} (part : Part depth) :
    (part.tokens.head? ≠ some (.symbol .leftParen) →
      (∀ p f, part.tokens.head? ≠ some (.regex p f)) →
      parseWithDepth (matchOn part.text) (depth + 1) =
        .ok (.matching part.node [(.wildcard, .number 1)])) ∧
    (part.tokens.head? = some (.symbol .leftParen) →
      ∀ limit, ∃ e, parseWithDepth (matchOn part.text) limit = .error e) :=
  ⟨parse_matchOn part, parse_matchOn_call part⟩

/-- A list in front of a point, as a bracket behind a value reads otherwise. -/
def listLength : Part 3 where
  text := "[1].length"
  node := .path (.array [.number 1]) [.field "length"]
  parses := by rfl
  plain := by
    have number : ¬ (Node.number 1).Mentions "match" :=
      Node.unmentioned nofun (List.forall_mem_nil _)
    have list : ¬ (Node.array [.number 1]).Mentions "match" :=
      Node.unmentioned nofun (List.forall_mem_singleton.mpr number)
    exact Node.unmentioned nofun (List.forall_mem_singleton.mpr list)

/-- A value in parentheses. -/
def grouped : Part 2 where
  text := "(1)"
  node := .number 1
  parses := by rfl
  plain := Node.unmentioned nofun (List.forall_mem_nil _)

/-- A list with a member behind it may be matched on, a number in parentheses may not. -/
theorem list_is_subject :
    listLength.tokens.head? ≠ some (.symbol .leftParen) ∧
    (∀ p f, listLength.tokens.head? ≠ some (.regex p f)) ∧
    parseWithDepth "match [1].length \x7b _ => 1 \x7d" 4 =
      .ok (.matching listLength.node [(.wildcard, .number 1)]) ∧
    grouped.tokens.head? = some (.symbol .leftParen) ∧
    ∃ e, parseWithDepth "match (1) \x7b _ => 1 \x7d" 3 = .error e := by
  have opens : listLength.tokens.head? = some (.symbol .leftBracket) := rfl
  have noCall : listLength.tokens.head? ≠ some (.symbol .leftParen) := by
    rw [opens]
    exact nofun
  have noRegex : ∀ p f, listLength.tokens.head? ≠ some (.regex p f) := by
    rw [opens]
    exact nofun
  have call : grouped.tokens.head? = some (.symbol .leftParen) := rfl
  exact ⟨noCall, noRegex, (subject_or_call listLength).1 noCall noRegex, call,
    (subject_or_call grouped).2 call 3⟩

/-- A text in parentheses parses, and a match on it does not. -/
theorem grouped_is_no_subject :
    parseWithDepth "(1)" 2 = .ok (.number 1) ∧
    parseWithDepth "match (1) \x7b _ => 1 \x7d" 3 =
      .error (.badText (.unexpected "'\x7b'") ⟨10, "\x7b _ => 1 \x7d"⟩) :=
  ⟨by rfl, by rfl⟩

end DocExpr.Expr
