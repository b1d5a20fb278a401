import DocExpr.Proofs.Lexer.Reading
import DocExpr.Proofs.Parser.Stability

/-! Texts that parse on their own parse to the same trees inside parentheses, lists, calls, objects
and lambdas. The tokens of the whole are those of the parts with marks between them, and each part
is read as it is alone. -/
namespace DocExpr.Expr

/-- A text that parses on its own, at most `depth` deep, and does not use `match` as a variable. -/
structure Part (depth : Nat) where
  text : String
  node : Node
  parses : parseWithDepth text depth = .ok node
  plain : ¬ node.Mentions "match"

/-- A text that reads as one name. -/
structure Name where
  text : String
  name : String
  reads : tokensIn text = [.identifier name]

/-- A text that reads as one token which may be a key of an object. -/
structure Key where
  text : String
  key : String
  token : Token
  reads : tokensIn text = [token]
  names : keyName? token = some key

/-- Texts with commas between them read one after the other, up to a mark that follows. -/
theorem Reads.listed {β : Type} {text : β → List Char} {tokens : β → List Token} {xs : List β}
    (each : ∀ x ∈ xs, Reads true (text x) (tokens x)) {mark : Char} {more : List Char}
    {others : List Token} (ends : Ends mark)
    (back : ∀ regexAllowed, Reads regexAllowed (mark :: more) others) :
    Reads true ([','].intercalate (xs.map text) ++ mark :: more)
      ([Token.symbol .comma].intercalate (xs.map tokens) ++ others) := by
  induction xs with
  | nil => exact back true
  | cons x xs ih =>
    have first := each x List.mem_cons_self
    have rest := ih fun y isIn => each y (List.mem_cons_of_mem x isIn)
    cases xs with
    | nil =>
      simp only [List.map_cons, List.map_nil, List.intercalate_singleton]
      exact first.append ends back
    | cons y xs =>
      simp only [List.map_cons, List.intercalate_cons_cons, List.append_assoc, List.cons_append,
        List.nil_append] at rest ⊢
      have comma : Ends ',' := marks_end (by decide)
      exact first.append comma (.mark comma rfl rest)

theorem Followed.of_tokens {ts ts' : List Spanned} {others : List Token}
    (same : ts'.map (·.token) = ts.map (·.token) ++ others) :
    ∃ more, Followed more ts ts' ∧ more.map (·.token) = others := by
  induction ts generalizing ts' with
  | nil => exact ⟨ts', .nil, same⟩
  | cons t ts ih =>
    obtain ⟨t', ts', rfl, head, tail⟩ := List.map_eq_cons_iff.mp same
    obtain ⟨more, follow, left⟩ := ih tail
    obtain ⟨token, offset⟩ := t
    obtain ⟨token', offset'⟩ := t'
    cases head
    exact ⟨more, .cons token offset offset' follow, left⟩

theorem Followed.tokens {more ts ts' : List Spanned} (follow : Followed more ts ts') :
    ts'.map (·.token) = ts.map (·.token) ++ more.map (·.token) := by
  induction follow with
  | nil => rfl
  | cons token offset offset' tail ih => exact congrArg (token :: ·) ih

theorem closed_of_tokens {s : Symbol} {others : List Token} {more : List Spanned}
    (isStop : s ∈ stops) (same : more.map (·.token) = .symbol s :: others) : Closed more := by
  obtain ⟨offset, ts, rfl, -⟩ := front_of_tokens same
  exact .mark s offset ts isStop

/-- An item of a list reads these tokens as `x` where a mark of the list follows. -/
def Gives {α : Type} (item : List α → Parse α) (tokens : List Token) (x : α) : Prop :=
  ∀ done {ts s others}, s ∈ closers → ts.map (·.token) = tokens ++ .symbol s :: others →
    ∃ rest, item done ts = .ok (x, rest) ∧ rest.map (·.token) = .symbol s :: others

section
variable {α β : Type} {close : Symbol} {item : List α → Parse α} {tokens : β → List Token}
  {value : β → α}

theorem startsWith_of_tokens {s : Symbol} {ts : List Spanned} {others : List Token}
    (same : ts.map (·.token) = .symbol s :: others) : startsWith s ts = true := by
  obtain ⟨offset, ts, rfl, -⟩ := front_of_tokens same
  exact decide_eq_true rfl

theorem itemsUntil_listed (closes : close ∈ closers) (noComma : close ≠ .comma)
    (refuses : ∀ done ts found, startsWith close ts = true → item done ts ≠ .ok found)
    {xs : List β} (gives : ∀ x ∈ xs, Gives item (tokens x) (value x)) {done : List α} {fuel : Nat}
    {ts : List Spanned} {others : List Token} (enough : ts.length < fuel)
    (same : ts.map (·.token) =
      [Token.symbol .comma].intercalate (xs.map tokens) ++ .symbol close :: others) :
    ∃ rest, itemsUntil close item done fuel ts = .ok (done.reverse ++ xs.map value, rest) ∧
      rest.map (·.token) = .symbol close :: others := by
  induction xs generalizing done fuel ts with
  | nil =>
    obtain ⟨fuel, rfl⟩ : ∃ n, fuel = n + 1 := ⟨fuel - 1, by omega⟩
    refine ⟨ts, ?_, same⟩
    rw [itemsUntil, if_pos (startsWith_of_tokens same), List.map_nil, List.append_nil]
  | cons x xs ih =>
    obtain ⟨fuel, rfl⟩ : ∃ n, fuel = n + 1 := ⟨fuel - 1, by omega⟩
    have first := gives x List.mem_cons_self
    have later := fun y isIn => gives y (List.mem_cons_of_mem x isIn)
    cases xs with
    | nil =>
      rw [List.map_cons, List.map_nil, List.intercalate_singleton] at same
      obtain ⟨rest, read, left⟩ := first done closes same
      refine ⟨rest, ?_, left⟩
      have other : ¬ startsWith close ts = true := fun starts => refuses done ts _ starts read
      obtain ⟨offset, rest, rfl, -⟩ := front_of_tokens left
      rw [itemsUntil, if_neg other]
      refine bind_ok read ?_
      dsimp only
      split
      next found =>
        cases found
        exact absurd rfl noComma
      next =>
        rw [List.reverse_cons]
        rfl
    | cons y xs =>
      rw [List.map_cons, List.map_cons, List.intercalate_cons_cons, List.append_assoc,
        List.append_assoc, List.singleton_append] at same
      have comma : Symbol.comma ∈ closers := by decide
      obtain ⟨rest, read, left⟩ := first done comma same
      have other : ¬ startsWith close ts = true := fun starts => refuses done ts _ starts read
      have shorter : rest.length ≤ ts.length := by
        have whole := congrArg List.length same
        have part := congrArg List.length left
        simp only [List.length_map, List.length_append, List.length_cons] at whole part
        omega
      obtain ⟨offset, rest, rfl, tail⟩ := front_of_tokens left
      rw [List.length_cons] at shorter
      have enough' : rest.length < fuel := by omega
      obtain ⟨rest', read', left'⟩ := ih later enough' tail
      refine ⟨rest', ?_, left'⟩
      rw [itemsUntil, if_neg other]
      refine bind_ok read (read'.trans ?_)
      simp

theorem expect_symbol {source : List Char} {s : Symbol} {openedAt : Option Nat} (offset : Nat)
    (ts : List Spanned) :
    expect source s openedAt (⟨.symbol s, offset⟩ :: ts) = .ok ((), ts) := if_pos rfl

theorem expect_front {source : List Char} {s : Symbol} {openedAt : Option Nat}
    {ts rest : List Spanned} (h : expect source s openedAt ts = .ok ((), rest)) :
    ∃ offset, ts = ⟨.symbol s, offset⟩ :: rest := by
  cases ts with
  | nil => cases openedAt <;> cases h
  | cons t ts =>
    obtain ⟨token, offset⟩ := t
    unfold expect at h
    cases token with
    | symbol s' =>
      dsimp only at h
      split at h
      next same =>
        cases h
        exact ⟨offset, by rw [same]⟩
      next => cases h
    | _ => cases h

/-- The list with its closing mark. -/
theorem enclosed_listed {source : List Char} (closes : close ∈ closers) (noComma : close ≠ .comma)
    (refuses : ∀ done ts found, startsWith close ts = true → item done ts ≠ .ok found)
    {xs : List β} (gives : ∀ x ∈ xs, Gives item (tokens x) (value x)) {openedAt : Nat}
    {ts : List Spanned} {others : List Token}
    (same : ts.map (·.token) =
      [Token.symbol .comma].intercalate (xs.map tokens) ++ .symbol close :: others) :
    ∃ rest, enclosed source close item openedAt ts = .ok (xs.map value, rest) ∧
      rest.map (·.token) = others := by
  obtain ⟨rest, read, left⟩ :=
    itemsUntil_listed closes noComma refuses gives (Nat.lt_succ_self _) same
  obtain ⟨offset, rest, rfl, tail⟩ := front_of_tokens left
  exact ⟨rest, bind_ok read (bind_ok (expect_symbol _ _) rfl), tail⟩

end

section
variable {source : List Char} {maxDepth depth power : Nat}

/-- No expression starts with a mark of a list. -/
theorem expression_closer {s : Symbol} (closes : s ∈ closers) {offset : Nat} {ts : List Spanned}
    {found : Node × List Spanned} :
    expression source maxDepth depth power (⟨.symbol s, offset⟩ :: ts) ≠ .ok found := by
  intro h
  cases depth with
  | zero => cases h
  | succ depth =>
    simp only [closers, List.mem_cons, List.not_mem_nil, or_false] at closes
    rcases closes with rfl | rfl | rfl | rfl
    all_goals cases h

theorem expression_refuses {s : Symbol} (closes : s ∈ closers) {ts : List Spanned}
    {found : Node × List Spanned} (starts : startsWith s ts = true) :
    expression source maxDepth depth power ts ≠ .ok found := by
  unfold startsWith at starts
  split at starts
  next s' offset ts =>
    cases of_decide_eq_true starts
    exact expression_closer closes
  next => cases starts

/-- A name in front of a mark leaves the mark. -/
theorem expression_name_closer {s : Symbol} (closes : s ∈ closers) {name : String}
    {offset offset' : Nat} {ts rest : List Spanned} {x : Node}
    (h : expression source maxDepth depth power
      (⟨.identifier name, offset⟩ :: ⟨.symbol s, offset'⟩ :: ts) = .ok (x, rest)) :
    rest = ⟨.symbol s, offset'⟩ :: ts := by
  cases depth with
  | zero => cases h
  | succ depth =>
    have refuses := @expression_closer source maxDepth depth unaryPower s closes offset' ts
    have refuses₀ := @expression_closer source maxDepth depth 0 s closes offset' ts
    obtain ⟨⟨left, ts₁⟩, read, h⟩ := ok_of_bind h
    have closed : Closed (⟨.symbol s, offset'⟩ :: ts) :=
      .mark s offset' ts (stops_of_closers closes)
    unfold operand at read
    dsimp only at read
    split at read
    next op _ =>
      obtain ⟨found, read, -⟩ := ok_of_bind read
      exact absurd read refuses
    next =>
      obtain ⟨⟨node, ts₂⟩, first, read⟩ := ok_of_bind read
      have named : (if name = "match" then
            matching source (levelAt source maxDepth depth) offset (⟨.symbol s, offset'⟩ :: ts)
          else .ok (.ofName name, ⟨.symbol s, offset'⟩ :: ts)) = .ok (node, ts₂) := by
        simp only [closers, List.mem_cons, List.not_mem_nil, or_false] at closes
        rcases closes with rfl | rfl | rfl | rfl
        all_goals exact first
      split at named
      next =>
        obtain ⟨found, subject, -⟩ := ok_of_bind named
        exact absurd subject refuses₀
      next =>
        cases named
        dsimp only at read
        rw [postfixes_closed closed] at read
        cases read
        dsimp only at h
        rw [operators_closed closed] at h
        cases h
        rfl

/-- The parenthesis around an expression starts no parameters, unless an arrow follows it. -/
theorem parameters?_parsed {x : Node} {ts ts' more : List Spanned} {offset : Nat}
    (h : expression source maxDepth depth power ts = .ok (x, []))
    (follow : Followed (⟨.symbol .rightParen, offset⟩ :: more) ts ts')
    (noArrow : startsWith .arrow more = false) : parameters? ts' = none := by
  have right : Symbol.rightParen ∈ closers := by decide
  have comma : Symbol.comma ∈ closers := by decide
  have arrow (offset : Nat) (ts : List Spanned) :
      ¬ startsWith .arrow (⟨.symbol .arrow, offset⟩ :: ts) = false := by
    rw [startsWith_of_tokens rfl]
    exact nofun
  unfold parameters?
  split
  next =>
    cases follow with
    | nil => exact absurd noArrow (arrow _ _)
    | cons _ _ _ tail => exact absurd h (expression_closer right)
  next =>
    unfold namesThenArrow?
    split
    next =>
      cases follow with
      | cons _ _ _ tail =>
      cases tail with
      | cons _ _ _ tail => cases expression_name_closer comma h
    next =>
      cases follow with
      | cons _ _ _ tail =>
      cases tail with
      | nil => exact absurd noArrow (arrow _ _)
      | cons _ _ _ tail => cases expression_name_closer right h
    next => rfl

end

section
variable {depth : Nat}

theorem Part.parsed (part : Part depth) : ∃ ts, tokensOf part.text.toList = .ok ts ∧
    expression part.text.toList depth depth 0 ts = .ok (part.node, []) := by
  obtain ⟨ts, read, h⟩ := ok_of_bind part.parses
  refine ⟨ts, read, ?_⟩
  unfold parseTokens at h
  obtain ⟨⟨node, rest⟩, parsed, h⟩ := ok_of_bind h
  cases rest with
  | nil =>
    cases h
    exact parsed
  | cons t rest => cases h

/-- The tokens of a part. -/
def Part.tokens (part : Part depth) : List Token := tokensIn part.text

theorem Part.tokens_eq (part : Part depth) {ts : List Spanned}
    (read : tokensOf part.text.toList = .ok ts) : part.tokens = ts.map (·.token) := by
  rw [Part.tokens, tokensIn, read]

theorem Part.reads (part : Part depth) : Reads true part.text.toList part.tokens := by
  obtain ⟨ts, read, -⟩ := part.parsed
  rw [part.tokens_eq read]
  exact tokensOf_reads read

/-- A part is read in the whole as it is alone. -/
theorem Part.stands (part : Part depth) (source : List Char) (maxDepth : Nat) {s : Symbol}
    (isStop : s ∈ stops) {ts' : List Spanned} {others : List Token}
    (same : ts'.map (·.token) = part.tokens ++ .symbol s :: others) :
    ∃ rest, expression source maxDepth depth 0 ts' = .ok (part.node, rest) ∧
      rest.map (·.token) = .symbol s :: others := by
  obtain ⟨ts, read, parsed⟩ := part.parsed
  rw [part.tokens_eq read] at same
  obtain ⟨more, follow, left⟩ := Followed.of_tokens same
  have closed := closed_of_tokens isStop left
  obtain ⟨rest', parsed', follow'⟩ := expression_stable closed (Nat.le_refl depth) 0 follow parsed
    fun _ => .inr part.plain
  cases follow'
  exact ⟨more, parsed', left⟩

theorem Part.gives (part : Part depth) (source : List Char) (maxDepth : Nat) :
    Gives (fun _ => expression source maxDepth depth 0) part.tokens part.node :=
  fun _ _ _ _ closes same => part.stands source maxDepth (stops_of_closers closes) same

theorem Part.parameters?_none (part : Part depth) {ts' : List Spanned} {others : List Token}
    (same : ts'.map (·.token) = part.tokens ++ .symbol .rightParen :: others)
    (noArrow : others.head? ≠ some (.symbol .arrow)) : parameters? ts' = none := by
  obtain ⟨ts, read, parsed⟩ := part.parsed
  rw [part.tokens_eq read] at same
  obtain ⟨more, follow, left⟩ := Followed.of_tokens same
  obtain ⟨offset, more, rfl, rfl⟩ := front_of_tokens left
  refine parameters?_parsed parsed follow ?_
  unfold startsWith
  split
  next s offset ts =>
    refine decide_eq_false ?_
    rintro rfl
    exact noArrow rfl
  next => rfl

/-- Nothing need follow a part. -/
theorem Part.gives_last (part : Part depth) (source : List Char) (maxDepth : Nat)
    {ts' : List Spanned} (same : ts'.map (·.token) = part.tokens) :
    expression source maxDepth depth 0 ts' = .ok (part.node, []) := by
  obtain ⟨ts, read, parsed⟩ := part.parsed
  rw [part.tokens_eq read, ← List.append_nil (ts.map _)] at same
  obtain ⟨more, follow, left⟩ := Followed.of_tokens same
  cases List.map_eq_nil_iff.mp left
  obtain ⟨rest', parsed', follow'⟩ := expression_stable .nil (Nat.le_refl depth) 0 follow parsed
    fun _ => .inl rfl
  cases follow'
  exact parsed'

theorem parse_of_tokens {text : String} {maxDepth : Nat} {ts : List Spanned} {node : Node}
    (read : tokensOf text.toList = .ok ts)
    (parsed : expression text.toList maxDepth maxDepth 0 ts = .ok (node, [])) :
    parseWithDepth text maxDepth = .ok node :=
  bind_ok read (bind_ok parsed rfl)

/-- An operand that nothing follows, or a mark of a list, is the whole expression. -/
theorem expression_closed {source : List Char} {maxDepth power : Nat} {t : Spanned}
    {ts rest : List Spanned} {node : Node} (closed : Closed rest) (plain : unaryOp? t.token = none)
    (h : primary source (levelAt source maxDepth depth) (t :: ts) = .ok (node, rest)) :
    expression source maxDepth (depth + 1) power (t :: ts) = .ok (node, rest) := by
  have first : operand source (levelAt source maxDepth depth) (t :: ts) = .ok (node, rest) := by
    rw [operand_plain plain]
    exact bind_ok h (postfixes_closed closed _ _)
  exact bind_ok first (operators_closed closed _ _ _)

theorem expression_of_primary {source : List Char} {maxDepth power : Nat} {t : Spanned}
    {ts : List Spanned} {node : Node} (plain : unaryOp? t.token = none)
    (h : primary source (levelAt source maxDepth depth) (t :: ts) = .ok (node, [])) :
    expression source maxDepth (depth + 1) power (t :: ts) = .ok (node, []) :=
  expression_closed .nil plain h

theorem Reads.last {mark : Char} {s : Symbol} (isMark : mark ∈ marks)
    (spells : symbol? [mark] = some (s, [])) (regexAllowed : Bool) :
    Reads regexAllowed [mark] [.symbol s] :=
  .mark (marks_end isMark) spells (.done rfl) regexAllowed

theorem Reads.opened {mark : Char} {s : Symbol} {cs : List Char} {tokens : List Token}
    (isMark : mark ∈ marks) (spells : symbol? (mark :: cs) = some (s, cs))
    (allows : (Token.symbol s).allowsRegex = true) (others : Reads true cs tokens)
    (regexAllowed : Bool) : Reads regexAllowed (mark :: cs) (.symbol s :: tokens) := by
  rw [← allows] at others
  exact .mark (marks_end isMark) spells others regexAllowed

theorem Part.reads_listed (parts : List (Part depth)) {mark : Char} {s : Symbol}
    (isMark : mark ∈ marks) (spells : symbol? [mark] = some (s, [])) :
    Reads true ((",".intercalate (parts.map (·.text))).toList ++ [mark])
      ([Token.symbol .comma].intercalate (parts.map Part.tokens) ++ [.symbol s]) := by
  rw [String.toList_intercalate, List.map_map]
  exact Reads.listed (fun part _ => part.reads) (marks_end isMark) (.last isMark spells)

/-- A part among the items of a list of expressions. -/
theorem Part.gives_among (source : List Char) (maxDepth : Nat) (parts : List (Part depth)) :
    ∀ part ∈ parts, Gives (fun _ => (levelAt source maxDepth depth).expression 0) part.tokens
      part.node :=
  fun part _ => part.gives source maxDepth

/-- An entry of an object reads as its value does behind the colon. -/
theorem objectEntry_gives {source : List Char} {level : Level} {key : String} {token : Token}
    {tokens : List Token} {node : Node} (start : Nat) (names : keyName? token = some key)
    (value : Gives (fun _ => level.expression 0) tokens node) :
    Gives (fun _ => objectEntry source level start) (token :: .symbol .colon :: tokens)
      (key, node) := by
  intro done ts s others closes same
  obtain ⟨offset, ts, rfl, tail⟩ := front_of_tokens same
  obtain ⟨offset', ts, rfl, behind⟩ := front_of_tokens tail
  obtain ⟨rest, read, left⟩ := value [] closes behind
  refine ⟨rest, ?_, left⟩
  have keyed : ∀ ts, objectKey source start (⟨token, offset⟩ :: ts) = .ok (key, ts) := by
    intro ts
    unfold objectKey
    dsimp only
    rw [names]
  exact bind_ok (keyed _) (bind_ok rfl (bind_ok read rfl))

/-- An entry of an object with a part for its value. -/
theorem entry_gives (source : List Char) (maxDepth start : Nat) (entry : Key × Part depth) :
    Gives (fun _ => objectEntry source (levelAt source maxDepth depth) start)
      (entry.1.token :: .symbol .colon :: entry.2.tokens) (entry.1.key, entry.2.node) :=
  objectEntry_gives start entry.1.names (entry.2.gives source maxDepth)

theorem objectEntry_refuses {source : List Char} {level : Level} {start : Nat} {s : Symbol}
    {ts : List Spanned} {found : (String × Node) × List Spanned} (starts : startsWith s ts = true) :
    objectEntry source level start ts ≠ .ok found := by
  intro h
  unfold startsWith at starts
  split at starts
  next => cases h
  next => cases starts

theorem parse_parenthesized (part : Part depth) :
    parseWithDepth ("(" ++ part.text ++ ")") (depth + 1) = .ok part.node := by
  have paren : ')' ∈ marks := by decide
  have inside := part.reads.append (marks_end paren) (Reads.last paren rfl)
  have reads : Reads true ("(" ++ part.text ++ ")").toList
      (.symbol .leftParen :: (part.tokens ++ [.symbol .rightParen])) := by
    rw [String.toList_append, String.toList_append]
    exact Reads.opened (by decide) rfl rfl inside true
  obtain ⟨ts, read, same⟩ := reads.tokensOf
  obtain ⟨offset, ts, rfl, tail⟩ := front_of_tokens same
  refine parse_of_tokens read (expression_of_primary rfl ?_)
  have right : Symbol.rightParen ∈ closers := by decide
  obtain ⟨rest, inner, left⟩ := part.gives _ (depth + 1) [] right tail
  obtain ⟨offset', others, rfl, none⟩ := front_of_tokens left
  cases List.map_eq_nil_iff.mp none
  have group : parameters? ts = Option.none := part.parameters?_none tail nofun
  unfold primary
  dsimp only
  rw [group]
  exact bind_ok inner (bind_ok (expect_symbol _ _) rfl)

theorem parse_array (parts : List (Part depth)) :
    parseWithDepth ("[" ++ ",".intercalate (parts.map (·.text)) ++ "]") (depth + 1) =
      .ok (.array (parts.map (·.node))) := by
  have bracket : ']' ∈ marks := by decide
  have inside := Part.reads_listed parts bracket rfl
  have reads : Reads true ("[" ++ ",".intercalate (parts.map (·.text)) ++ "]").toList
      (.symbol .leftBracket :: ([Token.symbol .comma].intercalate (parts.map Part.tokens) ++
        [.symbol .rightBracket])) := by
    rw [String.toList_append, String.toList_append]
    exact Reads.opened (by decide) rfl rfl inside true
  obtain ⟨ts, read, same⟩ := reads.tokensOf
  obtain ⟨offset, ts, rfl, tail⟩ := front_of_tokens same
  have right : Symbol.rightBracket ∈ closers := by decide
  obtain ⟨rest, listed, left⟩ := enclosed_listed right (by decide)
    (fun _ _ _ => expression_refuses right) (Part.gives_among _ (depth + 1) parts) tail
  cases List.map_eq_nil_iff.mp left
  exact parse_of_tokens read (expression_of_primary rfl (bind_ok listed rfl))

theorem parse_object (entries : List (Key × Part depth)) :
    parseWithDepth ("\x7b" ++
        ",".intercalate (entries.map fun (key, part) => key.text ++ ":" ++ part.text) ++ "\x7d")
        (depth + 1) =
      .ok (.object (entries.map fun (key, part) => (key.key, part.node))) := by
  have brace : '\x7d' ∈ marks := by decide
  have entry : ∀ entry ∈ entries, Reads true (entry.1.text ++ ":" ++ entry.2.text).toList
      (entry.1.token :: .symbol .colon :: entry.2.tokens) := by
    rintro ⟨key, part⟩ -
    have colon : ':' ∈ marks := by decide
    rw [String.toList_append, String.toList_append, List.append_assoc]
    exact (reads_of_tokensIn key.reads).append (marks_end colon)
      (Reads.opened colon rfl rfl part.reads)
  have inside := Reads.listed entry (marks_end brace) (Reads.last brace rfl)
  have reads : Reads true ("\x7b" ++ ",".intercalate
        (entries.map fun (key, part) => key.text ++ ":" ++ part.text) ++ "\x7d").toList
      (.symbol .leftBrace :: ([Token.symbol .comma].intercalate (entries.map fun entry =>
        entry.1.token :: .symbol .colon :: entry.2.tokens) ++ [.symbol .rightBrace])) := by
    rw [String.toList_append, String.toList_append, String.toList_intercalate, List.map_map]
    exact Reads.opened (by decide) rfl rfl inside true
  obtain ⟨ts, read, same⟩ := reads.tokensOf
  obtain ⟨offset, ts, rfl, tail⟩ := front_of_tokens same
  have right : Symbol.rightBrace ∈ closers := by decide
  obtain ⟨rest, listed, left⟩ := enclosed_listed right (by decide)
    (fun _ _ _ => objectEntry_refuses)
    (fun entry _ => entry_gives _ (depth + 1) offset entry) tail
  cases List.map_eq_nil_iff.mp left
  exact parse_of_tokens read (expression_of_primary rfl (bind_ok listed rfl))

theorem arguments_listed (source : List Char) (maxDepth : Nat) (parts : List (Part depth))
    {ts : List Spanned} (same : ts.map (·.token) = .symbol .leftParen ::
      ([Token.symbol .comma].intercalate (parts.map Part.tokens) ++ [.symbol .rightParen])) :
    arguments source (levelAt source maxDepth depth) ts = .ok (parts.map (·.node), []) := by
  obtain ⟨offset, ts, rfl, tail⟩ := front_of_tokens same
  have right : Symbol.rightParen ∈ closers := by decide
  obtain ⟨rest, listed, left⟩ : ∃ rest,
      itemsUntil .rightParen (fun _ => (levelAt source maxDepth depth).expression 0) []
        (ts.length + 1) ts = .ok ([].reverse ++ parts.map (·.node), rest) ∧
        rest.map (·.token) = [.symbol .rightParen] :=
    itemsUntil_listed right (by decide) (fun _ _ _ => expression_refuses right)
      (Part.gives_among source maxDepth parts) (Nat.lt_succ_self _) tail
  obtain ⟨offset', others, rfl, last⟩ := front_of_tokens left
  cases List.map_eq_nil_iff.mp last
  exact bind_ok (expect_symbol _ _) (bind_ok listed rfl)

theorem parse_call (f : Name) (callable : f.name ≠ "typeof") (parts : List (Part depth)) :
    parseWithDepth (f.text ++ "(" ++ ",".intercalate (parts.map (·.text)) ++ ")") (depth + 1) =
      .ok (.call f.name (parts.map (·.node))) := by
  have paren : '(' ∈ marks := by decide
  have close : ')' ∈ marks := by decide
  have inside := Part.reads_listed parts close rfl
  have reads : Reads true (f.text ++ "(" ++ ",".intercalate (parts.map (·.text)) ++ ")").toList
      (.identifier f.name :: .symbol .leftParen ::
        ([Token.symbol .comma].intercalate (parts.map Part.tokens) ++ [.symbol .rightParen])) := by
    rw [String.toList_append, String.toList_append, String.toList_append, List.append_assoc,
      List.append_assoc]
    exact (reads_of_tokensIn f.reads).append (marks_end paren)
      (Reads.opened paren rfl rfl inside)
  obtain ⟨ts, read, same⟩ := reads.tokensOf
  obtain ⟨offset, ts, rfl, tail⟩ := front_of_tokens same
  have called := fun source => arguments_listed source (depth + 1) parts tail
  obtain ⟨offset', ts, rfl, -⟩ := front_of_tokens tail
  exact parse_of_tokens read (expression_of_primary (if_neg callable) (bind_ok (called _) rfl))

theorem namesThenArrow?_listed {params : List Name} (some : params ≠ []) {ts : List Spanned}
    {others : List Token} (same : ts.map (·.token) =
      [Token.symbol .comma].intercalate (params.map fun name => [.identifier name.name]) ++
        .symbol .rightParen :: .symbol .arrow :: others) :
    ∃ rest, namesThenArrow? ts = .some (params.map (·.name), rest) ∧
      rest.map (·.token) = others := by
  induction params generalizing ts with
  | nil => exact absurd rfl some
  | cons name params ih =>
    cases params with
    | nil =>
      obtain ⟨_, ts, rfl, tail⟩ := front_of_tokens same
      obtain ⟨_, ts, rfl, behind⟩ := front_of_tokens tail
      obtain ⟨_, ts, rfl, last⟩ := front_of_tokens behind
      exact ⟨ts, rfl, last⟩
    | cons next params =>
      rw [List.map_cons, List.map_cons, List.intercalate_cons_cons] at same
      obtain ⟨_, ts, rfl, tail⟩ := front_of_tokens same
      obtain ⟨_, ts, rfl, behind⟩ := front_of_tokens tail
      obtain ⟨rest, found, left⟩ := ih (List.cons_ne_nil next params) behind
      refine ⟨rest, ?_, left⟩
      rw [namesThenArrow?, found]
      rfl

theorem parameters?_listed {params : List Name} {ts : List Spanned}
    {others : List Token} (same : ts.map (·.token) =
      [Token.symbol .comma].intercalate (params.map fun name => [.identifier name.name]) ++
        .symbol .rightParen :: .symbol .arrow :: others) :
    ∃ rest, parameters? ts = some (params.map (·.name), rest) ∧ rest.map (·.token) = others := by
  cases params with
  | nil =>
    obtain ⟨_, ts, rfl, tail⟩ := front_of_tokens same
    obtain ⟨_, ts, rfl, behind⟩ := front_of_tokens tail
    exact ⟨ts, rfl, behind⟩
  | cons name params =>
    obtain ⟨rest, found, left⟩ := namesThenArrow?_listed (List.cons_ne_nil name params) same
    exact ⟨rest, parameters?_of_names found, left⟩

theorem parse_lambda (params : List Name) (part : Part depth) :
    parseWithDepth ("(" ++ ",".intercalate (params.map (·.text)) ++ ") =>" ++ part.text)
        (depth + 1) =
      .ok (.lambda (params.map (·.name)) part.node) := by
  have paren : ')' ∈ marks := by decide
  have param : ∀ name ∈ params, Reads true name.text.toList [.identifier name.name] :=
    fun name _ => reads_of_tokensIn name.reads
  have arrow : Reads false (" =>".toList ++ part.text.toList)
      (.symbol .arrow :: part.tokens) := .token rfl rfl part.reads
  have behind := Reads.mark (marks_end paren) rfl arrow
  have inside := Reads.listed param (marks_end paren) behind
  have reads : Reads true
      ("(" ++ ",".intercalate (params.map (·.text)) ++ ") =>" ++ part.text).toList
      (.symbol .leftParen :: ([Token.symbol .comma].intercalate
        (params.map fun name => [.identifier name.name]) ++
          .symbol .rightParen :: .symbol .arrow :: part.tokens)) := by
    rw [String.toList_append, String.toList_append, String.toList_append,
      String.toList_intercalate, List.map_map, List.append_assoc]
    exact Reads.opened (by decide) rfl rfl inside true
  obtain ⟨ts, read, same⟩ := reads.tokensOf
  obtain ⟨offset, ts, rfl, tail⟩ := front_of_tokens same
  obtain ⟨rest, found, left⟩ := parameters?_listed tail
  refine parse_of_tokens read (expression_of_primary rfl ?_)
  unfold primary
  dsimp only
  rw [found]
  exact bind_ok (part.gives_last _ (depth + 1) left) rfl

/-- Parsing is compositional: where texts parse on their own, what is built of them parses to what
is built of their trees, with one more level of nesting. -/
theorem wholes_parse_to_wholes (part : Part depth) (parts : List (Part depth))
    (entries : List (Key × Part depth)) (params : List Name) (f : Name)
    (callable : f.name ≠ "typeof") :
    parseWithDepth ("(" ++ part.text ++ ")") (depth + 1) = .ok part.node ∧
    parseWithDepth ("[" ++ ",".intercalate (parts.map (·.text)) ++ "]") (depth + 1) =
      .ok (.array (parts.map (·.node))) ∧
    parseWithDepth (f.text ++ "(" ++ ",".intercalate (parts.map (·.text)) ++ ")") (depth + 1) =
      .ok (.call f.name (parts.map (·.node))) ∧
    parseWithDepth ("\x7b" ++
        ",".intercalate (entries.map fun (key, part) => key.text ++ ":" ++ part.text) ++ "\x7d")
        (depth + 1) =
      .ok (.object (entries.map fun (key, part) => (key.key, part.node))) ∧
    parseWithDepth ("(" ++ ",".intercalate (params.map (·.text)) ++ ") =>" ++ part.text)
        (depth + 1) =
      .ok (.lambda (params.map (·.name)) part.node) :=
  ⟨parse_parenthesized part, parse_array parts, parse_call f callable parts,
    parse_object entries, parse_lambda params part⟩

end

/-- A division, whose slash could start a regex elsewhere. -/
def quotient : Part 2 where
  text := "a / b"
  node := .binary .divide (.name "a") (.name "b")
  parses := by rfl
  plain := by
    intro mention
    cases mention with
    | inside isPart mention =>
      simp only [Node.parts, List.mem_cons, List.not_mem_nil, or_false] at isPart
      rcases isPart with rfl | rfl
      · exact absurd (Node.mentions_name mention) (by decide)
      · exact absurd (Node.mentions_name mention) (by decide)

/-- A regex, whose slash could be a division elsewhere. -/
def regex : Part 2 where
  text := "/b/g"
  node := .regex "b" "g"
  parses := by rfl
  plain := by
    intro mention
    cases mention with
    | inside isPart => cases isPart

/-- A slash divides in one part and begins a regex in the other, wherever they are put. -/
theorem quotients_and_regexes_compose :
    "f" ≠ "typeof" ∧
    parseWithDepth "(a / b)" 3 = .ok quotient.node ∧
    parseWithDepth "[a / b,/b/g]" 3 = .ok (.array [quotient.node, regex.node]) ∧
    parseWithDepth "f(a / b,/b/g)" 3 = .ok (.call "f" [quotient.node, regex.node]) ∧
    parseWithDepth "\x7bk:/b/g\x7d" 3 = .ok (.object [("k", regex.node)]) ∧
    parseWithDepth "(p,q) =>a / b" 3 = .ok (.lambda ["p", "q"] quotient.node) := by
  have named : "f" ≠ "typeof" := by decide
  exact ⟨named, wholes_parse_to_wholes quotient [quotient, regex]
    [(⟨"k", "k", .identifier "k", rfl, rfl⟩, regex)] [⟨"p", "p", rfl⟩, ⟨"q", "q", rfl⟩]
    ⟨"f", "f", rfl⟩ named⟩

end DocExpr.Expr
