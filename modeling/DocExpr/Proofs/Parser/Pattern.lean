import DocExpr.Proofs.Parser.Document
import Mathlib.Data.List.TakeWhile

/-! Documents as patterns. A text that writes a document, as far as the lexer reads its strings and
numerals, reads as the pattern that asks for what the document has. -/
namespace DocExpr.Expr
open DocExpr.Json (Padded Spells)

mutual
/-- The pattern of a tree: the same items, and at least the same members. -/
def Pattern.ofJson : Json → Pattern
  | .null => .null
  | .bool b => .bool b
  | .number n => .number n.toFloat
  | .string s => .string s
  | .array items => .array (Pattern.ofJsonItems items) false []
  | .object members => .object (Pattern.ofJsonMembers members)

/-- The patterns of items. -/
def Pattern.ofJsonItems : List Json → List Pattern
  | [] => []
  | j :: js => Pattern.ofJson j :: Pattern.ofJsonItems js

/-- The entries that ask for members. -/
def Pattern.ofJsonMembers : List (String × Json) → List (String × Presence × Pattern)
  | [] => []
  | (k, j) :: ms => (k, .plain, Pattern.ofJson j) :: Pattern.ofJsonMembers ms
end

theorem Pattern.ofJsonItems_eq_map (js : List Json) : ofJsonItems js = js.map ofJson := by
  induction js with
  | nil => rfl
  | cons j js ih => rw [ofJsonItems, ih, List.map_cons]

/-- The entry that asks for a member. -/
def Pattern.ofJsonMember (m : String × Json) : String × Presence × Pattern :=
  (m.1, .plain, ofJson m.2)

theorem Pattern.ofJsonMembers_eq_map (ms : List (String × Json)) :
    ofJsonMembers ms = ms.map ofJsonMember := by
  induction ms with
  | nil => rfl
  | cons m ms ih => rw [ofJsonMembers, ih, List.map_cons, ofJsonMember]

theorem Pattern.isWildcard_ofJson (j : Json) : (Pattern.ofJson j).isWildcard = false := by
  cases j <;> rfl

/-- These tokens read as a pattern, at most so deep, whatever follows them. -/
def ReadsPattern (depth : Nat) (tokens : List Token) (p : Pattern) : Prop :=
  ∀ ⦃source maxDepth ts others⦄, ts.map (·.token) = tokens ++ others →
    ∃ rest, pattern source maxDepth depth ts = .ok (p, rest) ∧ rest.map (·.token) = others

section
variable {source : List Char} {maxDepth depth : Nat}

/-- No pattern starts with such a symbol. -/
theorem pattern_refuses {s : Symbol} (other : s ∉ [.minus, .leftBrace, .leftBracket])
    {ts : List Spanned} {found : Pattern × List Spanned} (starts : startsWith s ts = true) :
    pattern source maxDepth depth ts ≠ .ok found := by
  intro read
  unfold startsWith at starts
  split at starts
  next s' offset ts =>
    cases of_decide_eq_true starts
    cases depth with
    | zero => cases read
    | succ depth =>
      cases s <;> first | cases read | exact absurd (by decide) other
  next => cases starts

theorem readsPattern_scalar {tokens : List Token} {j : Json} (scalar : ScalarTokens tokens j) :
    ReadsPattern (depth + 1) tokens (.ofJson j) := by
  intro source maxDepth ts others same
  cases scalar with
  | null | bool | string =>
    obtain ⟨offset, rest, rfl, tail⟩ := front_of_tokens same
    exact ⟨rest, rfl, tail⟩
  | number value =>
    obtain ⟨offset, rest, rfl, tail⟩ := front_of_tokens same
    rw [Pattern.ofJson, ← value]
    exact ⟨rest, rfl, tail⟩
  | negative value =>
    obtain ⟨offset, ts, rfl, tail⟩ := front_of_tokens same
    obtain ⟨offset', rest, rfl, behind⟩ := front_of_tokens tail
    rw [Pattern.ofJson, ← value]
    exact ⟨rest, rfl, behind⟩

theorem arrayPatternItem_gives {tokens : List Token} {p : Pattern}
    (reads : ReadsPattern depth tokens p) :
    Gives (arrayPatternItem source (pattern source maxDepth depth)) tokens (some p) := by
  intro done ts s others _ same
  obtain ⟨rest, read, left⟩ := @reads source maxDepth _ _ same
  refine ⟨rest, ?_, left⟩
  unfold arrayPatternItem
  split
  next =>
    have other : Symbol.ellipsis ∉ [.minus, .leftBrace, .leftBracket] := by decide
    exact absurd read (pattern_refuses other rfl)
  next => exact bind_ok read rfl

theorem arrayPatternItem_refuses {s : Symbol} (closes : s ∈ closers)
    {done : List (Option Pattern)} {ts : List Spanned} {found : Option Pattern × List Spanned}
    (starts : startsWith s ts = true) :
    arrayPatternItem source (pattern source maxDepth depth) done ts ≠ .ok found := by
  have other : s ∉ [.minus, .leftBrace, .leftBracket] ∧ s ≠ .ellipsis := by
    revert closes
    cases s <;> decide
  intro read
  unfold arrayPatternItem at read
  split at read
  next => exact other.2 (of_decide_eq_true starts)
  next =>
    obtain ⟨_, inner, _⟩ := ok_of_bind read
    exact pattern_refuses other.1 starts inner

theorem Pattern.ofItems_some (ps : List Pattern) : ofItems (ps.map some) = .array ps false [] := by
  have all : ∀ x ∈ ps.map some, x.isSome = true := by
    intro x isIn
    obtain ⟨p, -, rfl⟩ := List.mem_map.mp isIn
    rfl
  have front : (ps.map some).takeWhile (·.isSome) = ps.map some :=
    List.takeWhile_eq_self_iff.mpr all
  have noSpread : (ps.map some).any (·.isNone) = false := by simp
  unfold ofItems
  dsimp only
  rw [front, noSpread, List.drop_length]
  simp

theorem readsPattern_array {items : List (List Token × Json)}
    (each : ∀ item ∈ items, ReadsPattern depth item.1 (.ofJson item.2)) :
    ReadsPattern (depth + 1)
      (.symbol .leftBracket :: ([Token.symbol .comma].intercalate (items.map (·.1)) ++
        [.symbol .rightBracket]))
      (.ofJson (.array (items.map (·.2)))) := by
  intro source maxDepth ts others same
  rw [List.cons_append, List.append_assoc, List.singleton_append] at same
  obtain ⟨offset, ts, rfl, tail⟩ := front_of_tokens same
  have right : Symbol.rightBracket ∈ closers := by decide
  obtain ⟨rest, listed, left⟩ := enclosed_listed right (by decide)
    (fun _ _ _ => arrayPatternItem_refuses right)
    (fun item isIn => @arrayPatternItem_gives source maxDepth _ _ _ (each item isIn)) tail
  refine ⟨rest, ?_, left⟩
  rw [Pattern.ofJson, Pattern.ofJsonItems_eq_map, List.map_map, ← Pattern.ofItems_some,
    List.map_map]
  exact bind_ok listed rfl

theorem objectPatternEntry_gives {key : String} {tokens : List Token} {p : Pattern} (start : Nat)
    (reads : ReadsPattern depth tokens p) :
    Gives (fun _ => objectPatternEntry source (pattern source maxDepth depth) start)
      (.string key :: .symbol .colon :: tokens) (key, .plain, p) := by
  intro done ts s others _ same
  obtain ⟨offset, ts, rfl, tail⟩ := front_of_tokens same
  obtain ⟨offset', ts, rfl, behind⟩ := front_of_tokens tail
  obtain ⟨rest, read, left⟩ := @reads source maxDepth _ _ behind
  exact ⟨rest, bind_ok rfl (bind_ok rfl (bind_ok read rfl)), left⟩

theorem objectPatternEntry_refuses {inner : Parse Pattern} {start : Nat} {s : Symbol}
    {ts : List Spanned} {found : (String × Presence × Pattern) × List Spanned}
    (starts : startsWith s ts = true) : objectPatternEntry source inner start ts ≠ .ok found := by
  intro read
  unfold startsWith at starts
  split at starts
  next => cases read
  next => cases starts

theorem readsPattern_object {members : List (List Token × String × Json)}
    (each : ∀ m ∈ members, ∃ tokens, m.1 = .string m.2.1 :: .symbol .colon :: tokens ∧
      ReadsPattern depth tokens (.ofJson m.2.2)) :
    ReadsPattern (depth + 1)
      (.symbol .leftBrace :: ([Token.symbol .comma].intercalate (members.map (·.1)) ++
        [.symbol .rightBrace]))
      (.ofJson (.object (members.map (·.2)))) := by
  intro source maxDepth ts others same
  rw [List.cons_append, List.append_assoc, List.singleton_append] at same
  obtain ⟨offset, ts, rfl, tail⟩ := front_of_tokens same
  have right : Symbol.rightBrace ∈ closers := by decide
  have gives : ∀ m ∈ members, Gives
      (fun _ => objectPatternEntry source (pattern source maxDepth depth) offset) m.1
      (Pattern.ofJsonMember m.2) := by
    intro m isIn
    obtain ⟨tokens, written, reads⟩ := each m isIn
    rw [written]
    exact objectPatternEntry_gives offset reads
  obtain ⟨rest, listed, left⟩ := enclosed_listed right (by decide)
    (fun _ _ _ => objectPatternEntry_refuses) gives tail
  refine ⟨rest, ?_, left⟩
  rw [Pattern.ofJson, Pattern.ofJsonMembers_eq_map, List.map_map]
  exact bind_ok listed rfl

end

/-- A document is a pattern that nests one level deeper; the sign of a negative number belongs to
the number. -/
theorem pattern_reading :
    TreeReading 1 fun depth tokens j => ReadsPattern depth tokens (.ofJson j) where
  scalar := by
    intro depth tokens j some scalar
    obtain ⟨depth, rfl⟩ : ∃ n, depth = n + 1 := ⟨depth - 1, by omega⟩
    exact readsPattern_scalar scalar
  array := readsPattern_array
  object := readsPattern_object

/-- A match that asks whether the document matches a pattern. -/
def matchText (pattern : String) : String :=
  "match $ \x7b " ++ pattern ++ " => true, _ => false \x7d"

/-- The tree of a match that asks whether the document matches a pattern. -/
def Node.matchOf (p : Pattern) : Node :=
  .matching .root [(p, .bool true), (.wildcard, .bool false)]

theorem reads_matchText {text : List Char} {tokens : List Token} (lexes : Lexes text tokens) :
    Reads true (matchText (String.ofList text)).toList
      (.identifier "match" :: .symbol .dollar :: .symbol .leftBrace :: (tokens ++
        [.symbol .arrow, .bool true, .symbol .comma, .identifier "_", .symbol .arrow, .bool false,
          .symbol .rightBrace])) := by
  have separate : Separate " => true, _ => false \x7d".toList := .blank rfl _
  have arms : ∀ regexAllowed, Reads regexAllowed " => true, _ => false \x7d".toList
      [.symbol .arrow, .bool true, .symbol .comma, .identifier "_", .symbol .arrow, .bool false,
        .symbol .rightBrace] := fun _ =>
    .token rfl rfl (.token rfl rfl (.token rfl rfl (.token rfl rfl (.token rfl rfl
      (.token rfl rfl (.token rfl rfl (.done rfl)))))))
  have space : Json.Blank [' '] := by
    intro c isIn
    cases List.mem_singleton.mp isIn
    rfl
  have inside := (lexes.front space) separate arms true
  rw [matchText, String.toList_append, String.toList_append, String.toList_ofList (l := text),
    List.append_assoc]
  exact .token rfl rfl (.token rfl rfl (.token rfl rfl inside))

section
variable {source : List Char} {maxDepth depth : Nat}

/-- An arm whose body is a truth value, behind arms that leave something for it to match. -/
theorem matchArm_reads (braceAt : Nat) {arrowAt bodyAt : Nat} {done : List (Pattern × Node)}
    {ts rest : List Spanned} {p : Pattern} {b : Bool}
    (read : pattern source maxDepth (depth + 1) ts =
      .ok (p, ⟨.symbol .arrow, arrowAt⟩ :: ⟨.bool b, bodyAt⟩ :: rest))
    (closed : Closed rest) (specific : (done.any fun (q, _) => q.isWildcard) = false) :
    matchArm source (levelAt source maxDepth (depth + 1)) braceAt done ts =
      .ok ((p, .bool b), rest) := by
  have some : ts.isEmpty = false := by
    cases ts with
    | nil => cases read
    | cons t ts => rfl
  have body : (levelAt source maxDepth (depth + 1)).expression 0 (⟨.bool b, bodyAt⟩ :: rest) =
      .ok (.bool b, rest) := expression_closed closed rfl rfl
  unfold matchArm
  rw [some]
  refine bind_ok read ?_
  dsimp only
  rw [specific]
  exact bind_ok rfl (bind_ok body rfl)

/-- Two arms, the second of which matches everything. -/
theorem arms_read {braceAt arrowAt trueAt commaAt wildcardAt arrowAt' falseAt endAt : Nat}
    {ts : List Spanned} {p : Pattern} (specific : p.isWildcard = false)
    (read : pattern source maxDepth (depth + 1) ts =
      .ok (p, ⟨.symbol .arrow, arrowAt⟩ :: ⟨.bool true, trueAt⟩ :: ⟨.symbol .comma, commaAt⟩ ::
        ⟨.identifier "_", wildcardAt⟩ :: ⟨.symbol .arrow, arrowAt'⟩ :: ⟨.bool false, falseAt⟩ ::
        [⟨.symbol .rightBrace, endAt⟩])) :
    enclosed source .rightBrace (matchArm source (levelAt source maxDepth (depth + 1)) braceAt)
      braceAt ts = .ok ([(p, .bool true), (.wildcard, .bool false)], []) := by
  have comma : Symbol.comma ∈ stops := by decide
  have right : Symbol.rightBrace ∈ stops := by decide
  have wildcardFirst : pattern source maxDepth (depth + 1)
      [⟨.identifier "_", wildcardAt⟩, ⟨.symbol .arrow, arrowAt'⟩, ⟨.bool false, falseAt⟩,
        ⟨.symbol .rightBrace, endAt⟩] =
      .ok (.wildcard, [⟨.symbol .arrow, arrowAt'⟩, ⟨.bool false, falseAt⟩,
        ⟨.symbol .rightBrace, endAt⟩]) := rfl
  have noArms : (([] : List (Pattern × Node)).any fun (q, _) => q.isWildcard) = false := rfl
  have noWildcard : ([(p, Node.bool true)].any fun (q, _) => q.isWildcard) = false := by
    simp [specific]
  have first := matchArm_reads braceAt read (.mark .comma commaAt _ comma) noArms
  have second := matchArm_reads braceAt wildcardFirst (.mark .rightBrace endAt [] right) noWildcard
  have other : ¬ startsWith .rightBrace ts = true := by
    intro starts
    have noPattern : Symbol.rightBrace ∉ [.minus, .leftBrace, .leftBracket] := by decide
    exact pattern_refuses noPattern starts read
  -- each arm takes a round of the loop, and one more token than arms is there to allow them
  obtain ⟨t, ts, rfl⟩ : ∃ t more, ts = t :: more := by
    cases ts with
    | nil => cases read
    | cons t ts => exact ⟨t, ts, rfl⟩
  have items : itemsUntil .rightBrace
      (matchArm source (levelAt source maxDepth (depth + 1)) braceAt) [] ((t :: ts).length + 1)
      (t :: ts) =
        .ok ([(p, .bool true), (.wildcard, .bool false)], [⟨.symbol .rightBrace, endAt⟩]) := by
    rw [itemsUntil, if_neg other]
    refine bind_ok first ?_
    dsimp only
    rw [List.length_cons, itemsUntil]
    exact bind_ok second rfl
  exact bind_ok items (bind_ok (expect_symbol endAt []) rfl)

/-- The tokens of a match with one pattern read as such a match. -/
theorem expression_match {tokens : List Token} {p : Pattern}
    (reads : ReadsPattern (depth + 1) tokens p) (specific : p.isWildcard = false)
    {ts : List Spanned} (same : ts.map (·.token) =
      .identifier "match" :: .symbol .dollar :: .symbol .leftBrace :: (tokens ++
        [.symbol .arrow, .bool true, .symbol .comma, .identifier "_", .symbol .arrow, .bool false,
          .symbol .rightBrace])) :
    expression source maxDepth (depth + 2) 0 ts = .ok (.matchOf p, []) := by
  obtain ⟨start, ts, rfl, opening⟩ := front_of_tokens same
  obtain ⟨dollarAt, ts, rfl, brace⟩ := front_of_tokens opening
  obtain ⟨braceAt, ts, rfl, inside⟩ := front_of_tokens brace
  obtain ⟨rest, read, firstArm⟩ := @reads source maxDepth _ _ inside
  obtain ⟨arrowAt, rest, rfl, firstBody⟩ := front_of_tokens firstArm
  obtain ⟨trueAt, rest, rfl, separator⟩ := front_of_tokens firstBody
  obtain ⟨commaAt, rest, rfl, wildcard⟩ := front_of_tokens separator
  obtain ⟨wildcardAt, rest, rfl, secondArm⟩ := front_of_tokens wildcard
  obtain ⟨arrowAt', rest, rfl, secondBody⟩ := front_of_tokens secondArm
  obtain ⟨falseAt, rest, rfl, closing⟩ := front_of_tokens secondBody
  obtain ⟨endAt, rest, rfl, last⟩ := front_of_tokens closing
  cases List.map_eq_nil_iff.mp last
  have subject : (levelAt source maxDepth (depth + 1)).expression 0
      (⟨.symbol .dollar, dollarAt⟩ :: ⟨.symbol .leftBrace, braceAt⟩ :: ts) =
        .ok (.root, ⟨.symbol .leftBrace, braceAt⟩ :: ts) := rfl
  refine expression_of_primary rfl ?_
  exact bind_ok subject (bind_ok rfl (bind_ok (arms_read specific read) rfl))

end

/-- The text of a document is a pattern: the text of a match with it parses, where the limit leaves
room for the nesting of the document. -/
theorem parse_matchText {depth maxDepth : Nat} (deep : depth + 2 ≤ maxDepth) {text : List Char}
    {j : Json} (spelled : Padded (Spells literal depth) text j) :
    parseWithDepth (matchText (String.ofList text)) maxDepth = .ok (.matchOf (.ofJson j)) := by
  obtain ⟨maxDepth, rfl⟩ : ∃ n, maxDepth = n + 2 := ⟨maxDepth - 2, by omega⟩
  have room : depth + 1 ≤ maxDepth + 1 := by omega
  obtain ⟨tokens, lexes, reads⟩ := LexesAs.padded (pattern_reading.spells room) spelled
  obtain ⟨ts, read, same⟩ := (reads_matchText lexes).tokensOf
  exact parse_of_tokens read (expression_match reads (Pattern.isWildcard_ofJson j) same)

end DocExpr.Expr
