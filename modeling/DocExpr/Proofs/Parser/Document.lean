import DocExpr.Proofs.Lexer.Document
import DocExpr.Proofs.Parser.Composition

/-! Documents as expressions. A text that writes a document, as far as the lexer reads its strings
and numerals, parses to the literal of the document's tree. -/
namespace DocExpr.Expr
open DocExpr.Json (Padded Listed Keyed Scalar Spells Spelling)

mutual
/-- The literal of a tree. -/
def Node.ofJson : Json → Node
  | .null => .null
  | .bool b => .bool b
  | .number n => .number n.toFloat
  | .string s => .string s
  | .array items => .array (Node.ofJsonItems items)
  | .object members => .object (Node.ofJsonMembers members)

/-- The literals of items. -/
def Node.ofJsonItems : List Json → List Node
  | [] => []
  | j :: js => Node.ofJson j :: Node.ofJsonItems js

/-- The literals of members. -/
def Node.ofJsonMembers : List (String × Json) → List (String × Node)
  | [] => []
  | (k, j) :: ms => (k, Node.ofJson j) :: Node.ofJsonMembers ms
end

theorem Node.ofJsonItems_eq_map (js : List Json) : ofJsonItems js = js.map ofJson := by
  induction js with
  | nil => rfl
  | cons j js ih => rw [ofJsonItems, ih, List.map_cons]

/-- A member with the literal of its tree. -/
def Node.ofJsonMember (m : String × Json) : String × Node := (m.1, ofJson m.2)

theorem Node.ofJsonMembers_eq_map (ms : List (String × Json)) :
    ofJsonMembers ms = ms.map ofJsonMember := by
  induction ms with
  | nil => rfl
  | cons m ms ih => rw [ofJsonMembers, ih, List.map_cons, ofJsonMember]

/-- How expressions write documents: numbers are read by the lexer, and a string has no halves of
characters. -/
def literal : Json.Dialect where
  number cs x := Number.SignedNumeral cs ∧ Number.ofNumeral? cs = some x
  numeral := And.left
  pairs := false

/-- The tokens of what is no container; a minus sign is a token of its own. -/
inductive ScalarTokens : List Token → Json → Prop where
  | null : ScalarTokens [.null] .null
  | bool (b : Bool) : ScalarTokens [.bool b] (.bool b)
  | number {x : Float} {n : Json.Numeral} (same : x = n.toFloat) :
      ScalarTokens [.number x] (.number n)
  | negative {x : Float} {n : Json.Numeral} (same : -x = n.toFloat) :
      ScalarTokens [.symbol .minus, .number x] (.number n)
  | string (s : String) : ScalarTokens [.string s] (.string s)

/-- A reading of tokens as trees whose containers nest at most so deep: what it makes of scalars
where at least so much depth is left, and how one level of containers is built on the next. -/
structure TreeReading (least : Nat) (Means : Nat → List Token → Json → Prop) : Prop where
  scalar : ∀ {depth : Nat} {tokens : List Token} {j : Json}, least ≤ depth →
    ScalarTokens tokens j → Means depth tokens j
  array : ∀ {depth : Nat} {items : List (List Token × Json)},
    (∀ item ∈ items, Means depth item.1 item.2) →
      Means (depth + 1)
        (.symbol .leftBracket :: ([Token.symbol .comma].intercalate (items.map (·.1)) ++
          [.symbol .rightBracket]))
        (.array (items.map (·.2)))
  object : ∀ {depth : Nat} {members : List (List Token × String × Json)},
    (∀ m ∈ members, ∃ tokens, m.1 = .string m.2.1 :: .symbol .colon :: tokens ∧
      Means depth tokens m.2.2) →
      Means (depth + 1)
        (.symbol .leftBrace :: ([Token.symbol .comma].intercalate (members.map (·.1)) ++
          [.symbol .rightBrace]))
        (.object (members.map (·.2)))

theorem lexes_scalar : LexesAs (Scalar literal) ScalarTokens := by
  intro cs j scalar
  cases scalar with
  | null => exact ⟨_, lexes_word rfl (by decide) rfl, .null⟩
  | yes => exact ⟨_, lexes_word rfl (by decide) rfl, .bool true⟩
  | no => exact ⟨_, lexes_word rfl (by decide) rfl, .bool false⟩
  | string content => exact ⟨_, lexes_string content, .string _⟩
  | number spelled =>
    obtain ⟨⟨negative, numeral⟩, read⟩ := spelled
    cases negative with
    | false => exact ⟨_, lexes_numeral numeral read, .number rfl⟩
    | true =>
      obtain ⟨c, cs, rfl, digit⟩ := numeral.cons
      rw [Number.signed, if_pos rfl, ofNumeral?_minus digit] at read
      obtain ⟨y, read, same⟩ := Option.map_eq_some_iff.mp read
      exact ⟨_, lexes_minus (lexes_numeral numeral read), .negative same⟩

section
variable {least depth : Nat} {Means : Nat → List Token → Json → Prop}
  {part : List Char → Json → Prop}

/-- A member reads as its key, a colon and the tokens of its value. -/
theorem lexes_keyed (each : LexesAs part (Means depth)) :
    LexesAs (Keyed part false) fun tokens m =>
      ∃ behind, tokens = .string m.1 :: .symbol .colon :: behind ∧ Means depth behind m.2 := by
  rintro _ _ ⟨named, blank, blank', value⟩
  rename_i key gap gap' cs k j
  obtain ⟨tokens, lexes, means⟩ := each value
  have colon : ':' ∈ marks := by decide
  have name := (lexes_string named).back blank
  have whole := name.append colon ((lexes.front blank').mark colon fun _ => rfl)
  exact ⟨.string k :: .symbol .colon :: tokens, by simpa using whole, tokens, rfl, means⟩

variable (reading : TreeReading least Means)
include reading

theorem TreeReading.spelling (each : LexesAs part (Means depth)) (deep : least ≤ depth + 1) :
    LexesAs (Spelling literal part) (Means (depth + 1)) := by
  intro cs j spelling
  cases spelling with
  | scalar scalar =>
    obtain ⟨tokens, lexes, means⟩ := lexes_scalar scalar
    exact ⟨tokens, lexes, reading.scalar deep means⟩
  | noItems blank =>
    refine ⟨_, ?_, @reading.array depth [] fun _ isIn => nomatch isIn⟩
    exact (Lexes.nil.back blank).enclosed (by decide) (by decide) (fun _ => rfl) fun _ => rfl
  | array listed =>
    obtain ⟨items, rfl, means, lexes⟩ := LexesAs.listed (LexesAs.padded each) listed
    refine ⟨_, ?_, reading.array means⟩
    exact lexes.enclosed (by decide) (by decide) (fun _ => rfl) fun _ => rfl
  | noMembers blank =>
    refine ⟨_, ?_, @reading.object depth [] fun _ isIn => nomatch isIn⟩
    exact (Lexes.nil.back blank).enclosed (by decide) (by decide) (fun _ => rfl) fun _ => rfl
  | object listed =>
    obtain ⟨members, rfl, means, lexes⟩ :=
      LexesAs.listed (LexesAs.padded (lexes_keyed each)) listed
    refine ⟨_, ?_, reading.object means⟩
    exact lexes.enclosed (by decide) (by decide) (fun _ => rfl) fun _ => rfl

/-- The text of a tree is read as that tree, where the depth that is left has room for its
containers. -/
theorem TreeReading.spells {maxDepth : Nat} (deep : depth + least ≤ maxDepth) :
    LexesAs (Spells literal depth) (Means maxDepth) := by
  -- a level of brackets in the text takes one level of the reading
  induction depth generalizing maxDepth with
  | zero =>
    intro cs j scalar
    obtain ⟨tokens, lexes, means⟩ := lexes_scalar scalar
    exact ⟨tokens, lexes, reading.scalar (by omega) means⟩
  | succ depth ih =>
    obtain ⟨maxDepth, rfl⟩ : ∃ n, maxDepth = n + 1 := ⟨maxDepth - 1, by omega⟩
    exact reading.spelling (@ih maxDepth (by omega)) (by omega)

end

/-- Nothing, or a mark of a list. -/
inductive Closing : List Token → Prop where
  | nil : Closing []
  | mark {s : Symbol} (closes : s ∈ closers) (tokens : List Token) : Closing (.symbol s :: tokens)

theorem Closing.closed {others : List Token} (closing : Closing others) {ts : List Spanned}
    (same : ts.map (·.token) = others) : Closed ts := by
  cases closing with
  | nil =>
    cases List.map_eq_nil_iff.mp same
    exact .nil
  | mark closes => exact closed_of_tokens (stops_of_closers closes) same

/-- These tokens read as a tree, at most so deep, where nothing or a mark of a list follows. -/
def Stands (depth : Nat) (tokens : List Token) (node : Node) : Prop :=
  ∀ ⦃source maxDepth ts others⦄, Closing others → ts.map (·.token) = tokens ++ others →
    ∃ rest, expression source maxDepth depth 0 ts = .ok (node, rest) ∧
      rest.map (·.token) = others

theorem Stands.gives {depth : Nat} {tokens : List Token} {node : Node}
    (stands : Stands depth tokens node) (source : List Char) (maxDepth : Nat) :
    Gives (fun _ => (levelAt source maxDepth depth).expression 0) tokens node :=
  fun _ _ _ _ closes same => stands (.mark closes _) same

/-- A token that is a whole operand. -/
theorem stands_token {t : Token} {node : Node} (depth : Nat) (plain : unaryOp? t = none)
    (reads : ∀ source level offset rest,
      primary source level (⟨t, offset⟩ :: rest) = .ok (node, rest)) :
    Stands (depth + 1) [t] node := by
  intro source maxDepth ts others closing same
  obtain ⟨offset, rest, rfl, tail⟩ := front_of_tokens same
  exact ⟨rest, expression_closed (closing.closed tail) plain (reads ..), tail⟩

theorem stands_negative (depth : Nat) (x : Float) :
    Stands (depth + 2) [.symbol .minus, .number x] (.number (-x)) := by
  intro source maxDepth ts others closing same
  obtain ⟨offset, rest, rfl, tail⟩ := front_of_tokens same
  obtain ⟨offset', rest, rfl, behind⟩ := front_of_tokens tail
  have closed := closing.closed behind
  have inner : (levelAt source maxDepth (depth + 1)).expression unaryPower
      (⟨.number x, offset'⟩ :: rest) = .ok (.number x, rest) := expression_closed closed rfl rfl
  have first : operand source (levelAt source maxDepth (depth + 1))
      (⟨.symbol .minus, offset⟩ :: ⟨.number x, offset'⟩ :: rest) = .ok (.number (-x), rest) := by
    have minus : unaryOp? (.symbol .minus) = some .negate := rfl
    rw [operand_applied minus]
    exact bind_ok inner rfl
  exact ⟨rest, bind_ok first (operators_closed closed _ _ _), behind⟩

theorem stands_scalar {depth : Nat} (deep : 2 ≤ depth) {tokens : List Token} {j : Json}
    (scalar : ScalarTokens tokens j) : Stands depth tokens (.ofJson j) := by
  obtain ⟨depth, rfl⟩ : ∃ n, depth = n + 2 := ⟨depth - 2, by omega⟩
  cases scalar with
  | null | bool | string => exact stands_token _ rfl fun _ _ _ _ => rfl
  | number same =>
    rw [Node.ofJson, ← same]
    exact stands_token _ rfl fun _ _ _ _ => rfl
  | @negative x n same =>
    -- the sign is an operator, which the parser applies to the numeral at once
    rw [Node.ofJson, ← same]
    exact stands_negative _ x

section
variable {depth : Nat}

theorem stands_array {items : List (List Token × Json)}
    (each : ∀ item ∈ items, Stands depth item.1 (.ofJson item.2)) :
    Stands (depth + 1)
      (.symbol .leftBracket :: ([Token.symbol .comma].intercalate (items.map (·.1)) ++
        [.symbol .rightBracket]))
      (.ofJson (.array (items.map (·.2)))) := by
  intro source maxDepth ts others closing same
  rw [List.cons_append, List.append_assoc, List.singleton_append] at same
  obtain ⟨offset, ts, rfl, tail⟩ := front_of_tokens same
  have right : Symbol.rightBracket ∈ closers := by decide
  obtain ⟨rest, listed, left⟩ := enclosed_listed right (by decide)
    (fun _ _ _ => expression_refuses right)
    (fun item isIn => (each item isIn).gives source maxDepth) tail
  refine ⟨rest, expression_closed (closing.closed left) rfl ?_, left⟩
  rw [Node.ofJson, Node.ofJsonItems_eq_map, List.map_map]
  exact bind_ok listed rfl

theorem stands_object {members : List (List Token × String × Json)}
    (each : ∀ m ∈ members, ∃ tokens, m.1 = .string m.2.1 :: .symbol .colon :: tokens ∧
      Stands depth tokens (.ofJson m.2.2)) :
    Stands (depth + 1)
      (.symbol .leftBrace :: ([Token.symbol .comma].intercalate (members.map (·.1)) ++
        [.symbol .rightBrace]))
      (.ofJson (.object (members.map (·.2)))) := by
  intro source maxDepth ts others closing same
  rw [List.cons_append, List.append_assoc, List.singleton_append] at same
  obtain ⟨offset, ts, rfl, tail⟩ := front_of_tokens same
  have right : Symbol.rightBrace ∈ closers := by decide
  have gives : ∀ m ∈ members, Gives
      (fun _ => objectEntry source (levelAt source maxDepth depth) offset) m.1
      (Node.ofJsonMember m.2) := by
    intro m isIn
    obtain ⟨tokens, written, stands⟩ := each m isIn
    rw [written]
    exact objectEntry_gives offset rfl (stands.gives source maxDepth)
  obtain ⟨rest, listed, left⟩ := enclosed_listed right (by decide)
    (fun _ _ _ => objectEntry_refuses) gives tail
  refine ⟨rest, expression_closed (closing.closed left) rfl ?_, left⟩
  rw [Node.ofJson, Node.ofJsonMembers_eq_map, List.map_map]
  exact bind_ok listed rfl

end

/-- A document is an expression that nests two levels deeper: a negative number has its sign in
front of it. -/
theorem stands_reading : TreeReading 2 fun depth tokens j => Stands depth tokens (.ofJson j) where
  scalar := fun deep => stands_scalar deep
  array := stands_array
  object := stands_object

theorem parse_of_spells {depth maxDepth : Nat} (deep : depth + 2 ≤ maxDepth) {text : List Char}
    {j : Json} (spelled : Padded (Spells literal depth) text j) :
    parseWithDepth (String.ofList text) maxDepth = .ok (.ofJson j) := by
  obtain ⟨tokens, lexes, stands⟩ := LexesAs.padded (stands_reading.spells deep) spelled
  obtain ⟨ts, read, same⟩ := lexes.reads.tokensOf
  rw [← List.append_nil tokens] at same
  obtain ⟨rest, parsed, left⟩ : ∃ rest, expression text maxDepth maxDepth 0 ts =
      .ok (.ofJson j, rest) ∧ rest.map (·.token) = [] := stands .nil same
  cases List.map_eq_nil_iff.mp left
  rw [← String.toList_ofList (l := text)] at read parsed
  exact parse_of_tokens read parsed

end DocExpr.Expr
