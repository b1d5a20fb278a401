import DocExpr.Json.Reader
import DocExpr.Proofs.Number.Numeral

/-! The grammar of JSON texts as a relation between a text and a tree, apart from any reader. How
numerals are read, and whether characters may be escaped as two units, is left to a dialect. The
first argument of `Spells` bounds how deep containers nest, as it bounds the readers, and so it does
in the tree. -/
namespace DocExpr.Json

/-- White space and nothing else. -/
def Blank (cs : List Char) : Prop := ∀ c ∈ cs, isSpace c = true

theorem Blank.nil : Blank [] := fun _ isIn => absurd isIn List.not_mem_nil

theorem mem_of_isSpace {c : Char} (space : isSpace c = true) : c ∈ [' ', '\n', '\t', '\r'] := by
  unfold isSpace at space
  simp only [Bool.or_eq_true, beq_iff_eq] at space
  rcases space with ((rfl | rfl) | rfl) | rfl <;> decide

theorem partOfNumeral_of_isSpace {c : Char} (space : isSpace c = true) :
    Number.partOfNumeral c = false := by
  have isIn := mem_of_isSpace space
  simp only [List.mem_cons, List.not_mem_nil, or_false] at isIn
  rcases isIn with rfl | rfl | rfl | rfl <;> rfl

/-- A way to write one character of a string. -/
inductive Piece (pairs : Bool) : List Char → Char → Prop where
  | plain {c : Char} (printable : 0x20 ≤ c.toNat) (noQuote : c ≠ '"') (noEscape : c ≠ '\\') :
      Piece pairs [c] c
  | short {c x : Char} (stands : shortEscape? c = some x) : Piece pairs ['\\', c] x
  | unit {a b c d : Char} {n : Nat} (number : Number.hex4? a b c d = some n)
      (whole : n < 0xd800 ∨ 0xdfff < n) : Piece pairs ['\\', 'u', a, b, c, d] (Char.ofNat n)
  /-- The two halves of a character outside the first plane. -/
  | pair {a b c d a' b' c' d' : Char} {high low : Nat} (allowed : pairs = true)
      (first : Number.hex4? a b c d = some high) (isHigh : 0xd800 ≤ high ∧ high ≤ 0xdbff)
      (second : Number.hex4? a' b' c' d' = some low) (isLow : 0xdc00 ≤ low ∧ low ≤ 0xdfff) :
      Piece pairs ['\\', 'u', a, b, c, d, '\\', 'u', a', b', c', d']
        (Char.ofNat (0x10000 + (high - 0xd800) * 0x400 + (low - 0xdc00)))

/-- What stands between the quotes of a string. -/
inductive Content (pairs : Bool) : List Char → List Char → Prop where
  | done : Content pairs [] []
  | piece {cs more xs : List Char} {x : Char} (first : Piece pairs cs x)
      (others : Content pairs more xs) : Content pairs (cs ++ more) (x :: xs)

section
variable {α : Type} (item : List Char → α → Prop)

/-- An item with white space around it. -/
inductive Padded : List Char → α → Prop where
  | mk {before cs after : List Char} {x : α} (front : Blank before) (spelled : item cs x)
      (back : Blank after) : Padded (before ++ (cs ++ after)) x

/-- Items with commas between them, at least one. -/
inductive Listed : List Char → List α → Prop where
  | last {cs : List Char} {x : α} (only : item cs x) : Listed cs [x]
  | more {cs others : List Char} {x : α} {xs : List α} (first : item cs x)
      (rest : Listed others xs) : Listed (cs ++ ',' :: others) (x :: xs)

/-- A key, a colon and a value. -/
inductive Keyed (pairs : Bool) : List Char → String × α → Prop where
  | mk {key gap gap' cs : List Char} {k : String} {x : α} (named : Content pairs key k.toList)
      (blank : Blank gap) (blank' : Blank gap') (value : item cs x) :
      Keyed pairs ('"' :: (key ++ '"' :: (gap ++ ':' :: (gap' ++ cs)))) (k, x)

end

theorem Padded.bare {α : Type} {item : List Char → α → Prop} {cs : List Char} {x : α}
    (spelled : item cs x) : Padded item cs x := by
  have padded := Padded.mk .nil spelled .nil
  rwa [List.nil_append, List.append_nil] at padded

/-- What is left open of the texts of numbers and strings. -/
structure Dialect where
  /-- The text of a number, with its sign, and the number. -/
  number : List Char → Float → Prop
  numeral : ∀ {cs : List Char} {x : Float}, number cs x → Number.SignedNumeral cs
  /-- Characters outside the first plane may be escaped as two units. -/
  pairs : Bool

/-- The text of a value that is no container. -/
inductive Scalar (dialect : Dialect) : List Char → Json → Prop where
  | null : Scalar dialect ['n', 'u', 'l', 'l'] .null
  | yes : Scalar dialect ['t', 'r', 'u', 'e'] (.bool true)
  | no : Scalar dialect ['f', 'a', 'l', 's', 'e'] (.bool false)
  | number {cs : List Char} {n : Numeral} (spelled : dialect.number cs n.toFloat) :
      Scalar dialect cs (.number n)
  | string {cs : List Char} {s : String} (content : Content dialect.pairs cs s.toList) :
      Scalar dialect ('"' :: (cs ++ ['"'])) (.string s)

/-- The text of a value whose parts are spelled as `part` says. -/
inductive Spelling (dialect : Dialect) (part : List Char → Json → Prop) : List Char → Json → Prop
    where
  | scalar {cs : List Char} {j : Json} (scalar : Scalar dialect cs j) : Spelling dialect part cs j
  | noItems {gap : List Char} (blank : Blank gap) :
      Spelling dialect part ('[' :: (gap ++ [']'])) (.array [])
  | array {cs : List Char} {items : List Json} (listed : Listed (Padded part) cs items) :
      Spelling dialect part ('[' :: (cs ++ [']'])) (.array items)
  | noMembers {gap : List Char} (blank : Blank gap) :
      Spelling dialect part ('\x7b' :: (gap ++ ['\x7d'])) (.object [])
  | object {cs : List Char} {members : List (String × Json)}
      (listed : Listed (Padded (Keyed part dialect.pairs)) cs members) :
      Spelling dialect part ('\x7b' :: (cs ++ ['\x7d'])) (.object members)

/-- The text, without white space around it, of a tree whose containers nest at most so deep. -/
def Spells (dialect : Dialect) : Nat → List Char → Json → Prop
  | 0 => Scalar dialect
  | depth + 1 => Spelling dialect (Spells dialect depth)

theorem Scalar.spells {dialect : Dialect} {cs : List Char} {j : Json}
    (scalar : Scalar dialect cs j) (depth : Nat) : Spells dialect depth cs j := by
  cases depth with
  | zero => exact scalar
  | succ depth => exact .scalar scalar

/-- The trees that a tree holds directly. -/
def parts : Json → List Json
  | .array items => items
  | .object members => members.map (·.2)
  | _ => []

/-- An array or an object. -/
def isContainer : Json → Bool
  | .array _ | .object _ => true
  | _ => false

/-- Containers nest at most so deep in the tree. -/
def NestsWithin : Nat → Json → Prop
  | 0, j => j.isContainer = false
  | depth + 1, j => ∀ part ∈ j.parts, NestsWithin depth part

mutual
/-- How many values a tree has, itself among them. -/
def nodes : Json → Nat
  | .array items => nodesOfItems items + 1
  | .object members => nodesOfMembers members + 1
  | _ => 1

/-- How many values items have. -/
def nodesOfItems : List Json → Nat
  | [] => 0
  | j :: js => nodes j + nodesOfItems js

/-- How many values members have; keys do not count. -/
def nodesOfMembers : List (String × Json) → Nat
  | [] => 0
  | (_, j) :: ms => nodes j + nodesOfMembers ms
end

theorem Scalar.leaf {dialect : Dialect} {cs : List Char} {j : Json} (scalar : Scalar dialect cs j) :
    j.isContainer = false := by
  cases scalar <;> rfl

theorem nestsWithin_of_leaf {j : Json} (leaf : j.isContainer = false) (depth : Nat) :
    j.NestsWithin depth := by
  cases depth with
  | zero => exact leaf
  | succ depth =>
    cases j with
    | array | object => cases leaf
    | _ => exact fun _ isPart => nomatch isPart

theorem Listed.each {α : Type} {item : List Char → α → Prop} {text : List Char} {xs : List α}
    (listed : Listed (Padded item) text xs) : ∀ x ∈ xs, ∃ cs, item cs x := by
  induction listed with
  | last only =>
    intro y isIn
    cases List.mem_singleton.mp isIn
    obtain ⟨-, spelled, -⟩ := only
    exact ⟨_, spelled⟩
  | more first rest ih =>
    obtain ⟨-, spelled, -⟩ := first
    exact List.forall_mem_cons.mpr ⟨⟨_, spelled⟩, ih⟩

theorem Spells.nestsWithin {dialect : Dialect} {depth : Nat} {text : List Char} {j : Json}
    (spelled : Spells dialect depth text j) : j.NestsWithin depth := by
  induction depth generalizing text j with
  | zero => exact spelled.leaf
  | succ depth ih =>
    cases spelled with
    | scalar scalar => exact nestsWithin_of_leaf scalar.leaf _
    | noItems | noMembers => exact fun _ isPart => nomatch isPart
    | array listed =>
      intro part isPart
      obtain ⟨cs, spelled⟩ := listed.each part isPart
      exact ih spelled
    | object listed =>
      intro part isPart
      obtain ⟨m, isIn, rfl⟩ := List.mem_map.mp isPart
      obtain ⟨cs, keyed⟩ := listed.each m isIn
      obtain ⟨-, -, -, value⟩ := keyed
      exact ih value

end DocExpr.Json
