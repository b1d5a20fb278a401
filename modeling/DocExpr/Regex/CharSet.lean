import DocExpr.Regex.ByteShape
import DocExpr.Text.Fold
import DocExpr.Text.Property

/-! Sets of characters in a regex. A regex has limits on how deep its brackets nest and on how many
bytes its program takes. What a set adds to a program depends on its members alone: they form
stretches, which are found by asking once between any two code points where one may begin or end. -/
namespace DocExpr.Regex

structure CharSet where
  has : Char → Bool
  /-- Code points among which are all where members begin, and those behind the last of them. -/
  edges : List Nat
  /-- How deep its brackets nest. -/
  nesting : Nat := 0
  /-- The bytes that it takes, as a part of its own, of a program that reads texts backwards. -/
  backwards : Nat := 0
  /-- The bytes that it takes of a program that reads texts forwards. -/
  forwards : Nat := 0

namespace CharSet

def single (c : Char) : CharSet := { has := (· == c), edges := [c.toNat, c.toNat + 1] }

def range (low high : Char) : CharSet :=
  { has := fun c => low ≤ c && c ≤ high, edges := [low.toNat, high.toNat + 1] }

def ofClass (c : Text.CharClass) : CharSet :=
  { has := c.has, edges := c.edges.getD Text.ruleEdges }

def none : CharSet := { has := fun _ => false, edges := [] }

def union (a b : CharSet) : CharSet :=
  { has := fun c => a.has c || b.has c, edges := a.edges ++ b.edges,
    nesting := max a.nesting b.nesting }

/-- The characters of all sets of a list. Two or more of them nest deeper than one. -/
def ofItems : List CharSet → CharSet
  | [] => none
  | [item] => item
  | items =>
    let all := items.foldl union none
    { all with nesting := all.nesting + 1 }

def bracketed (a : CharSet) : CharSet := { a with nesting := a.nesting + 1 }

def combine (op : Bool → Bool → Bool) (a b : CharSet) : CharSet :=
  { has := fun c => op (a.has c) (b.has c), edges := a.edges ++ b.edges,
    nesting := max a.nesting b.nesting + 1 }

def compl (a : CharSet) : CharSet := { a with has := fun c => !a.has c }

/-- The edges of a set that has some of these characters and nothing else. -/
def edgesOf (cs : List Char) : List Nat := cs.flatMap fun c => [c.toNat, c.toNat + 1]

/-- The characters that equal one of the set up to case. -/
def folded (a : CharSet) : CharSet :=
  let added := (Text.casedChars.filter a.has).flatMap Text.caseVariants
  { a with has := fun c => (Text.caseVariants c).any a.has, edges := a.edges ++ edgesOf added }

/-- The characters that equal one of the set up to the case of ASCII letters. -/
def foldedAscii (a : CharSet) : CharSet :=
  { a with
    has := fun c => a.has c || a.has c.toLower || a.has c.toUpper
    edges := a.edges ++ List.range 128 }

/-- Decimal digits, `\d`. -/
def digit : CharSet :=
  { has := fun c => if c.toNat < 128 then c.isDigit else Text.decimalDigits.has c,
    edges := Text.decimalDigits.edges }

/-- White space, `\s`. -/
def space : CharSet :=
  { has := Text.isBlank,
    edges := [9, 14, 0x85, 0x86, 0x2028, 0x202a] ++ Text.spaceSeparators.edges }

/-- The tables of the characters of words. -/
def wordTables : List Text.Runs :=
  [Text.upperLetters, Text.lowerLetters, Text.titleLetters, Text.modifierLetters,
    Text.otherLetters, Text.letterNumerals, Text.addedAlphabetic, Text.nonspacingMarks,
    Text.spacingMarks, Text.enclosingMarks, Text.decimalDigits, Text.connectors]

/-- Word characters, `\w`. -/
def word : CharSet :=
  { has := Text.isWordChar, edges := [0x80, 0x200c, 0x200e] ++ wordTables.flatMap Text.Runs.edges }

def ascii (a : CharSet) : CharSet :=
  { a with has := fun c => c.toNat < 128 && a.has c, edges := 128 :: a.edges }

/-- The ASCII classes that are written `[:name:]`. -/
def named? (name : String) : Option CharSet :=
  let ascii (has : Char → Bool) : Option CharSet :=
    some { has := fun c => c.toNat < 128 && has c, edges := List.range 129 }
  let printing (c : Char) : Bool := 0x21 ≤ c.toNat && c.toNat ≤ 0x7e
  match name with
  | "alnum" => ascii Char.isAlphanum
  | "alpha" => ascii Char.isAlpha
  | "ascii" => ascii fun _ => true
  | "blank" => ascii fun c => c == ' ' || c == '\t'
  | "cntrl" => ascii fun c => c.toNat < 0x20 || c.toNat == 0x7f
  | "digit" => ascii Char.isDigit
  | "graph" => ascii printing
  | "lower" => ascii Char.isLower
  | "print" => ascii fun c => c == ' ' || printing c
  | "punct" => ascii fun c => printing c && !c.isAlphanum
  | "space" => ascii fun c => c == ' ' || (9 ≤ c.toNat && c.toNat ≤ 13)
  | "upper" => ascii Char.isUpper
  | "word" => ascii fun c => c.isAlphanum || c == '_'
  | "xdigit" => ascii fun c => c.isDigit || ('a' ≤ c && c ≤ 'f') || ('A' ≤ c && c ≤ 'F')
  | _ => Option.none

/-- The code point of a member. -/
def hasCode (s : CharSet) (n : Nat) : Bool := decide n.isValidChar && s.has (Char.ofNat n)

/-- The stretches between neighbouring sites, first and last, of which the first is within. -/
def cells (within : Nat → Bool) : List Nat → List (Nat × Nat)
  | low :: next :: sites =>
    let others := cells within (next :: sites)
    if low < next ∧ within low then (low, next - 1) :: others else others
  | _ => []

/-- Stretches in order, where those that touch are one. -/
def joined : List (Nat × Nat) → List (Nat × Nat)
  | [] => []
  | (low, high) :: rest =>
    match joined rest with
    | (low', high') :: rest =>
      if high + 1 = low' then (low, high') :: rest else (low, high) :: (low', high') :: rest
    | [] => [(low, high)]

/-- The stretches of code points that the set consists of, in order. No character lies between the
two halves of the code space. -/
def stretches (s : CharSet) : List (Nat × Nat) :=
  joined (cells s.hasCode (0 :: 0xd800 :: 0xe000 :: 0x110000 :: s.edges).mergeSort)

/-- One character as a part of its own. -/
def literal (c : Char) : CharSet :=
  { single c with backwards := 32 * c.utf8Size, forwards := 32 * c.utf8Size }

/-- A set as a part of its own. Members of ASCII alone are told apart by one state, any others byte
by byte. -/
def standing (s : CharSet) : CharSet :=
  let stretches := s.stretches
  let alike (size : Nat) : CharSet := { s with backwards := size, forwards := size }
  match stretches with
  | [] => alike 32
  | (low, high) :: others =>
    if others.isEmpty ∧ low = high then alike (32 * (Char.ofNat low).utf8Size)
    else if stretches.all (·.2 < 128) then alike (64 + 8 * stretches.length)
    else
      let shapes := stretches.flatMap fun (low, high) => ByteShape.ofStretch low high
      { s with
        backwards := ByteShape.backwardsSize shapes
        forwards := ByteShape.forwardsSize shapes }

end CharSet
end DocExpr.Regex
