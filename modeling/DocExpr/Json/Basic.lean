import DocExpr.Number.Literal

/-! JSON texts as trees, and their strings in quotes. Members of an object stay in the order of the
text and may repeat a key; who reads the tree decides what a repetition means. Integers of 64 bits
are kept exactly. -/
namespace DocExpr

inductive Json.Numeral where
  /-- A natural number below `2 ^ 64`. -/
  | natural (n : Nat)
  /-- The negative of a positive number of at most `2 ^ 63`. -/
  | negative (n : Nat)
  /-- Any other number. -/
  | float (x : Float)

inductive Json where
  | null
  | bool (b : Bool)
  | number (n : Json.Numeral)
  | string (s : String)
  | array (items : List Json)
  | object (members : List (String × Json))

instance : Inhabited Json := ⟨.null⟩

def Json.Numeral.toFloat : Json.Numeral → Float
  | .natural n => Float.ofNat n
  | .negative n => -(Float.ofNat n)
  | .float x => x

end DocExpr

namespace DocExpr.Json

/-! Both forms of the library escape the quote, the backslash and the control characters; they
differ in the escapes that have a letter. -/

def numberEscape (c : Char) : List Char :=
  ['\\', 'u', '0', '0', Number.hexDigit 'a' (c.toNat / 16), Number.hexDigit 'a' (c.toNat % 16)]

def escapeDisplayed (c : Char) : List Char :=
  if c = '"' then ['\\', '"']
  else if c = '\\' then ['\\', '\\']
  else if c = '\n' then ['\\', 'n']
  else if c = '\r' then ['\\', 'r']
  else if c = '\t' then ['\\', 't']
  else if c.toNat < 0x20 then numberEscape c
  else [c]

/-- How a document escapes a character: backspace and form feed have a letter too. -/
def escapeWritten (c : Char) : List Char :=
  if c = '\x08' then ['\\', 'b']
  else if c = '\x0c' then ['\\', 'f']
  else escapeDisplayed c

def quoted (escape : Char → List Char) (s : String) : List Char :=
  '"' :: s.toList.flatMap escape ++ ['"']

end DocExpr.Json
