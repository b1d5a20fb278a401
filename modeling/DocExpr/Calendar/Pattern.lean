import DocExpr.Number.Literal
import DocExpr.Text.Blank

/-! Date patterns. A pattern such as `yyyy-MM-dd'T'HH:mm` is runs of letters, each of which names
a field and a width, with literal text between them. It is spelled out in percent specifiers, and
those are read as the items that dates are written and read with. -/
namespace DocExpr.Calendar

/-- The fields that are written as numbers. -/
inductive NumberField where
  | year
  | yearOfCentury
  | month
  | day
  | dayOfYear
  | hour
  | hourOfHalf
  | minute
  | second
  deriving DecidableEq, Repr

inductive Item where
  /-- Text that stands for itself. -/
  | literal (text : List Char)
  /-- White space, which on reading stands for any amount of it. -/
  | space (text : List Char)
  /-- A number, with leading zeros up to its width or without. -/
  | number (field : NumberField) (padded : Bool)
  | monthName (full : Bool)
  | weekdayName (full : Bool)
  /-- Before or after noon. -/
  | half
  /-- That many digits of the fraction of the second. -/
  | fraction (digits : Nat)
  /-- A point and digits of the fraction of the second, as many as there are if none is given. -/
  | pointFraction (digits : Option Nat)
  | zoneName
  | offset (colon : Bool)
  | invalid
  deriving DecidableEq, Repr

def NumberField.ofLetter? : Char → Option NumberField
  | 'Y' => some .year
  | 'y' => some .yearOfCentury
  | 'm' => some .month
  | 'd' => some .day
  | 'j' => some .dayOfYear
  | 'H' => some .hour
  | 'I' => some .hourOfHalf
  | 'M' => some .minute
  | 'S' => some .second
  | _ => none

def Item.ofLetter (c : Char) : Item :=
  match NumberField.ofLetter? c with
  | some field => .number field true
  | none =>
    match c with
    | '%' => .literal ['%']
    | 'b' => .monthName false
    | 'B' => .monthName true
    | 'a' => .weekdayName false
    | 'A' => .weekdayName true
    | 'p' => .half
    | 'Z' => .zoneName
    | 'z' => .offset false
    | _ => .invalid

/-- The first item of a text of specifiers, and the rest. -/
def Item.first (cs : List Char) : Item × List Char :=
  match cs with
  | '%' :: '-' :: c :: rest =>
    match NumberField.ofLetter? c with
    | some field => (.number field false, rest)
    | none => (.invalid, rest)
  | '%' :: ':' :: 'z' :: rest => (.offset true, rest)
  | '%' :: '.' :: 'f' :: rest => (.pointFraction none, rest)
  | '%' :: '.' :: '3' :: 'f' :: rest => (.pointFraction (some 3), rest)
  | '%' :: '3' :: 'f' :: rest => (.fraction 3, rest)
  | '%' :: '6' :: 'f' :: rest => (.fraction 6, rest)
  | '%' :: '9' :: 'f' :: rest => (.fraction 9, rest)
  | '%' :: c :: rest => (.ofLetter c, rest)
  | ['%'] => (.invalid, [])
  | c :: rest =>
    if Text.isBlank c then (.space (c :: rest.takeWhile Text.isBlank), rest.dropWhile Text.isBlank)
    else
      let plain (d : Char) : Bool := d != '%' && !Text.isBlank d
      (.literal (c :: rest.takeWhile plain), rest.dropWhile plain)
  | [] => (.invalid, [])

/-- The items of a text of specifiers. Every item takes at least one character, so `fuel` need not
exceed the length of the text. -/
def itemsLoop : Nat → List Char → List Item
  | 0, _ => []
  | fuel + 1, cs =>
    match cs with
    | [] => []
    | c :: rest =>
      let (item, rest) := Item.first (c :: rest)
      item :: itemsLoop fuel rest

def itemsOf (specifiers : List Char) : List Item := itemsLoop specifiers.length specifiers

/-- A character of a pattern, inside quotes or not. Two quotes in a row stand for one. -/
inductive Mark where
  | plain (c : Char)
  | quoted (c : Char)
  deriving DecidableEq, Repr

/-- The characters of a pattern without the quotes around text; `inside` says that a quote is
open. -/
def marks (inside : Bool) : List Char → List Mark
  | '\'' :: '\'' :: cs => .quoted '\'' :: marks inside cs
  | '\'' :: cs => marks (!inside) cs
  | c :: cs => (if inside then .quoted c else .plain c) :: marks inside cs
  | [] => []

inductive Part where
  /-- A run of one character outside quotes. -/
  | run (c : Char) (count : Nat)
  /-- A character inside quotes. -/
  | text (c : Char)
  deriving DecidableEq, Repr

/-- Joins equal characters outside quotes that follow one another. -/
def partsOfMarks : List Mark → List Part
  | [] => []
  | .quoted c :: ms => .text c :: partsOfMarks ms
  | .plain c :: ms =>
    match partsOfMarks ms with
    | .run d n :: ps => if c = d then .run c (n + 1) :: ps else .run c 1 :: .run d n :: ps
    | ps => .run c 1 :: ps

def partsOf (pattern : List Char) : List Part := partsOfMarks (marks false pattern)

/-- The specifier for a run of a letter; none if the letter means nothing. -/
def specifier? (c : Char) (count : Nat) : Option String :=
  match c with
  | 'y' => some (if count = 2 then "%y" else "%Y")
  | 'Y' => some "%Y"
  | 'M' =>
    some (if count = 1 then "%-m" else if count = 2 then "%m" else if count = 3 then "%b" else "%B")
  | 'd' => some (if count = 1 then "%-d" else "%d")
  | 'D' => some (if count = 1 then "%-j" else "%j")
  | 'H' => some (if count = 1 then "%-H" else "%H")
  | 'h' => some (if count = 1 then "%-I" else "%I")
  | 'm' => some (if count = 1 then "%-M" else "%M")
  | 's' => some (if count = 1 then "%-S" else "%S")
  | 'S' => some (if count ≤ 3 then "%3f" else if count ≤ 6 then "%6f" else "%9f")
  | 'a' => some "%p"
  | 'E' => some (if count ≤ 3 then "%a" else "%A")
  | 'Z' | 'X' => some (if count = 1 then "%z" else "%:z")
  | 'z' => some "%Z"
  | _ => none

/-- Text among specifiers, where a percent sign is written twice. -/
def escapePercent (c : Char) : List Char := if c = '%' then ['%', '%'] else [c]

def Part.specifiers : Part → List Char
  | .text c => escapePercent c
  | .run c count =>
    match specifier? c count with
    | some s => s.toList
    | none => (List.replicate count c).flatMap escapePercent

def specifiersOf (pattern : List Char) : List Char := (partsOf pattern).flatMap Part.specifiers

def itemsOfPattern (pattern : String) : List Item := itemsOf (specifiersOf pattern.toList)

end DocExpr.Calendar
