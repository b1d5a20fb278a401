import DocExpr.Number.Notation
import DocExpr.Number.Literal
import DocExpr.Text.Blank
import DocExpr.Text.Occurrence

/-! Numbers at the front of a text. What follows them is ignored. -/
namespace DocExpr.Number

/-- What follows the longest numeral at the front of a text, if a numeral stands there. -/
def afterNumeral? (cs : List Char) : Option (List Char) :=
  let (whole, fraction, rest) := spanPoint (spanSign cs).2
  if whole.isEmpty && fraction.isEmpty then none
  else
    match spanExponent? rest with
    | some (_, rest) => some rest
    | none => some rest

/-- The value of the longest numeral at the front of a text, behind blanks. An infinity may have
one sign. -/
def leadingNumeral (s : String) : Float :=
  let cs := Text.trimLeft s.toList
  let (negative, magnitude) := spanSign cs
  if Text.startsWith "Infinity".toList magnitude then
    if negative then -infinity else infinity
  else
    match afterNumeral? cs with
    | some rest => (ofNumeral? (cs.take (cs.length - rest.length))).getD nan
    | none => nan

/-- The value of a digit or a letter, of which those beyond ten come from the alphabet. -/
def alphanumericValue? (c : Char) : Option Nat :=
  if isDigit c then some (digitValue c)
  else if 'a' ≤ c ∧ c ≤ 'z' then some (c.toNat - 'a'.toNat + 10)
  else if 'A' ≤ c ∧ c ≤ 'Z' then some (c.toNat - 'A'.toNat + 10)
  else none

def baseDigit? (base : Nat) (c : Char) : Option Nat :=
  (alphanumericValue? c).filter (· < base)

def leadingDigits (base : Nat) : List Char → List Nat
  | [] => []
  | c :: cs =>
    match baseDigit? base c with
    | some d => d :: leadingDigits base cs
    | none => []

/-- The number that digits write. Below `2 ^ 53` it is exact; from there on it is rounded after
each digit. -/
def ofBaseDigits (base : Nat) (digits : List Nat) : Float :=
  let exact := digits.foldl (fun n d => n * base + d) 0
  if exact < exactLimit then Float.ofNat exact
  else digits.foldl (fun x d => x * Float.ofNat base + Float.ofNat d) 0.0

def dropHexMark? (cs : List Char) : Option (List Char) :=
  match cs with
  | '0' :: 'x' :: rest | '0' :: 'X' :: rest => some rest
  | _ => none

/-- The integer at the front of a text in a base, or without one in the base that the text shows:
sixteen behind its mark, else ten. -/
def leadingInteger (s : String) (base : Option Nat) : Float :=
  let (negative, cs) := spanSign (Text.trim s.toList)
  let (base, body) :=
    match base, dropHexMark? cs with
    | none, some rest => (16, rest)
    | none, none => (10, cs)
    | some base, some rest => if base = 16 then (16, rest) else (base, cs)
    | some base, none => (base, cs)
  match leadingDigits base body with
  | [] => nan
  | digits =>
    let x := ofBaseDigits base digits
    if negative then -x else x

end DocExpr.Number
