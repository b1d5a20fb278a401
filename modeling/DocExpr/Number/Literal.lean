import DocExpr.Number.Binary

/-! Numerals, and the hexadecimal digits of codes. A decimal numeral has an optional sign, digits
with at most one point among them and an optional exponent; its value is the double nearest to the
decimal it writes. -/
namespace DocExpr.Number

def isDigit (c : Char) : Bool := '0' ≤ c && c ≤ '9'

def digitValue (c : Char) : Nat := c.toNat - '0'.toNat

def spanDigits (cs : List Char) : List Char × List Char :=
  (cs.takeWhile isDigit, cs.dropWhile isDigit)

def natOfDigits (digits : List Char) : Nat :=
  digits.foldl (fun n c => 10 * n + digitValue c) 0

/-- The double nearest to `digits · 10 ^ exponent`. Outside `10 ^ -330` to `10 ^ 310` the answer is
known without computing the power. -/
def ofDecimal (digits : Nat) (exponent : Int) : Float :=
  if digits = 0 then 0.0
  else
    let top := (Nat.toDigits 10 digits).length + exponent
    if 310 < top then infinity
    else if top < -330 then 0.0
    else Float.ofScientific digits (exponent < 0) exponent.natAbs

def spanSign (cs : List Char) : Bool × List Char :=
  match cs with
  | '-' :: rest => (true, rest)
  | '+' :: rest => (false, rest)
  | _ => (false, cs)

def wholeNumber? (cs : List Char) : Option Int :=
  let (negative, digits) := spanSign cs
  if digits.isEmpty || !digits.all isDigit then none
  else
    let n : Int := natOfDigits digits
    some (if negative then -n else n)

/-- An exponent mark with at least one digit at the front of a text, and the rest. -/
def spanExponent? (cs : List Char) : Option (Int × List Char) :=
  match cs with
  | c :: rest =>
    if c = 'e' ∨ c = 'E' then
      let (negative, rest) := spanSign rest
      match spanDigits rest with
      | ([], _) => none
      | (digits, rest) =>
        let n : Int := natOfDigits digits
        some (if negative then -n else n, rest)
    else none
  | [] => none

/-- Digits with at most one point among them at the front of a text: the digits before and after
the point, and the rest. -/
def spanPoint (cs : List Char) : List Char × List Char × List Char :=
  match spanDigits cs with
  | (whole, '.' :: rest) =>
    let (fraction, rest) := spanDigits rest
    (whole, fraction, rest)
  | (whole, rest) => (whole, [], rest)

/-- The value of a text that is a numeral as a whole: digits on at least one side of the point. -/
def ofNumeral? (cs : List Char) : Option Float :=
  let (negative, cs) := spanSign cs
  let (whole, fraction, rest) := spanPoint cs
  let exponent? := if rest.isEmpty then some (0, []) else spanExponent? rest
  match whole ++ fraction, exponent? with
  | [], _ | _, none => none
  | digits, some (exponent, []) =>
    let x := ofDecimal (natOfDigits digits) (exponent - fraction.length)
    some (if negative then -x else x)
  | _, some (_, _ :: _) => none

/-- The value of the hexadecimal digit with this code, of either case. -/
def hexValue? (code : Nat) : Option Nat :=
  if 48 ≤ code ∧ code ≤ 57 then some (code - 48)
  else if 65 ≤ code ∧ code ≤ 70 then some (code - 55)
  else if 97 ≤ code ∧ code ≤ 102 then some (code - 87)
  else none

/-- The natural number that hexadecimal digits write; zero if there are none. -/
def hexNumber? (digits : List Char) : Option Nat :=
  digits.foldlM (fun n c => (hexValue? c.toNat).map (16 * n + ·)) 0

def hex4? (a b c d : Char) : Option Nat := hexNumber? [a, b, c, d]

/-- A hexadecimal digit, where the letters begin with this `a`. -/
def hexDigit (a : Char) (n : Nat) : Char :=
  if n < 10 then Char.ofNat ('0'.toNat + n) else Char.ofNat (a.toNat + (n - 10))

end DocExpr.Number
