import DocExpr.Library.Format
import DocExpr.Library.Host

/-! The methods of numbers, which write them with a chosen number of digits or in another base. -/
namespace DocExpr.Library
open DocExpr.Number (Decimal digitChars signed)

inductive NumberMethod where
  | toExponential
  | toFixed
  | toPrecision
  | toText
  deriving DecidableEq, Repr

def NumberMethod.catalog : Catalog NumberMethod := [
  ("toExponential", .toExponential, .range 0 1),
  ("toFixed", .toFixed, .range 0 1),
  ("toPrecision", .toPrecision, .range 0 1),
  ("toString", .toText, .range 0 1)]

def digitsArg (name : String) (args : List Value) (least most : Nat) : Except EvalError Nat :=
  let d := Number.clampInt (-1) (most + 1) (numberArg args 0 0.0)
  if d < least ∨ most < d then typeError (.digitsOutOfRange name least most) else .ok d.toNat

/-- Adds one to the last digit of a decimal, written last digit first, and carries past the
point. -/
def addOneReversed : List Char → List Char
  | [] => ['1']
  | '.' :: cs => '.' :: addOneReversed cs
  | '9' :: cs => '0' :: addOneReversed cs
  | c :: cs => Char.ofNat (c.toNat + 1) :: cs

def roundUpDecimal (cs : List Char) : List Char := (addOneReversed cs.reverse).reverse

/-- The digits beyond those asked for that decide whether a number lies halfway. -/
def guardDigits : Nat := 25

/-- A five and zeros only. -/
def isHalf (tail : List Char) : Bool :=
  match tail with
  | '5' :: zeros => zeros.all (· == '0')
  | _ => false

/-- A magnitude with a fixed number of digits behind the point; halfway it goes up. -/
def fixedHalfUp (mantissa : Nat) (exponent : Int) (places : Nat) : List Char :=
  let long := Number.fixedMagnitude mantissa exponent (places + guardDigits)
  let cut := long.length - guardDigits
  if isHalf (long.drop cut) then
    let head := long.take cut
    roundUpDecimal (if head.getLast? = some '.' then head.dropLast else head)
  else Number.fixedMagnitude mantissa exponent places

/-- A number with a fixed number of digits behind the point. From `10 ^ 21` on it is written as
usual, and zero has no sign. -/
def toFixed (x : Float) (places : Nat) : String :=
  match Number.read x with
  | .finite negative m e =>
    if 1e21 ≤ x.abs then Number.toText x
    else String.ofList (signed (negative && m != 0) (fixedHalfUp m e places))
  | _ => Number.toText x

/-- A number with an exponent, and that many digits behind the point; as many as it needs if none
is given. -/
def toExponential (x : Float) (places : Option Nat) : String :=
  match Number.read x with
  | .finite negative m e =>
    let (digits, exponent) :=
      match places with
      | some places => Number.exponentialDigits m e places
      | none =>
        if m = 0 then (['0'], 0)
        else
          let d := Number.shortest .up m e
          (digitChars d.digits, d.exponent + (digitChars d.digits).length - 1)
    String.ofList (signed negative (Number.scientific digits exponent))
  | _ => Number.toText x

/-- A number with that many significant digits, in place if its exponent allows it. -/
def toPrecision (x : Float) (precision : Nat) : String :=
  match Number.read x with
  | .finite negative m e =>
    if m = 0 then toFixed 0.0 (precision - 1)
    else
      let (digits, exponent) := Number.exponentialDigits m e (precision - 1)
      if exponent < -6 ∨ precision ≤ exponent then
        String.ofList (signed negative (Number.scientific digits exponent))
      else String.ofList (fixedText x (precision - 1 - exponent).toNat)
  | _ => Number.toText x

/-- The digit with a value below 36; behind nine come the small letters. -/
def radixDigit (value : Nat) : Char :=
  Char.ofNat (if value < 10 then '0'.toNat + value else 'a'.toNat + (value - 10))

def radixDigits (base n : Nat) : List Char :=
  if base < 2 ∨ n < base then [radixDigit n]
  else radixDigits base (n / base) ++ [radixDigit (n % base)]
termination_by n
decreasing_by exact Nat.div_lt_self (by omega) (by omega)

/-- A number in a base. Only whole numbers below `2 ^ 53` are written in another base than ten. -/
def toRadix (x : Float) (base : Nat) : String :=
  if base = 10 ∨ !Number.isWhole x ∨ (Number.wholePart x).natAbs ≥ Number.exactLimit then
    Number.toText x
  else
    let n := Number.wholePart x
    String.ofList (signed (n < 0) (radixDigits base n.natAbs))

def givenArg? (args : List Value) : Option Value :=
  match args.head? with
  | none | some .null => none
  | some v => some v

def NumberMethod.run (m : NumberMethod) (x : Float) (args : List Value) :
    Except EvalError Value := do
  match m with
  | .toFixed => return .string (Library.toFixed x (← digitsArg "toFixed" args 0 100))
  | .toExponential =>
    match givenArg? args with
    | none => return .string (Library.toExponential x none)
    | some _ =>
      return .string (Library.toExponential x (some (← digitsArg "toExponential" args 0 100)))
  | .toPrecision =>
    match givenArg? args with
    | none => return .string (Number.toText x)
    | some _ => return .string (Library.toPrecision x (← digitsArg "toPrecision" args 1 100))
  | .toText =>
    match givenArg? args with
    | none => return .string (Number.toText x)
    | some v =>
      let base := Number.clampInt 0 37 v.toNumber
      if base < 2 ∨ 36 < base then typeError .radixOutOfRange
      else return .string (toRadix x base.toNat)

end DocExpr.Library
