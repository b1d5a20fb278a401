import DocExpr.Error
import DocExpr.Number.Literal
import DocExpr.Number.Notation
import DocExpr.Value.Coercion
import DocExpr.Value.Display

/-! Texts with placeholders such as `%s`, `%.2f` and `%2$d`. A placeholder whose argument is not
given stays as it is, and so does a percent sign that starts no placeholder. -/
namespace DocExpr.Library

inductive Conversion where
  | text
  | whole
  | fraction
  | json
  deriving DecidableEq, Repr

def Conversion.ofLetter? : Char → Option Conversion
  | 's' => some .text
  | 'd' | 'i' => some .whole
  | 'f' => some .fraction
  | 'j' => some .json
  | _ => none

structure Placeholder where
  /-- Which argument it takes, from one; the next one in order if none is given. -/
  position : Option Nat
  /-- How many digits stand behind the point. -/
  precision : Option Nat
  conversion : Conversion
  /-- The number of characters behind the percent sign. -/
  width : Nat
  deriving DecidableEq, Repr

/-- A number written in digits, if it has 64 bits. -/
def smallNumber? (digits : List Char) : Option Nat :=
  if digits.isEmpty then none
  else
    let n := Number.natOfDigits digits
    if n < Nat.pow 2 64 then some n else none

/-- The position at the front of a placeholder, how many characters it takes, and the rest.
Position zero is no position. -/
def spanPosition (cs : List Char) : Option Nat × Nat × List Char :=
  match Number.spanDigits cs with
  | (d :: ds, '$' :: rest) =>
    ((smallNumber? (d :: ds)).filter (0 < ·), ds.length + 2, rest)
  | _ => (none, 0, cs)

/-- The precision at the front of a placeholder, how many characters it takes, and the rest. -/
def spanPrecision (cs : List Char) : Option Nat × Nat × List Char :=
  match cs with
  | '.' :: rest =>
    let (digits, rest) := Number.spanDigits rest
    (smallNumber? digits, digits.length + 1, rest)
  | _ => (none, 0, cs)

/-- The placeholder whose percent sign is followed by this text. -/
def placeholder? (cs : List Char) : Option Placeholder :=
  let (position, positionWidth, rest) := spanPosition cs
  let (precision, precisionWidth, rest) := spanPrecision rest
  match rest with
  | c :: _ =>
    (Conversion.ofLetter? c).map fun conversion =>
      ⟨position, precision, conversion, positionWidth + precisionWidth + 1⟩
  | [] => none

/-- A number with digits behind the point, ties to the even digit; the sign of zero is kept. -/
def fixedText (x : Float) (places : Nat) : List Char :=
  match Number.read x with
  | .finite negative m e => Number.signed negative (Number.fixedMagnitude m e places)
  | _ => (Number.toText x).toList

/-- How many digits behind the point can be asked for. -/
def mostPlaces : Nat := Nat.pow 2 16 - 1

/-- Breaks off where a placeholder asks for more digits of a finite number than it can. -/
def Placeholder.check (p : Placeholder) (v : Value) : Except EvalError Unit :=
  match p.conversion, p.precision with
  | .fraction, some places =>
    if mostPlaces < places && Number.isFinite v.toNumber then
      .error (.badType (.tooManyPlaces places))
    else .ok ()
  | _, _ => .ok ()

def Placeholder.write (p : Placeholder) (v : Value) : List Char :=
  match p.conversion with
  | .text => v.display.toList
  | .whole => (Number.toText (Number.trunc v.toNumber)).toList
  | .fraction =>
    match p.precision with
    | some places => fixedText v.toNumber places
    | none => (Number.toText v.toNumber).toList
  | .json => v.compact

/-- The text of a format. `skip` characters of it are passed over; `used` arguments were taken in
order. -/
def formatFrom (args : List Value) (skip used : Nat) (cs : List Char) :
    Except EvalError (List Char) :=
  match cs with
  | [] => .ok []
  | c :: rest =>
    match skip with
    | skip + 1 => formatFrom args skip used rest
    | 0 =>
      if c ≠ '%' then (formatFrom args 0 used rest).map (c :: ·)
      else if rest.head? = some '%' then (formatFrom args 1 used rest).map ('%' :: ·)
      else
        match placeholder? rest with
        | none => (formatFrom args 0 used rest).map ('%' :: ·)
        | some p =>
          let (index, used) :=
            match p.position with
            | some n => (n - 1, used)
            | none => (used, used + 1)
          match args[index]? with
          | some v => do
            p.check v
            (formatFrom args p.width used rest).map (p.write v ++ ·)
          | none => (formatFrom args p.width used rest).map ('%' :: rest.take p.width ++ ·)

def format (text : String) (args : List Value) : Except EvalError String :=
  (formatFrom args 0 0 text.toList).map String.ofList

end DocExpr.Library
