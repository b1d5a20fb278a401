import DocExpr.Json.Basic
import DocExpr.Number.Literal

/-! Reads JSON texts. A text is one value with white space around it, containers nest at most 127
deep, and a number that is no 64-bit integer becomes a double: its first digits, as many as fit 64
bits, are scaled by a power of ten in double arithmetic. -/
namespace DocExpr.Json

def isSpace (c : Char) : Bool := c == ' ' || c == '\n' || c == '\t' || c == '\r'

def skipSpace (cs : List Char) : List Char := cs.dropWhile isSpace

/-- The digits at the front that can be appended to `n` within 64 bits, how many they are, and the
rest. -/
def takeDigits (n count : Nat) : List Char → Nat × Nat × List Char
  | [] => (n, count, [])
  | c :: cs =>
    if Number.isDigit c ∧ 10 * n + Number.digitValue c < Nat.pow 2 64 then
      takeDigits (10 * n + Number.digitValue c) (count + 1) cs
    else (n, count, c :: cs)

/-- `x · 10 ^ exponent` in double arithmetic, dividing by `10 ^ 308` as often as needed but at
most `fuel` times; none if the result is too large. -/
def scaleBy (fuel : Nat) (x : Float) (exponent : Int) : Option Float :=
  if exponent.natAbs ≤ 308 then
    let power := Float.ofScientific 1 false exponent.natAbs
    if 0 ≤ exponent then
      let y := x * power
      if Number.isInfinite y then none else some y
    else some (x / power)
  else if x == 0.0 then some x
  else if 0 ≤ exponent then none
  else match fuel with
    | 0 => some 0.0
    | fuel + 1 => scaleBy fuel (x / 1e308) (exponent + 308)

/-- The double with the digits `significand` and a power of ten. A significand of 64 bits is gone
after three divisions. -/
def ofParts (negative : Bool) (significand : Nat) (exponent : Int) : Option Numeral := do
  let x ← scaleBy 3 (Float.ofNat significand) exponent
  return .float (if negative then -x else x)

/-- The number with these first digits, read on from what may be an exponent. -/
def finishExponent (negative : Bool) (significand : Nat) (exponent : Int) (cs : List Char) :
    Option (Numeral × List Char) :=
  match cs with
  | c :: rest =>
    if c = 'e' ∨ c = 'E' then
      let (down, rest) := Number.spanSign rest
      match Number.spanDigits rest with
      | ([], _) => none
      | (digits, rest) =>
        let n := Number.natOfDigits digits
        if n < Nat.pow 2 31 then do
          let x ← ofParts negative significand (if down then exponent - n else exponent + n)
          return (x, rest)
        else if significand ≠ 0 ∧ !down then none
        else some (.float (if negative then -0.0 else 0.0), rest)
    else do return (← ofParts negative significand exponent, cs)
  | [] => do return (← ofParts negative significand exponent, cs)

/-- The number with these first digits, read on from its point. Digits that do not fit into the
significand any more are passed over. -/
def finishFraction (negative : Bool) (significand : Nat) (exponent : Int) (cs : List Char) :
    Option (Numeral × List Char) :=
  let (n, count, rest) := takeDigits significand 0 cs
  if (cs.takeWhile Number.isDigit).isEmpty then none
  else finishExponent negative n (exponent - count) (rest.dropWhile Number.isDigit)

/-- An integer of at most 64 bits; a negative zero, or a negative number too small for 64 bits, is
a double. -/
def ofInteger (negative : Bool) (n : Nat) : Numeral :=
  if !negative then .natural n
  else if n = 0 ∨ Nat.pow 2 63 < n then .float (-(Float.ofNat n))
  else .negative n

/-- A number whose sign has been read. -/
def unsigned (negative : Bool) (cs : List Char) : Option (Numeral × List Char) :=
  match cs with
  | '0' :: c :: _ => if Number.isDigit c then none else body
  | c :: _ => if Number.isDigit c then body else none
  | [] => none
where
  /-- The number, known to start with a digit and not with a superfluous zero. -/
  body : Option (Numeral × List Char) :=
    let (n, _, rest) := takeDigits 0 0 cs
    -- integer digits that no longer fit only count
    let (extra, rest) := Number.spanDigits rest
    match rest with
    | '.' :: rest => finishFraction negative n extra.length rest
    | c :: _ =>
      if c = 'e' ∨ c = 'E' ∨ !extra.isEmpty then finishExponent negative n extra.length rest
      else some (ofInteger negative n, rest)
    | [] =>
      if extra.isEmpty then some (ofInteger negative n, [])
      else finishExponent negative n extra.length []

def shortEscape? : Char → Option Char
  | '"' => some '"'
  | '\\' => some '\\'
  | '/' => some '/'
  | 'b' => some '\x08'
  | 'f' => some '\x0c'
  | 'n' => some '\n'
  | 'r' => some '\r'
  | 't' => some '\t'
  | _ => none

/-- Reads a string on from behind its opening quote; `done` holds the characters so far, last one
first. Characters outside the first plane are escaped as two units, which must come together. -/
def stringRest (done : List Char) : List Char → Option (String × List Char)
  | [] => none
  | '"' :: rest => some (String.ofList done.reverse, rest)
  | '\\' :: 'u' :: a :: b :: c :: d :: rest =>
    match Number.hex4? a b c d with
    | none => none
    | some n =>
      if n < 0xd800 ∨ 0xdfff < n then stringRest (Char.ofNat n :: done) rest
      else if 0xdbff < n then none
      else
        match rest with
        | '\\' :: 'u' :: a :: b :: c :: d :: rest =>
          match Number.hex4? a b c d with
          | none => none
          | some low =>
            if 0xdc00 ≤ low ∧ low ≤ 0xdfff then
              stringRest
                (Char.ofNat (0x10000 + (n - 0xd800) * 0x400 + (low - 0xdc00)) :: done) rest
            else none
        | _ => none
  | '\\' :: c :: rest =>
    match shortEscape? c with
    | some c => stringRest (c :: done) rest
    | none => none
  | c :: rest => if c.toNat < 0x20 ∨ c = '\\' then none else stringRest (c :: done) rest

/-- The rest after a comma or a closing mark: `some (false, …)` when the container goes on. -/
def afterItem (close : Char) (cs : List Char) : Option (Bool × List Char) :=
  match skipSpace cs with
  | c :: rest =>
    if c = close then some (true, rest) else if c = ',' then some (false, rest) else none
  | [] => none

/-- The items of an array up to its closing bracket; `done` holds the items so far, last one
first. Every round reads at least one character, so the length of the text bounds the rounds. -/
def items (value : List Char → Option (Json × List Char)) (done : List Json) :
    Nat → List Char → Option (List Json × List Char)
  | 0, _ => none
  | fuel + 1, cs =>
    match value cs with
    | none => none
    | some (v, cs) =>
      match afterItem ']' cs with
      | some (true, cs) => some ((v :: done).reverse, cs)
      | some (false, cs) => items value (v :: done) fuel cs
      | none => none

/-- A key, a colon and a value. -/
def member (value : List Char → Option (Json × List Char)) (cs : List Char) :
    Option ((String × Json) × List Char) :=
  match skipSpace cs with
  | '"' :: cs =>
    match stringRest [] cs with
    | none => none
    | some (key, cs) =>
      match skipSpace cs with
      | ':' :: cs => (value cs).map fun (v, cs) => ((key, v), cs)
      | _ => none
  | _ => none

/-- The members of an object up to its closing brace. -/
def members (value : List Char → Option (Json × List Char)) (done : List (String × Json)) :
    Nat → List Char → Option (List (String × Json) × List Char)
  | 0, _ => none
  | fuel + 1, cs =>
    match member value cs with
    | none => none
    | some (m, cs) =>
      match afterItem '\x7d' cs with
      | some (true, cs) => some ((m :: done).reverse, cs)
      | some (false, cs) => members value (m :: done) fuel cs
      | none => none

/-- Reads one value, with containers nested less than `depth` deep, and returns the rest. -/
def readValue : Nat → List Char → Option (Json × List Char)
  | 0, _ => none
  | depth + 1, cs =>
    match skipSpace cs with
    | 'n' :: 'u' :: 'l' :: 'l' :: cs => some (.null, cs)
    | 't' :: 'r' :: 'u' :: 'e' :: cs => some (.bool true, cs)
    | 'f' :: 'a' :: 'l' :: 's' :: 'e' :: cs => some (.bool false, cs)
    | '"' :: cs => (stringRest [] cs).map fun (s, cs) => (.string s, cs)
    | '-' :: cs => (unsigned true cs).map fun (n, cs) => (.number n, cs)
    | '[' :: cs =>
      if depth = 0 then none
      else match skipSpace cs with
        | ']' :: cs => some (.array [], cs)
        | cs => (items (readValue depth) [] cs.length cs).map fun (vs, cs) => (.array vs, cs)
    | '\x7b' :: cs =>
      if depth = 0 then none
      else match skipSpace cs with
        | '\x7d' :: cs => some (.object [], cs)
        | cs => (members (readValue depth) [] cs.length cs).map fun (ms, cs) => (.object ms, cs)
    | cs => (unsigned false cs).map fun (n, cs) => (.number n, cs)

/-- Values may lie at most 127 containers deep. -/
def depthLimit : Nat := 128

def read? (s : String) : Option Json :=
  match readValue depthLimit s.toList with
  | some (v, rest) => if (skipSpace rest).isEmpty then some v else none
  | none => none

end DocExpr.Json
