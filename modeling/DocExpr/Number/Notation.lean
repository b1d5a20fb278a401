import DocExpr.Number.Shortest

/-! The decimal texts of a number. `toText` is the text of the expression language, `toJson` the
text written into documents; both take the fewest digits that read back and differ in a `Layout`.
`fixed` and `exponential` instead write a chosen number of digits of the exact value, rounded to
the nearest with ties to the even digit. -/
namespace DocExpr.Number

/-- The decimal digits of a natural number, the first one not zero unless it is the only one. -/
def digitChars (n : Nat) : List Char := Nat.toDigits 10 n

def intText (n : Int) : String :=
  String.ofList (if n < 0 then '-' :: digitChars n.natAbs else digitChars n.natAbs)

/-- Puts a point before the last `places` digits, with zeros in front where digits are missing. -/
def placePoint (digits : List Char) (places : Nat) : List Char :=
  if places = 0 then digits
  else
    let padded := List.replicate (places + 1 - digits.length) '0' ++ digits
    padded.take (padded.length - places) ++ '.' :: padded.drop (padded.length - places)

def exponentMark (exponent : Int) : List Char :=
  'e' :: (if exponent < 0 then '-' else '+') :: digitChars exponent.natAbs

/-- One digit, the point, the other digits, and the exponent of the first digit. -/
def scientific (digits : List Char) (exponent : Int) : List Char :=
  match digits with
  | [] => []
  | [d] => d :: exponentMark exponent
  | d :: ds => d :: '.' :: ds ++ exponentMark exponent

/-- Which numbers are written without an exponent, and how. -/
structure Layout where
  /-- Which of two equally near decimals is written. -/
  tie : Tie
  /-- The least exponent of a first digit that is written in place. -/
  least : Int
  /-- The greatest exponent of a first digit that is written in place. -/
  greatest : Int
  /-- Whole numbers end in `.0`. -/
  pointOnWhole : Bool

/-- Numbers of the expression language: in place from a millionth to below `10 ^ 21`. -/
def Layout.expression : Layout := ⟨.up, -6, 20, false⟩

/-- Numbers that are no small integers in a document: in place from `10 ^ -5` to below
`10 ^ 16`. -/
def Layout.document : Layout := ⟨.toEven, -5, 15, true⟩

def Decimal.write (layout : Layout) (d : Decimal) : List Char :=
  let digits := digitChars d.digits
  let lead := d.exponent + digits.length - 1
  if layout.least ≤ lead ∧ lead ≤ layout.greatest then
    if 0 ≤ d.exponent then
      digits ++ List.replicate d.exponent.toNat '0' ++
        (if layout.pointOnWhole then ['.', '0'] else [])
    else placePoint digits (-d.exponent).toNat
  else scientific digits lead

/-- A minus sign in front of a negative number. -/
def signed (negative : Bool) (magnitude : List Char) : List Char :=
  if negative then '-' :: magnitude else magnitude

/-- The text of a number in the expression language; both zeros are `0`. -/
def toText (x : Float) : String :=
  match read x with
  | .nan => "NaN"
  | .infinite negative => if negative then "-Infinity" else "Infinity"
  | .finite negative m e =>
    if m = 0 then "0"
    else String.ofList (signed negative ((shortest Layout.expression.tie m e).write .expression))

/-- Below this magnitude every integer is a double. -/
def exactLimit : Nat := Nat.pow 2 53

/-- The text of a number in a document: whole numbers below `2 ^ 53` as integers, and `null` for
what is not finite. -/
def toJson (x : Float) : String :=
  match read x with
  | .nan | .infinite _ => "null"
  | .finite negative m e =>
    let (whole, rest) := splitWhole m e
    if !rest && whole < exactLimit then intText (if negative then -(whole : Int) else whole)
    else String.ofList (signed negative ((shortest Layout.document.tie m e).write .document))

/-- The exact value with `places` digits after the point, ties to the even digit. -/
def fixedMagnitude (mantissa : Nat) (exponent : Int) (places : Nat) : List Char :=
  let n := (Ratio.ofDyadic mantissa exponent).scaleDown (-places) |>.round .toEven
  placePoint (digitChars n) places

/-- The exact value with one digit before the point and `places` after it, ties to the even digit,
together with the exponent of the first digit. -/
def exponentialDigits (mantissa : Nat) (exponent : Int) (places : Nat) : List Char × Int :=
  if mantissa = 0 then (List.replicate (places + 1) '0', 0)
  else
    let lead := leadingExponent mantissa exponent
    let n := (Ratio.ofDyadic mantissa exponent).scaleDown (lead - places) |>.round .toEven
    if n < Nat.pow 10 (places + 1) then (digitChars n, lead) else (digitChars (n / 10), lead + 1)

end DocExpr.Number
