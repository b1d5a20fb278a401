import DocExpr.Regex.Search
import DocExpr.Value.Coercion

/-! Values and patterns. Matching never fails: a pattern that makes no sense for a value, such as a
regex that means nothing, does not match. Ranges of numbers are written `1..10` without the upper
bound and `1..10=` with it. -/
namespace DocExpr

structure Range where
  low : Float
  high : Float
  inclusive : Bool

namespace Range

/-- The number that a bound writes. Beside numerals there are words for infinity and for what is no
number, in small letters or capitals. -/
def bound? (cs : List Char) : Option Float :=
  let (negative, word) := Number.spanSign cs
  let word := word.map Char.toLower
  let special : Option Float :=
    if word = "inf".toList ∨ word = "infinity".toList then some Number.infinity
    else if word = "nan".toList then some Number.nan
    else none
  match special with
  | some x => some (if negative then -x else x)
  | none => Number.ofNumeral? cs

def ofText? (s : String) : Option Range := do
  let cs := s.toList
  let i ← Text.indexOf? ['.', '.'] cs 0
  let rest := cs.drop (i + 2)
  let (high, inclusive) :=
    match Text.dropSuffix? ['='] rest with
    | some high => (high, true)
    | none => (rest, false)
  return ⟨← bound? (Text.trim (cs.take i)), ← bound? (Text.trim high), inclusive⟩

def containsNumber (r : Range) (x : Float) : Bool :=
  !x.isNaN && !(x < r.low) && (if r.inclusive then x ≤ r.high else x < r.high)

/-- The value is a number in the range, or a string that writes one. -/
def contains (r : Range) (v : Value) : Bool :=
  match v with
  | .number x => r.containsNumber x
  | .string s => r.containsNumber (Value.numberOfText s)
  | _ => false

end Range
end DocExpr

namespace DocExpr.Value
open DocExpr.Expr (Pattern Presence)

/-- A string that equals the text of a pattern, or a value in the range that the text writes. -/
def matchesText (v : Value) (text : String) : Bool :=
  (match v with
    | .string s => s == text
    | _ => false) ||
  (match Range.ofText? text with
    | some range => range.contains v
    | none => false)

def matchesRegex (v : Value) (pattern flags : String) : Bool :=
  match v, Regex.compile? pattern flags with
  | .string s, some program => program.isMatch s.toList.toArray
  | _, _ => false

mutual
def fits : Pattern → Value → Bool
  | .wildcard, _ => true
  | .null, v => v.isNull
  | .bool b, .bool c => b == c
  | .number x, .number y => x == y
  | .string s, v => v.matchesText s
  | .regex pattern flags, v => v.matchesRegex pattern flags
  | .object entries, .object members => fitsEntries entries members
  | .array front spread back, .array items =>
    let fixed := front.length + back.length
    (if spread then fixed ≤ items.length else items.length == fixed) &&
      fitsItems front items && fitsItems back (items.drop (items.length - back.length))
  | _, _ => false

/-- All entries of an object pattern are met. -/
def fitsEntries : List (String × Presence × Pattern) → List (String × Value) → Bool
  | [], _ => true
  | (key, presence, p) :: entries, members =>
    (match Entries.find? members key with
      | none => presence == .optional
      | some v => !(presence == .required && v.isNull) && fits p v) &&
    fitsEntries entries members

/-- Patterns match the values at the same places, as long as there are both. -/
def fitsItems : List Pattern → List Value → Bool
  | p :: ps, v :: vs => fits p v && fitsItems ps vs
  | _, _ => true
end

end DocExpr.Value
