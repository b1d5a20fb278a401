import DocExpr.Calendar.Writing
import DocExpr.Error
import DocExpr.Json.Basic
import DocExpr.Json.Reader
import DocExpr.Value.Basic

/-! Values as documents. A document is read as a value, its keys in order and the last of several
values under one key; a value is written as JSON text directly, or as a JSON tree that is then
written. -/
namespace DocExpr

namespace Value

mutual
def ofJson : Json → Value
  | .null => .null
  | .bool b => .bool b
  | .number n => .number n.toFloat
  | .string s => .string s
  | .array items => .array (ofJsonItems items)
  | .object members => .object (Entries.ofPairs (ofJsonMembers members))

def ofJsonItems : List Json → List Value
  | [] => []
  | j :: js => ofJson j :: ofJsonItems js

def ofJsonMembers : List (String × Json) → List (String × Value)
  | [] => []
  | (k, j) :: ms => (k, ofJson j) :: ofJsonMembers ms
end

def readJson? (s : String) : Option Value := (Json.read? s).map ofJson

mutual
/-- The JSON text of a value. Functions are null, dates their standard text, and a regex is an
object with its pattern and its flags. -/
def written : Value → List Char
  | .null | .lambda _ => "null".toList
  | .bool b => (if b then "true" else "false").toList
  | .number x => (Number.toJson x).toList
  | .string s => Json.quoted Json.escapeWritten s
  | .array items => '[' :: writtenItems items ++ [']']
  | .object entries => '\x7b' :: writtenEntries entries ++ ['\x7d']
  | .date d => Json.quoted Json.escapeWritten d.isoText
  | .regex pattern flags =>
    "\x7b\"pattern\":".toList ++ Json.quoted Json.escapeWritten pattern ++
      ",\"flags\":".toList ++ Json.quoted Json.escapeWritten flags ++ ['\x7d']

def writtenItems : List Value → List Char
  | [] => []
  | [v] => written v
  | v :: vs => written v ++ ',' :: writtenItems vs

def writtenEntries : List (String × Value) → List Char
  | [] => []
  | [(k, v)] => Json.quoted Json.escapeWritten k ++ ':' :: written v
  | (k, v) :: es => Json.quoted Json.escapeWritten k ++ ':' :: written v ++ ',' :: writtenEntries es
end

def writeJson (v : Value) : String := String.ofList v.written

/-- The JSON number of a double; what is not finite is null. -/
def numberTree (x : Float) : Json :=
  match Number.read x with
  | .nan | .infinite _ => .null
  | .finite negative m e =>
    let (whole, rest) := Number.splitWhole m e
    if !rest && whole < Number.exactLimit then
      .number (if negative && whole != 0 then .negative whole else .natural whole)
    else .number (.float x)

mutual
def toJson : Value → Json
  | .null | .lambda _ => .null
  | .bool b => .bool b
  | .number x => numberTree x
  | .string s => .string s
  | .array items => .array (toJsonItems items)
  | .object entries => .object (toJsonEntries entries)
  | .date d => .string d.isoText
  | .regex pattern flags => .object [("pattern", .string pattern), ("flags", .string flags)]

def toJsonItems : List Value → List Json
  | [] => []
  | v :: vs => toJson v :: toJsonItems vs

def toJsonEntries : List (String × Value) → List (String × Json)
  | [] => []
  | (k, v) :: es => (k, toJson v) :: toJsonEntries es
end

end Value

namespace Json

def Numeral.text : Numeral → String
  | .natural n => Number.intText n
  | .negative n => Number.intText (-(n : Int))
  | .float x =>
    match Number.read x with
    | .nan | .infinite _ => "null"
    | .finite below m e =>
      if m = 0 then (if below then "-0.0" else "0.0")
      else
        String.ofList (Number.signed below
          ((Number.shortest Number.Layout.document.tie m e).write .document))

mutual
def written : Json → List Char
  | .null => "null".toList
  | .bool b => (if b then "true" else "false").toList
  | .number n => n.text.toList
  | .string s => quoted escapeWritten s
  | .array items => '[' :: writtenItems items ++ [']']
  | .object members => '\x7b' :: writtenMembers members ++ ['\x7d']

def writtenItems : List Json → List Char
  | [] => []
  | [j] => written j
  | j :: js => written j ++ ',' :: writtenItems js

def writtenMembers : List (String × Json) → List Char
  | [] => []
  | [(k, j)] => quoted escapeWritten k ++ ':' :: written j
  | (k, j) :: ms => quoted escapeWritten k ++ ':' :: written j ++ ',' :: writtenMembers ms
end

def write (j : Json) : String := String.ofList j.written

end Json
end DocExpr
