import DocExpr.Number.Literal
import DocExpr.Path.Step
import DocExpr.Text.Blank
import DocExpr.Text.Occurrence

/-! Paths as plain texts such as `a.b[0]['c.d']`, which lead from key to key without any search. -/
namespace DocExpr.Path
open DocExpr.Expr (Segment)

/-- A field with a name that is not empty, in front of other steps. -/
def consField (reversed : List Char) (segments : List Segment) : List Segment :=
  if reversed.isEmpty then segments else .field (String.ofList reversed.reverse) :: segments

/-- A text without the quotes around it, if it has them on both sides. -/
def unquoted? (quote : Char) (cs : List Char) : Option (List Char) :=
  (Text.dropPrefix? [quote] cs).bind (Text.dropSuffix? [quote])

/-- The step that brackets with this text mean: a key in quotes, an index, or a key. -/
def bracketed (inner : List Char) : Segment :=
  let cs := Text.trim inner
  match (unquoted? '\'' cs).or (unquoted? '"' cs) with
  | some key => .field (String.ofList key)
  | none =>
    match Number.wholeNumber? cs with
    | some i =>
      if Number.minInt64 ≤ i ∧ i ≤ Number.maxInt64 then .index i else .field (String.ofList cs)
    | none => .field (String.ofList cs)

/-- The steps of the rest of a path. `word` holds the characters of the current key, last one
first; inside brackets `inner` holds those behind the opening one. A bracket that is never closed
reaches to the end. -/
def dottedFrom (word : List Char) (inner : Option (List Char)) : List Char → List Segment
  | [] =>
    match inner with
    | some inner => [bracketed inner.reverse]
    | none => consField word []
  | c :: cs =>
    match inner with
    | some inner =>
      if c = ']' then bracketed inner.reverse :: dottedFrom [] none cs
      else dottedFrom [] (some (c :: inner)) cs
    | none =>
      if c = '.' then consField word (dottedFrom [] none cs)
      else if c = '[' then consField word (dottedFrom [] (some []) cs)
      else dottedFrom (c :: word) none cs

def parseDotted (path : String) : List Segment := dottedFrom [] none path.toList

/-- A natural number below `2 ^ 64` in decimal, which may have a plus sign. -/
def itemNumber? (s : String) : Option Nat :=
  match Number.wholeNumber? s.toList with
  | some i =>
    if s.toList.head? = some '-' ∨ i < 0 ∨ Int.pow 2 64 ≤ i then none else some i.toNat
  | none => none

/-- One step that leads to exactly one value: a key of an object, or an index of an array however
it is written. -/
def exactStep? (v : Value) : Segment → Option Value
  | .field name =>
    match v with
    | .object entries => Entries.find? entries name
    | .array items => (itemNumber? name).bind (items[·]?)
    | _ => none
  | .index i => element? i v
  | _ => none

/-- The value at the end of the steps, if all of them lead somewhere. -/
def lookupExact? (v : Value) : List Segment → Option Value
  | [] => some v
  | s :: ss =>
    match exactStep? v s with
    | some w => lookupExact? w ss
    | none => none

end DocExpr.Path
