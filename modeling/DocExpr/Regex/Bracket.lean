import DocExpr.Regex.Escape

/-! Sets of characters in brackets: characters, ranges, escapes, classes by name, further sets in
brackets, and the operators that combine what stands on either side of them. -/
namespace DocExpr.Regex

/-- A character in brackets, which is in ASCII where Unicode is off. -/
def bracketChar (c : Char) : Read Char := do
  if c.toNat < 128 || (← get).flags.unicode then return c else refuse

def bracketItem : Read Escape := do
  let item ← if ← skip? "\\" then escape else pure (.char (← next))
  match item with
  | .char c => return .char (← bracketChar c)
  | _ => return item

/-- A class by name, from behind its bracket: `:alpha:]` or `:^alpha:]`. Nothing is passed over if
there is none. -/
def namedClass? : Read (Option CharSet) := do
  let start ← get
  if ← skip? ":" then
    let negated ← skip? "^"
    let rest := (← get).rest
    let name := rest.takeWhile fun c => c != ':'
    match rest.drop name.length, CharSet.named? (String.ofList name) with
    | ':' :: ']' :: rest, some s =>
      modify ({ · with rest })
      return some (← complementIf negated (← foldSet s))
    | _, _ => set start; return none
  else return none

/-- What stands behind white space and at most one `#`, which is what a hyphen looks at to tell
whether it makes a range. -/
def behindBlanks (verbose : Bool) (cs : List Char) : Option Char :=
  if verbose then
    match cs.dropWhile Text.isBlank with
    | '#' :: rest => (rest.dropWhile Text.isBlank).head?
    | rest => rest.head?
  else cs.head?

/-- A character, a range or an escape inside brackets. A hyphen makes a range unless a bracket or
another hyphen follows it. -/
def bracketRange : Read CharSet := do
  let first ← bracketItem
  skipSpace
  let s ← get
  let isRange :=
    match s.rest with
    | '-' :: rest =>
      match behindBlanks s.flags.verbose rest with
      | some ']' | some '-' => false
      | _ => true
    | _ => false
  if isRange then
    let _ ← next
    skipSpace
    match first, ← bracketItem with
    | .char low, .char high => if low ≤ high then return .range low high else refuse
    | _, _ => refuse
  else
    match first with
    | .char c => return .single c
    | .set s => return s
    | .assertion _ => refuse

/-- How a set in brackets is combined with what stands in front of it. -/
inductive SetOp where
  | inter
  | diff
  | symmDiff

def SetOp.apply : SetOp → Bool → Bool → Bool
  | .inter, a, b => a && b
  | .diff, a, b => a && !b
  | .symmDiff, a, b => a != b

/-- Joins the items since the last operator, last one first, to what stands in front of it. -/
def combine (front : Option (CharSet × SetOp)) (items : List CharSet) : Read CharSet := do
  let items := CharSet.ofItems items
  match front with
  | none => return items
  | some (left, op) => return .combine op.apply (← foldSet left) (← foldSet items)

/-- The hyphens and the closing bracket that stand for themselves at the start. -/
def bracketStart (items : List CharSet) : Nat → Read (List CharSet)
  | 0 => return items
  | fuel + 1 => do
    skipSpace
    if ← skip? "-" then bracketStart (.single '-' :: items) fuel
    else if items.isEmpty then
      if ← skip? "]" then return [.single ']'] else return []
    else return items

/-- The start of a set in brackets, from behind the opening one: whether all other characters are
meant, and the characters that stand for themselves there. -/
def bracketOpen : Read (Bool × List CharSet) := do
  skipSpace
  let negated ← skip? "^"
  return (negated, ← bracketStart [] (← get).rest.length)

/-- A set in brackets, read on from the middle: `front` is what stands in front of the last
operator, `items` what follows it, last one first. Returns the set behind the closing bracket. -/
def bracketRest : Nat → Bool → Option (CharSet × SetOp) → List CharSet → Read CharSet
  | 0, _, _, _ => refuse
  | fuel + 1, negated, front, items => do
    skipSpace
    let goOn (op : SetOp) : Read CharSet := do
      bracketRest fuel negated (some (← combine front items, op)) []
    if ← skip? "]" then
      let s ← foldSet (← combine front items)
      return (← complementIf negated s).bracketed
    else if ← skip? "&&" then goOn .inter
    else if ← skip? "--" then goOn .diff
    else if ← skip? "~~" then goOn .symmDiff
    else if ← skip? "[" then
      match ← namedClass? with
      | some s => bracketRest fuel negated front (s :: items)
      | none =>
        let (innerNegated, start) ← bracketOpen
        let s ← bracketRest fuel innerNegated none start
        bracketRest fuel negated front (s :: items)
    else bracketRest fuel negated front ((← bracketRange) :: items)

def bracketSet : Read CharSet := do
  let (negated, start) ← bracketOpen
  bracketRest ((← get).rest.length + 1) negated none start

end DocExpr.Regex
