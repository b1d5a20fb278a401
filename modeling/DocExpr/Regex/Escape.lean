import DocExpr.Expr.Lexer
import DocExpr.Regex.Reading
import DocExpr.Regex.Tree

/-! Escapes in a regex: characters by number, classes, properties of characters and assertions. -/
namespace DocExpr.Regex

inductive Escape where
  | char (c : Char)
  | set (s : CharSet)
  | assertion (a : Assertion)

/-- A character that means something outside brackets or inside them. -/
def isMeta (c : Char) : Bool := "\\.+*?()|[]\x7b\x7d^$#&-~".toList.contains c

/-- An escaped character that stands for itself: ASCII, and neither letter nor digit. -/
def isEscapable (c : Char) : Bool :=
  isMeta c || (c.toNat < 128 && !c.isAlphanum && c != '<' && c != '>')

/-- The regex that finds a text as it stands: what means something has a backslash in front. -/
def quoted (text : List Char) : List Char :=
  text.flatMap fun c => if isMeta c then ['\\', c] else [c]

/-- The set closed under case where the flags say so. -/
def foldSet (s : CharSet) : Read CharSet := do
  let flags := (← get).flags
  return if !flags.ignoreCase then s else if flags.unicode then s.folded else s.foldedAscii

/-- All other characters. Without Unicode these would be bytes, which are refused. -/
def complement (s : CharSet) : Read CharSet := do
  if (← get).flags.unicode then return s.compl else refuse

def complementIf (negated : Bool) (s : CharSet) : Read CharSet :=
  if negated then complement s else return s

def charOfHex (digits : List Char) : Read Char := do
  if digits.isEmpty then refuse
  else
    match Number.hexNumber? digits with
    | some n => if n < 0xd800 ∨ (0xdfff < n ∧ n < 0x110000) then return Char.ofNat n else refuse
    | none => refuse

/-- A character by its number: in braces, or with a fixed count of digits. Two digits number a
byte where Unicode is off, and a byte beyond ASCII is refused. -/
def hexEscape (count : Nat) : Read Char := do
  skipSpace
  if ← skip? "\x7b" then charOfHex (← takeUntil '\x7d')
  else
    let c ← charOfHex (← takeCount count)
    if count = 2 ∧ 128 ≤ c.toNat ∧ !(← get).flags.unicode then refuse else return c

/-- A class such as `\w`; a capital letter means all other characters. -/
def shorthand? (c : Char) : Option CharSet :=
  match c.toLower with
  | 'd' => some .digit
  | 's' => some .space
  | 'w' => some .word
  | _ => none

def shorthandSet (negated : Bool) (s : CharSet) : Read CharSet := do
  complementIf negated (if (← get).flags.unicode then s else s.ascii)

/-- A name in small letters, without a leading `is`, separators and characters beyond ASCII. What
is left of `isc` would be the name of a category, and is kept. -/
def plainName (cs : List Char) : String :=
  let plain (cs : List Char) : List Char :=
    (cs.filter fun c => c != ' ' && c != '_' && c != '-' && c.toNat < 128).map Char.toLower
  match cs with
  | i :: s :: rest =>
    if i.toLower = 'i' ∧ s.toLower = 's' then
      String.ofList (if plain rest = ['c'] then ['i', 's', 'c'] else plain rest)
    else String.ofList (plain cs)
  | _ => String.ofList (plain cs)

/-- A text divided at the first place where a separator stands. -/
def divide? (separator cs : List Char) : Option (List Char × List Char) :=
  match cs with
  | [] => none
  | c :: rest =>
    match Text.dropPrefix? separator cs with
    | some after => some ([], after)
    | none => (divide? separator rest).map fun (before, after) => (c :: before, after)

/-- The property between braces, and whether all other characters are meant: a name, or a name and
a value with `!=`, `:` or `=` between them. -/
def bracedProperty? (cs : List Char) : Option (Bool × Text.CharClass) :=
  let valued (differs : Bool) (parts : List Char × List Char) : Option (Bool × Text.CharClass) :=
    (Text.propertyValue? (plainName parts.1) (plainName parts.2)).map fun c => (differs, c)
  match divide? ['!', '='] cs with
  | some parts => valued true parts
  | none =>
    match (divide? [':'] cs).or (divide? ['='] cs) with
    | some parts => valued false parts
    | none => (Text.property? (plainName cs)).map fun c => (false, c)

/-- The property behind `\p` or `\P`, and whether all other characters are meant. -/
def readProperty? : Read (Option (Bool × Text.CharClass)) := do
  skipSpace
  if ← skip? "\x7b" then return bracedProperty? (← takeUntil '\x7d')
  else
    let c ← next
    skipSpace
    return bracedProperty? [c]

def propertySet (negated : Bool) : Read CharSet := do
  match ← readProperty? with
  | some (differs, c) =>
    if (← get).flags.unicode then
      complementIf (negated != differs) (← foldSet (.ofClass c))
    else refuse
  | none => refuse

def inBoundaryName (c : Char) : Bool := c.isAlpha || c == '-'

/-- The word boundary that braces behind `\b` may choose. Braces with anything but a name in them
belong to a loop, and are left there. -/
def boundaryEscape (ascii : Bool) : Read Assertion := do
  let start ← get
  if ← skip? "\x7b" then
    skipSpace
    let c ← next
    if inBoundaryName c then
      skipSpace
      match String.ofList (c :: (← takeUntil '\x7d')) with
      | "start" => return .wordStart ascii
      | "end" => return .wordEnd ascii
      | "start-half" => return .halfStart ascii
      | "end-half" => return .halfEnd ascii
      | _ => refuse
    else
      set start
      return .boundary ascii
  else return .boundary ascii

def escape : Read Escape := do
  let c ← next
  let ascii := !(← get).flags.unicode
  match shorthand? c with
  | some s => return .set (← shorthandSet c.isUpper s)
  | none =>
    if isEscapable c then return .char c
    else
      match c with
      | 'x' => return .char (← hexEscape 2)
      | 'u' => return .char (← hexEscape 4)
      | 'U' => return .char (← hexEscape 8)
      | 'p' => return .set (← propertySet false)
      | 'P' => return .set (← propertySet true)
      | 'a' => return .char '\x07'
      | 'f' => return .char '\x0c'
      | 't' => return .char '\t'
      | 'n' => return .char '\n'
      | 'r' => return .char '\r'
      | 'v' => return .char '\x0b'
      | 'A' => return .assertion .startText
      | 'z' => return .assertion .endText
      | 'b' => return .assertion (← boundaryEscape ascii)
      | 'B' => return .assertion (.noBoundary ascii)
      | '<' => return .assertion (.wordStart ascii)
      | '>' => return .assertion (.wordEnd ascii)
      | _ => refuse

end DocExpr.Regex
