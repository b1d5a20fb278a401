import DocExpr.Library.Format
import DocExpr.Library.Host
import DocExpr.Number.Index
import DocExpr.Regex.Template
import DocExpr.Text.Word
import DocExpr.Value.Order

/-! The methods of strings. Positions count characters. -/
namespace DocExpr.Library

inductive TextMethod where
  | camelCase
  | capitalize
  | charAt
  | charCodeAt
  | concat
  | contains
  | endsWith
  | indexOf
  | kebabCase
  | lastIndexOf
  | length
  | localeCompare
  | lowerFirst
  | matchRegex
  | repeated
  | replace
  | replaceAll
  | search
  | slice
  | snakeCase
  | split
  | sprintf
  | startsWith
  | substr
  | substring
  | toLowerCase
  | toUpperCase
  | trim
  | trimLeft
  | trimRight
  | upperFirst
  deriving DecidableEq, Repr

def TextMethod.catalog : Catalog TextMethod := [
  ("camelCase", .camelCase, .exact 0),
  ("capitalize", .capitalize, .exact 0),
  ("charAt", .charAt, .range 0 1),
  ("charCodeAt", .charCodeAt, .range 0 1),
  ("concat", .concat, .atLeast 0),
  ("contains", .contains, .range 1 2),
  ("endsWith", .endsWith, .range 1 2),
  ("indexOf", .indexOf, .range 1 2),
  ("kebabCase", .kebabCase, .exact 0),
  ("lastIndexOf", .lastIndexOf, .range 1 2),
  ("length", .length, .exact 0),
  ("localeCompare", .localeCompare, .exact 1),
  ("lowerFirst", .lowerFirst, .exact 0),
  ("match", .matchRegex, .exact 1),
  ("repeat", .repeated, .exact 1),
  ("replace", .replace, .exact 2),
  ("replaceAll", .replaceAll, .exact 2),
  ("search", .search, .exact 1),
  ("slice", .slice, .range 0 2),
  ("snakeCase", .snakeCase, .exact 0),
  ("split", .split, .range 0 2),
  ("sprintf", .sprintf, .atLeast 0),
  ("startsWith", .startsWith, .range 1 2),
  ("substr", .substr, .range 0 2),
  ("substring", .substring, .range 0 2),
  ("toLowerCase", .toLowerCase, .exact 0),
  ("toUpperCase", .toUpperCase, .exact 0),
  ("trim", .trim, .exact 0),
  ("trimLeft", .trimLeft, .exact 0),
  ("trimRight", .trimRight, .exact 0),
  ("upperFirst", .upperFirst, .exact 0)]

def compileRegex (pattern flags : String) : Except EvalError Regex.Program :=
  match Regex.compile? pattern flags with
  | some program => .ok program
  | none => typeError (.badRegex pattern)

/-- The program of a regex argument, and whether all matches are meant. Text is compiled as a
pattern without flags. -/
def regexArg (v : Value) : Except EvalError (Regex.Program × Bool) :=
  match v with
  | .regex pattern flags =>
    (compileRegex pattern flags).map fun program => (program, flags.toList.contains 'g')
  | v => (compileRegex v.display "").map fun program => (program, false)

def groupValue : Option (List Char) → Value
  | some cs => .ofChars cs
  | none => .null

/-- All matches of a regex, or the groups of its first one; null if there is none. -/
def matchText (text : Array Char) (v : Value) : Except EvalError Value := do
  let (program, all) ← regexArg v
  if all then
    match program.matches text with
    | [] => return .null
    | ms => return .array (ms.map fun m => .ofChars (m.text text))
  else
    match program.find? text 0 with
    | some m => return .array ((m.texts text).map groupValue)
    | none => return .null

def searchText (text : Array Char) (v : Value) : Except EvalError Value := do
  let (program, _) ← regexArg v
  match program.find? text 0 with
  | some m => return .ofNat m.start
  | none => return .number (-1.0)

/-- The matches to replace: all of them, or the first. -/
def chosenMatches (program : Regex.Program) (text : Array Char) (all : Bool) :
    List Regex.Match :=
  if all then program.matches text else (program.find? text 0).toList

/-- The text with each match replaced by what a function returns for its groups, its position and
the whole text. -/
def replaceByCalls (host : Host) (root : Value) (s : String) (text : Array Char)
    (f : Lambda Value) (start : Nat) : List Regex.Match → EvalM (List Char)
  | [] => return Regex.slice text start text.size
  | m :: ms => do
    let args := (m.texts text).map groupValue ++ [.ofNat m.start, .string s]
    let v ← host.call f args root
    let rest ← replaceByCalls host root s text f m.stop ms
    return Regex.slice text start m.start ++ v.display.toList ++ rest

/-- What a function replaces, and whether all of its matches are meant: a regex, or a text, for
which one is written that finds the text as it stands. -/
def replacedRegex (pattern : Value) : Except EvalError (Regex.Program × Bool) :=
  match pattern with
  | .regex .. => regexArg pattern
  | v => regexArg (.string (String.ofList (Regex.quoted v.display.toList)))

/-- Replaces by a function: the matches of a regex, or the occurrences of a text. -/
def replaceWithFunction (host : Host) (root : Value) (s : String) (all : Bool) (pattern : Value)
    (f : Lambda Value) : EvalM Value := do
  let (program, everywhere) ← lift (replacedRegex pattern)
  let text := s.toList.toArray
  let ms := chosenMatches program text (all || everywhere)
  return .ofChars (← replaceByCalls host root s text f 0 ms)

/-- Replaces by text: the matches of a regex, with references in the text, or the occurrences of a
text. -/
def replaceWithText (cs : List Char) (all : Bool) (pattern : Value) (replacement : List Char) :
    Except EvalError Value :=
  match pattern with
  | .regex p flags => do
    let program ← compileRegex p flags
    let text := cs.toArray
    let ms := chosenMatches program text (all || flags.toList.contains 'g')
    return .ofChars
      (Regex.replaceFrom text (Regex.replacementText program text replacement) 0 ms)
  | v =>
    let needle := v.display.toList
    return .ofChars
      (if all then Text.replaceAll needle replacement cs
        else Text.replaceFirst needle replacement cs)

def replaceText (host : Host) (root : Value) (s : String) (all : Bool) (args : List Value) :
    EvalM Value :=
  match arg args 1 with
  | .lambda f => replaceWithFunction host root s all (arg args 0) f
  | v => lift (replaceWithText s.toList all (arg args 0) v.display.toList)

/-- The pieces of a text between separators: a regex, or a text, of which the empty one separates
all characters. Without a separator the text is one piece. -/
def splitPieces (cs : List Char) (separator : Value) : Except EvalError (List (List Char)) :=
  match separator with
  | .null => return [cs]
  | .regex pattern flags => do
    let program ← compileRegex pattern flags
    let text := cs.toArray
    return Regex.piecesFrom text 0 (program.matches text)
  | v =>
    match v.display.toList with
    | [] => return cs.map fun c => [c]
    | separator => return Text.splitOn separator cs

def splitText (cs : List Char) (args : List Value) : Except EvalError Value := do
  let pieces ← splitPieces cs (arg args 0)
  let pieces :=
    match args[1]? with
    | some v => pieces.take (Number.toNat64 v.toNumber)
    | none => pieces
  return .array (pieces.map .ofChars)

/-- Appends texts one after the other, as long as the result is not too long. -/
def appendAll (limit : Nat) (s : String) : List Value → Except EvalError String
  | [] => .ok s
  | v :: vs => do
    let piece := v.display
    checkLength (s.utf8ByteSize + piece.utf8ByteSize) limit
    appendAll limit (s ++ piece) vs

def appendTimes (piece : String) : Nat → String → String
  | 0, s => s
  | n + 1, s => appendTimes piece n (s ++ piece)

/-- The most bytes that there is room for in one text. -/
def roomiest : Nat := Nat.pow 2 63 - 1

/-- A text a number of times over. The limit is compared with a length that is held at the largest
64-bit number, so the largest limit lets every text through, for which there may be no room. -/
def repeatText (limit : Nat) (s : String) (count : Float) : Except EvalError Value :=
  let n := Number.trunc count
  if n < 0.0 ∨ Number.isInfinite n then typeError (.badCount (Number.toText n))
  else do
    let times := Number.toNat64 n
    let length := s.utf8ByteSize * times
    checkLength (min length (Nat.pow 2 64 - 1)) limit
    if roomiest < length then typeError (.noRoom length)
    else return .string (if s.isEmpty then s else appendTimes s times "")

def between (cs : List Char) (start stop : Nat) : List Char := (cs.drop start).take (stop - start)

def sliceText (cs : List Char) (args : List Value) : List Char :=
  let n := cs.length
  between cs (Number.relativeIndex (numberArg args 0 0.0) n)
    (positionArg args 1 (Number.relativeIndex · n) n)

/-- The part between two positions, whichever comes first. -/
def substringText (cs : List Char) (args : List Value) : List Char :=
  let n := cs.length
  let a := Number.clampIndex (numberArg args 0 0.0) n
  let b := positionArg args 1 (Number.clampIndex · n) n
  between cs (min a b) (max a b)

def substrText (cs : List Char) (args : List Value) : List Char :=
  let n := cs.length
  let start := Number.relativeIndex (numberArg args 0 0.0) n
  (cs.drop start).take (positionArg args 1 (Number.clampIndex · n) n)

def findText (cs : List Char) (args : List Value) : Option Nat :=
  Text.indexOf? (textArg args 0).toList cs (Number.clampIndex (numberArg args 1 0.0) cs.length)

/-- The last occurrence of an argument at or before a position; what is no number means the end. -/
def findTextLast (cs : List Char) (args : List Value) : Option Nat :=
  let x := numberArg args 1 Number.infinity
  let bound := if x.isNaN then cs.length else Number.clampIndex x cs.length
  Text.lastIndexOf? (textArg args 0).toList cs bound

def startsAt (cs : List Char) (args : List Value) : Bool :=
  Text.startsWith (textArg args 0).toList
    (cs.drop (Number.clampIndex (numberArg args 1 0.0) cs.length))

def endsAt (cs : List Char) (args : List Value) : Bool :=
  let stop := positionArg args 1 (Number.clampIndex · cs.length) cs.length
  (Text.dropSuffix? (textArg args 0).toList (cs.take stop)).isSome

def charAtText (cs : List Char) (args : List Value) : List Char :=
  match Number.itemIndex? (numberArg args 0 0.0) cs.length with
  | some i => between cs i (i + 1)
  | none => []

/-- The code unit at a position, which counts code units here. -/
def unitAt (s : String) (args : List Value) : Float :=
  let us := Text.units s
  match (Number.itemIndex? (numberArg args 0 0.0) us.length).bind (us[·]?) with
  | some u => Float.ofNat u
  | none => Number.nan

/-- Minus one, zero or one. -/
def orderNumber : Ordering → Float
  | .lt => -1.0
  | .eq => 0.0
  | .gt => 1.0

def TextMethod.run (m : TextMethod) (host : Host) (root : Value) (s : String)
    (args : List Value) : EvalM Value :=
  let cs := s.toList
  match m with
  | .camelCase => return .ofChars (Text.camelCase cs)
  | .capitalize => return .ofChars (Text.upperFirst (Text.lower cs))
  | .charAt => return .ofChars (charAtText cs args)
  | .charCodeAt => return .number (unitAt s args)
  | .concat => return .string (← lift (appendAll host.maxStringLength s args))
  | .contains => return .bool (findText cs args).isSome
  | .endsWith => return .bool (endsAt cs args)
  | .indexOf => return positionValue (findText cs args)
  | .kebabCase => return .ofChars (Text.separated '-' cs)
  | .lastIndexOf => return positionValue (findTextLast cs args)
  | .length => return .ofNat s.length
  | .localeCompare => return .number (orderNumber (Text.compareChars s (textArg args 0)))
  | .lowerFirst => return .ofChars (Text.lowerFirst cs)
  | .matchRegex => lift (matchText cs.toArray (arg args 0))
  | .repeated => lift (repeatText host.maxStringLength s (numberArg args 0 0.0))
  | .replace => replaceText host root s false args
  | .replaceAll => replaceText host root s true args
  | .search => lift (searchText cs.toArray (arg args 0))
  | .slice => return .ofChars (sliceText cs args)
  | .snakeCase => return .ofChars (Text.separated '_' cs)
  | .split => lift (splitText cs args)
  | .sprintf => return .string (← lift (format s args))
  | .startsWith => return .bool (startsAt cs args)
  | .substr => return .ofChars (substrText cs args)
  | .substring => return .ofChars (substringText cs args)
  | .toLowerCase => return .ofChars (Text.lower cs)
  | .toUpperCase => return .ofChars (Text.upper cs)
  | .trim => return .ofChars (Text.trim cs)
  | .trimLeft => return .ofChars (Text.trimLeft cs)
  | .trimRight => return .ofChars (Text.trimRight cs)
  | .upperFirst => return .ofChars (Text.upperFirst cs)

end DocExpr.Library
