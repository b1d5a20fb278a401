import DocExpr.Calendar.Date
import DocExpr.Number.Notation

/-! Everything that can go wrong, by cause. Looking up what is not there is no error; these are
mistakes in an expression or a document, and limits that were reached. The wording is in the
functions named `message`, in which long texts are clipped. -/
namespace DocExpr.Text

/-- The first `most` characters, with an ellipsis where something was left out. -/
def clip (most : Nat) (cs : List Char) : List Char :=
  if cs.length ≤ most then cs else cs.take most ++ ['…']

end DocExpr.Text

namespace DocExpr
open DocExpr.Number (intText)

/-- A place in the text of an expression. -/
structure Spot where
  /-- The number of characters in front of it. -/
  offset : Nat
  /-- The text from there on, clipped. -/
  fragment : String
  deriving DecidableEq, Repr

/-- The number of characters that a fragment shows. -/
def Spot.width : Nat := 24

/-- The place of a rest of a text that has `total` characters. -/
def Spot.ofRest (total : Nat) (rest : List Char) : Spot :=
  ⟨total - rest.length, String.ofList (Text.clip Spot.width rest)⟩

def Spot.at (source : List Char) (offset : Nat) : Spot :=
  ⟨offset, String.ofList (Text.clip Spot.width (source.drop offset))⟩

/-- What is wrong with the text of an expression. -/
inductive TextFault where
  | unclosedComment
  | unclosedString
  | badUnicodeEscape
  | unterminatedRegex
  | badRegexFlag (flag : Char)
  | emptyRegex
  | strayCharacter (c : Char)
  | missingOperand
  | unexpected (found : String)
  | expected (wanted found : String)
  | unclosedDelimiter (wanted : String)
  | missingColon
  | unclosedMatch
  | wildcardNotLast
  | noArms
  | badPattern
  | badPatternKey
  | unclosedObjectPattern
  | secondSpread
  | noFieldAfterDot
  | noFieldAfterDots
  | emptyBrackets
  | badFilter
  | unclosedFilter
  | unbalancedBracket
  | notAPath
  deriving DecidableEq, Repr

def TextFault.message : TextFault → String
  | .unclosedComment => "unclosed comment"
  | .unclosedString => "unclosed string literal"
  | .badUnicodeEscape => "invalid unicode escape"
  | .unterminatedRegex => "unterminated regex literal"
  | .badRegexFlag flag => "invalid regex flag '" ++ flag.toString ++ "'"
  | .emptyRegex => "empty regex literal"
  | .strayCharacter c => "unexpected character '" ++ c.toString ++ "'"
  | .missingOperand => "unexpected end of expression (missing operand?)"
  | .unexpected found => "unexpected " ++ found
  | .expected wanted found => "expected '" ++ wanted ++ "', found " ++ found
  | .unclosedDelimiter wanted => "unclosed delimiter, expected '" ++ wanted ++ "'"
  | .missingColon => "ternary is missing ':'"
  | .unclosedMatch => "unclosed match block"
  | .wildcardNotLast => "'_' must be the last match arm"
  | .noArms => "match needs at least one arm"
  | .badPattern => "invalid pattern"
  | .badPatternKey => "invalid pattern key"
  | .unclosedObjectPattern => "unclosed object pattern"
  | .secondSpread => "only one '...' allowed per array pattern"
  | .noFieldAfterDot => "expected field name after '.'"
  | .noFieldAfterDots => "expected field name after '..'"
  | .emptyBrackets => "empty brackets in path"
  | .badFilter => "filter must be written [?(...)]"
  | .unclosedFilter => "unclosed filter predicate"
  | .unbalancedBracket => "unbalanced '[' in path"
  | .notAPath => "not a path"

/-- How many arguments a function takes. -/
structure Arity where
  least : Nat
  /-- None if there may be any number of them. -/
  most : Option Nat
  deriving DecidableEq, Repr

def Arity.text (a : Arity) : String :=
  match a.most with
  | none => "at least " ++ toString a.least
  | some most =>
    if most = a.least then toString most else toString a.least ++ ".." ++ toString most

/-- A use of a value, a name or a function that makes no sense. -/
inductive TypeFault where
  | argumentCount (name : String) (arity : Arity) (given : Nat)
  | methodOnNull (name : String)
  | methodOn (name kind : String)
  | undefinedName (name : String)
  | currentOutsideFilter
  | notCallable (kind : String)
  | badRegex (pattern : String)
  | emptyReduce
  | badCount (count : String)
  /-- The text would have more bytes than there is room for. Nothing is answered to that: the
  evaluation breaks off. -/
  | noRoom (length : Nat)
  /-- More digits behind the point than can be asked for. This breaks the evaluation off too. -/
  | tooManyPlaces (places : Nat)
  | digitsOutOfRange (name : String) (least most : Nat)
  | radixOutOfRange
  | notANumber (name found : String)
  | amountOutOfRange (amount : Int) (unit : String)
  | date (fault : Calendar.Fault)
  | badJson
  deriving DecidableEq, Repr

def TypeFault.message : TypeFault → String
  | .argumentCount name arity given =>
    name ++ "() expects " ++ arity.text ++ " argument(s), got " ++ toString given
  | .methodOnNull name => "Cannot call '" ++ name ++ "' on null"
  | .methodOn name kind => name ++ "() cannot be called on a " ++ kind
  | .undefinedName name => "'" ++ name ++ "' is not defined"
  | .currentOutsideFilter => "'@' is only defined inside a filter"
  | .notCallable kind => "expected a function or expression text, got " ++ kind
  | .badRegex pattern => "Invalid regular expression /" ++ pattern ++ "/"
  | .emptyReduce => "Reduce of empty array with no initial value"
  | .badCount count => "Invalid count value: " ++ count
  | .noRoom length => "Broken off: no room for a string of " ++ toString length ++ " bytes"
  | .tooManyPlaces places =>
    "Broken off: " ++ toString places ++ " digits behind the point are too many"
  | .digitsOutOfRange name least most =>
    name ++ "() digits argument must be between " ++ toString least ++ " and " ++ toString most
  | .radixOutOfRange => "toString() radix must be between 2 and 36"
  | .notANumber name found => name ++ "() expects a number, got " ++ found
  | .amountOutOfRange amount unit => intText amount ++ " " ++ unit ++ " is out of range"
  | .date fault => fault.message
  | .badJson => "JSON.parse"

inductive LimitFault where
  | expressionNesting (limit : Nat)
  | recursion (limit : Nat)
  | steps (limit : Nat)
  | documentNesting (limit : Nat)
  | stringLength (length limit : Nat)
  deriving DecidableEq, Repr

def LimitFault.message : LimitFault → String
  | .expressionNesting limit => "expression nesting deeper than " ++ toString limit
  | .recursion limit => "recursion deeper than " ++ toString limit
  | .steps limit => "more than " ++ toString limit ++ " evaluation steps"
  | .documentNesting limit => "document nesting deeper than " ++ toString limit
  | .stringLength length limit =>
    "string of " ++ toString length ++ " bytes exceeds the limit of " ++ toString limit

/-- An error of reading or evaluating an expression. -/
inductive EvalError where
  | badText (fault : TextFault) (spot : Spot)
  | badPath (fault : TextFault) (spot : Spot)
  | unknownFunction (name : String)
  | badType (fault : TypeFault)
  | divisionByZero
  | noMatch (subject : String)
  | limit (fault : LimitFault)
  | badDocument
  deriving DecidableEq, Repr

def EvalError.message : EvalError → String
  | .badText fault spot => "Syntax error" ++ located fault spot
  | .badPath fault spot => "Path syntax error" ++ located fault spot
  | .unknownFunction name => "Unknown function: " ++ name
  | .badType fault => "Type error: " ++ fault.message
  | .divisionByZero => "Division by zero"
  | .noMatch subject => "No match arm matched value " ++ subject
  | .limit fault => "Resource limit exceeded: " ++ fault.message
  | .badDocument => "Invalid document"
where
  /-- A fault and its place. -/
  located (fault : TextFault) (spot : Spot) : String :=
    " at offset " ++ toString spot.offset ++ ": " ++ fault.message ++
      " (near '" ++ spot.fragment ++ "')"

def EvalError.spot? : EvalError → Option Spot
  | .badText _ spot | .badPath _ spot => some spot
  | _ => none

/-- The same error as an error about a path, its place moved back by `shift` characters. -/
def EvalError.asPathError (shift : Nat) : EvalError → EvalError
  | .badText fault spot | .badPath fault spot =>
    .badPath fault { spot with offset := spot.offset - shift }
  | e => e

end DocExpr
