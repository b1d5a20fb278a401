import DocExpr.Error
import DocExpr.Expr.Token
import DocExpr.Number.Literal
import DocExpr.Text.Blank
import DocExpr.Text.Letter

/-! Reads a text as tokens. Between tokens there may be white space and comments. Each reader takes
the rest of the text and returns a token with what is left; a fault carries the rest at which it is
found, from which its place follows. -/
namespace DocExpr.Expr

/-- A fault and the rest of the text where it is. -/
abbrev Fault := TextFault × List Char

/-- Passes over white space and comments. Inside a comment `comment` is the text from its opening
on. -/
def skipLayout (comment : Option (List Char)) (cs : List Char) : Except Fault (List Char) :=
  match comment, cs with
  | none, '/' :: '*' :: rest => skipLayout (some cs) rest
  | none, c :: rest => if Text.isBlank c then skipLayout none rest else .ok cs
  | none, [] => .ok []
  | some _, '*' :: '/' :: rest => skipLayout none rest
  | some start, _ :: rest => skipLayout (some start) rest
  | some start, [] => .error (.unclosedComment, start)

/-- The character that four hexadecimal digits number; there is none for half of a pair. -/
def unicodeEscape? (a b c d : Char) : Option Char := do
  let n ← Number.hex4? a b c d
  if 0xd800 ≤ n ∧ n ≤ 0xdfff then none else some (Char.ofNat n)

/-- The character behind a backslash. Letters without a meaning stand for themselves. -/
def escapedChar : Char → Char
  | 'b' => '\x08'
  | 'f' => '\x0c'
  | 'n' => '\n'
  | 'r' => '\r'
  | 't' => '\t'
  | c => c

/-- Reads a string on from behind its opening quote. `start` is the text from the quote on; `done`
holds the characters so far, last one first. -/
def stringRest (quote : Char) (start done : List Char) (cs : List Char) :
    Except Fault (String × List Char) :=
  match cs with
  | [] | ['\\'] => .error (.unclosedString, start)
  | '\\' :: 'u' :: a :: b :: c :: d :: rest =>
    match unicodeEscape? a b c d with
    | some c => stringRest quote start (c :: done) rest
    | none => .error (.badUnicodeEscape, cs)
  | '\\' :: 'u' :: _ => .error (.badUnicodeEscape, cs)
  | '\\' :: c :: rest => stringRest quote start (escapedChar c :: done) rest
  | c :: rest =>
    if c = quote then .ok (String.ofList done.reverse, rest)
    else stringRest quote start (c :: done) rest

def spanFraction (cs : List Char) : List Char × List Char :=
  match cs with
  | '.' :: rest =>
    match Number.spanDigits rest with
    | ([], _) => ([], cs)
    | (digits, rest) => ('.' :: digits, rest)
  | _ => ([], cs)

def spanExponent (cs : List Char) : List Char × List Char :=
  match Number.spanExponent? cs with
  | some (_, rest) => (cs.take (cs.length - rest.length), rest)
  | none => ([], cs)

/-- The numeral at the front of a text, and the rest. A point without digits behind it is no part
of it. -/
def spanNumeral (cs : List Char) : List Char × List Char :=
  let (whole, rest) := Number.spanDigits cs
  let (fraction, rest) := spanFraction rest
  let (exponent, rest) := spanExponent rest
  (whole ++ fraction ++ exponent, rest)

def startsName (c : Char) : Bool := Text.isAlphabetic c || c == '_'

def continuesName (c : Char) : Bool := Text.isAlphanumeric c || c == '_'

def Token.ofWord : String → Token
  | "true" => .bool true
  | "false" => .bool false
  | "null" => .null
  | name => .identifier name

/-- Reads a regex on from behind its opening slash, up to a slash outside brackets. -/
def regexBody (inClass : Bool) (done : List Char) (cs : List Char) :
    Option (List Char × List Char) :=
  match cs with
  | [] | ['\\'] => none
  | '\\' :: c :: rest => regexBody inClass (c :: '\\' :: done) rest
  | c :: rest =>
    if c = '\n' then none
    else if c = '/' ∧ !inClass then some (done.reverse, rest)
    else regexBody (if c = '[' then true else if c = ']' then false else inClass) (c :: done) rest

/-- Reads the flags of a regex: `g`, `i`, `m` and `s`, each at most once. -/
def regexFlags (done : List Char) (cs : List Char) : Except Fault (List Char × List Char) :=
  match cs with
  | [] => .ok (done.reverse, [])
  | c :: rest =>
    if !c.isAlpha then .ok (done.reverse, cs)
    else if ['g', 'i', 'm', 's'].contains c && !done.contains c then regexFlags (c :: done) rest
    else .error (.badRegexFlag c, cs)

/-- Reads a regex on from behind its opening slash; `start` is the text from the slash on. -/
def regexToken (start cs : List Char) : Except Fault (Token × List Char) :=
  match regexBody false [] cs with
  | none => .error (.unterminatedRegex, start)
  | some (pattern, rest) => do
    let (flags, rest) ← regexFlags [] rest
    if pattern.isEmpty then .error (.emptyRegex, start)
    else .ok (.regex (String.ofList pattern) (String.ofList flags), rest)

/-- The longest symbol at the front of a text, and the rest. -/
def symbol? (cs : List Char) : Option (Symbol × List Char) :=
  match cs with
  | '.' :: '.' :: '.' :: rest => some (.ellipsis, rest)
  | '.' :: '.' :: rest => some (.dotDot, rest)
  | '=' :: '=' :: '=' :: rest => some (.strictEqual, rest)
  | '=' :: '=' :: rest => some (.equal, rest)
  | '=' :: '>' :: rest => some (.arrow, rest)
  | '!' :: '=' :: '=' :: rest => some (.strictNotEqual, rest)
  | '!' :: '=' :: rest => some (.notEqual, rest)
  | '>' :: '=' :: rest => some (.greaterOrEqual, rest)
  | '<' :: '=' :: rest => some (.lessOrEqual, rest)
  | '&' :: '&' :: rest => some (.and, rest)
  | '|' :: '|' :: rest => some (.or, rest)
  | '(' :: rest => some (.leftParen, rest)
  | ')' :: rest => some (.rightParen, rest)
  | '[' :: rest => some (.leftBracket, rest)
  | ']' :: rest => some (.rightBracket, rest)
  | '\x7b' :: rest => some (.leftBrace, rest)
  | '\x7d' :: rest => some (.rightBrace, rest)
  | ',' :: rest => some (.comma, rest)
  | ':' :: rest => some (.colon, rest)
  | '?' :: rest => some (.question, rest)
  | '.' :: rest => some (.dot, rest)
  | '$' :: rest => some (.dollar, rest)
  | '@' :: rest => some (.at, rest)
  | '+' :: rest => some (.plus, rest)
  | '-' :: rest => some (.minus, rest)
  | '*' :: rest => some (.star, rest)
  | '/' :: rest => some (.slash, rest)
  | '%' :: rest => some (.percent, rest)
  | '<' :: rest => some (.less, rest)
  | '>' :: rest => some (.greater, rest)
  | '!' :: rest => some (.bang, rest)
  | _ => none

/-- Reads the token that starts with `c`; `rest` follows it. -/
def readToken (regexAllowed : Bool) (c : Char) (rest : List Char) :
    Except Fault (Token × List Char) :=
  let cs := c :: rest
  if c = '"' ∨ c = '\'' then
    (stringRest c cs [] rest).map fun (s, rest) => (.string s, rest)
  else if Number.isDigit c then
    let (numeral, rest) := spanNumeral cs
    .ok (.number ((Number.ofNumeral? numeral).getD Number.nan), rest)
  else if c = '/' ∧ regexAllowed then regexToken cs rest
  else
    match symbol? cs with
    | some (s, rest) => .ok (.symbol s, rest)
    | none =>
      if startsName c then
        .ok (.ofWord (String.ofList (c :: rest.takeWhile continuesName)),
          rest.dropWhile continuesName)
      else .error (.strayCharacter c, cs)

/-- The tokens of the rest of a text with `total` characters. Every token takes at least one
character, so `fuel` need not exceed the length of the rest by more than one. -/
def tokensLoop (total : Nat) : Nat → Bool → List Char → Except Fault (List Spanned)
  | 0, _, _ => .ok []
  | fuel + 1, regexAllowed, cs => do
    match ← skipLayout none cs with
    | [] => return []
    | c :: rest =>
      let (token, after) ← readToken regexAllowed c rest
      let tokens ← tokensLoop total fuel token.allowsRegex after
      return ⟨token, total - (c :: rest).length⟩ :: tokens

def tokensOf (source : List Char) : Except EvalError (List Spanned) :=
  match tokensLoop source.length (source.length + 1) true source with
  | .ok tokens => .ok tokens
  | .error (fault, rest) => .error (.badText fault (.ofRest source.length rest))

end DocExpr.Expr
