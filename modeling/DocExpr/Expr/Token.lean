import DocExpr.Number.Notation

/-! The tokens of an expression. -/
namespace DocExpr.Expr

inductive Symbol where
  | dollar
  | at
  | plus
  | minus
  | star
  | slash
  | percent
  | equal
  | strictEqual
  | notEqual
  | strictNotEqual
  | less
  | lessOrEqual
  | greater
  | greaterOrEqual
  | and
  | or
  | bang
  | dot
  | dotDot
  | ellipsis
  | question
  | colon
  | arrow
  | leftParen
  | rightParen
  | leftBracket
  | rightBracket
  | leftBrace
  | rightBrace
  | comma
  deriving DecidableEq, Repr

def Symbol.text : Symbol → String
  | .dollar => "$"
  | .at => "@"
  | .plus => "+"
  | .minus => "-"
  | .star => "*"
  | .slash => "/"
  | .percent => "%"
  | .equal => "=="
  | .strictEqual => "==="
  | .notEqual => "!="
  | .strictNotEqual => "!=="
  | .less => "<"
  | .lessOrEqual => "<="
  | .greater => ">"
  | .greaterOrEqual => ">="
  | .and => "&&"
  | .or => "||"
  | .bang => "!"
  | .dot => "."
  | .dotDot => ".."
  | .ellipsis => "..."
  | .question => "?"
  | .colon => ":"
  | .arrow => "=>"
  | .leftParen => "("
  | .rightParen => ")"
  | .leftBracket => "["
  | .rightBracket => "]"
  | .leftBrace => "\x7b"
  | .rightBrace => "\x7d"
  | .comma => ","

inductive Token where
  | string (s : String)
  | number (x : Float)
  | bool (b : Bool)
  | null
  | regex (pattern flags : String)
  | identifier (name : String)
  | symbol (s : Symbol)
  deriving BEq, Repr

/-- How messages speak of a token. -/
def Token.describe : Token → String
  | .string s => "string \"" ++ s ++ "\""
  | .number x => "number " ++ Number.toText x
  | .bool b => if b then "'true'" else "'false'"
  | .null => "'null'"
  | .regex pattern flags => "regex /" ++ pattern ++ "/" ++ flags
  | .identifier name => "identifier '" ++ name ++ "'"
  | .symbol s => "'" ++ s.text ++ "'"

def endOfExpression : String := "end of expression"

/-- A slash behind this token starts a regex and is no division. -/
def Token.allowsRegex : Token → Bool
  | .identifier name => name == "typeof"
  | .symbol .dollar | .symbol .at | .symbol .star | .symbol .rightParen
  | .symbol .rightBracket | .symbol .rightBrace => false
  | .symbol _ => true
  | _ => false

/-- A token and the number of characters in front of it. -/
structure Spanned where
  token : Token
  offset : Nat
  deriving BEq, Repr

end DocExpr.Expr
