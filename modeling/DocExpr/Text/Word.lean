import DocExpr.Text.Case

/-! The words of a text, and the ways to write them together. A word is a stretch of letters and
digits; it also ends before a capital letter that follows a small one, between letters and ASCII
digits, and before the last capital of several when a small letter follows. -/
namespace DocExpr.Text

def isAsciiDigit (c : Char) : Bool := c.isDigit

/-- A new word starts at `c`, after `previous` and before `next`. -/
def startsWord (previous c : Char) (next : Option Char) : Bool :=
  (isLowercase previous && isUppercase c) ||
    (isAlphabetic previous && isAsciiDigit c) ||
    (isAsciiDigit previous && isAlphabetic c) ||
    (isUppercase previous && isUppercase c && next.any isLowercase)

/-- A finished word in front of others, unless it is empty. -/
def consWord (reversed : List Char) (words : List (List Char)) : List (List Char) :=
  if reversed.isEmpty then words else reversed.reverse :: words

/-- The words of the rest of a text, where `word` holds the characters of the current word, last
one first. -/
def wordsFrom (word : List Char) : List Char → List (List Char)
  | [] => consWord word []
  | c :: cs =>
    if !isAlphanumeric c then consWord word (wordsFrom [] cs)
    else
      match word with
      | [] => wordsFrom [c] cs
      | previous :: _ =>
        if startsWord previous c cs.head? then consWord word (wordsFrom [c] cs)
        else wordsFrom (c :: word) cs

def splitWords (cs : List Char) : List (List Char) := wordsFrom [] cs

/-- The words in lower case with a separator between them. -/
def separated (separator : Char) (cs : List Char) : List Char :=
  [separator].intercalate ((splitWords cs).map lower)

/-- The words in lower case without a separator, each but the first with a capital. -/
def camelCase (cs : List Char) : List Char :=
  match (splitWords cs).map lower with
  | [] => []
  | word :: words => word ++ words.flatMap upperFirst

end DocExpr.Text
