import DocExpr.Expr.Lexer
import DocExpr.Expr.Tree

/-! Reads the tokens of an expression as a tree, by precedence climbing. Expressions and patterns
nest at most as deep as a limit allows: `expression` and `pattern` recur on the depth that is left,
and everything in between gets the next level as a `Level`. The loops of one level consume at least
one token a round, so the number of tokens bounds them. -/
namespace DocExpr.Expr

/-- Reads something from the front of the tokens. -/
abbrev Parse (α : Type) := List Spanned → Except EvalError (α × List Spanned)

/-- Names whose members are reached with a point. -/
def namespaces : List String := ["Math", "Date", "LocalDate", "LocalDateTime", "LocalTime", "JSON"]

def conditionalPower : Nat := 5

def unaryPower : Nat := 70

def BinaryOp.power (op : BinaryOp) : Nat := 10 * op.precedence

def Symbol.binaryOp? : Symbol → Option BinaryOp
  | .or => some .or
  | .and => some .and
  | .equal => some .equal
  | .notEqual => some .notEqual
  | .strictEqual => some .strictEqual
  | .strictNotEqual => some .strictNotEqual
  | .less => some .less
  | .lessOrEqual => some .lessOrEqual
  | .greater => some .greater
  | .greaterOrEqual => some .greaterOrEqual
  | .plus => some .add
  | .minus => some .subtract
  | .star => some .multiply
  | .slash => some .divide
  | .percent => some .modulo
  | _ => none

/-- Where the next token starts, or the text ends. -/
def offsetOf (source : List Char) (ts : List Spanned) : Nat :=
  match ts with
  | t :: _ => t.offset
  | [] => source.length

def faultAt (source : List Char) (fault : TextFault) (offset : Nat) : EvalError :=
  .badText fault (.at source offset)

def pathFaultAt (source : List Char) (fault : TextFault) (offset : Nat) : EvalError :=
  .badPath fault (.at source offset)

def unexpected (source : List Char) (ts : List Spanned) : EvalError :=
  match ts with
  | t :: _ => faultAt source (.unexpected t.token.describe) t.offset
  | [] => faultAt source .missingOperand source.length

def startsWith (s : Symbol) (ts : List Spanned) : Bool :=
  match ts with
  | ⟨.symbol s', _⟩ :: _ => s = s'
  | _ => false

/-- Passes over a symbol. Where it is missing at the end of the text, the fault is at the place
that the symbol would close, if there is one. -/
def expect (source : List Char) (s : Symbol) (openedAt : Option Nat) : Parse Unit := fun ts =>
  match ts with
  | [] =>
    match openedAt with
    | some at_ => .error (faultAt source (.unclosedDelimiter s.text) at_)
    | none => .error (faultAt source (.expected s.text endOfExpression) source.length)
  | t :: rest =>
    match t.token with
    | .symbol s' =>
      if s = s' then .ok ((), rest)
      else .error (faultAt source (.expected s.text t.token.describe) t.offset)
    | token => .error (faultAt source (.expected s.text token.describe) t.offset)

/-- The parsers of the next level of nesting. -/
structure Level where
  /-- An expression whose operators bind at least as tightly as a power. -/
  expression : Nat → Parse Node
  pattern : Parse Pattern

/-- Reads items with commas between them until `close` comes next, which is left there. A comma may
stand behind the last item; without a comma the list ends. `item` gets the items so far, last one
first. -/
def itemsUntil {α : Type} (close : Symbol) (item : List α → Parse α) (done : List α) :
    Nat → Parse (List α)
  | 0, ts => .ok (done.reverse, ts)
  | fuel + 1, ts =>
    if startsWith close ts then .ok (done.reverse, ts)
    else do
      let (x, ts) ← item done ts
      match ts with
      | ⟨.symbol .comma, _⟩ :: rest => itemsUntil close item (x :: done) fuel rest
      | _ => return ((x :: done).reverse, ts)

/-- Reads items with commas between them up to and including `close`; `openedAt` is where the list
starts. -/
def enclosed {α : Type} (source : List Char) (close : Symbol) (item : List α → Parse α)
    (openedAt : Nat) : Parse (List α) := fun ts => do
  let (xs, ts) ← itemsUntil close item [] (ts.length + 1) ts
  let ((), ts) ← expect source close (some openedAt) ts
  return (xs, ts)

def arguments (source : List Char) (level : Level) : Parse (List Node) := fun ts => do
  let start := offsetOf source ts
  let ((), ts) ← expect source .leftParen none ts
  let (args, ts) ← itemsUntil .rightParen (fun _ => level.expression 0) [] (ts.length + 1) ts
  match ts with
  | ⟨.symbol .rightParen, _⟩ :: rest => return (args, rest)
  | [] => .error (faultAt source (.unclosedDelimiter Symbol.rightParen.text) start)
  | _ => .error (unexpected source ts)

/-- The key of an entry of an object pattern; the pattern starts at `start`. -/
def patternKey (source : List Char) (start : Nat) : Parse String := fun ts =>
  match ts with
  | ⟨.string key, _⟩ :: rest | ⟨.identifier key, _⟩ :: rest => .ok (key, rest)
  | [] => .error (faultAt source .unclosedObjectPattern start)
  | t :: _ => .error (faultAt source .badPatternKey t.offset)

/-- What an object pattern asks of a key, by the mark behind it, and what follows. -/
def spanPresence (ts : List Spanned) : Presence × List Spanned :=
  match ts with
  | ⟨.symbol .question, _⟩ :: rest => (.optional, rest)
  | ⟨.symbol .bang, _⟩ :: rest => (.required, rest)
  | _ => (.plain, ts)

def objectPatternEntry (source : List Char) (pattern : Parse Pattern) (start : Nat) :
    Parse (String × Presence × Pattern) := fun ts => do
  let (key, ts) ← patternKey source start ts
  let (presence, ts) := spanPresence ts
  let ((), ts) ← expect source .colon none ts
  let (value, ts) ← pattern ts
  return ((key, presence, value), ts)

/-- One item of an array pattern; nothing stands for a spread, of which there is at most one. -/
def arrayPatternItem (source : List Char) (pattern : Parse Pattern)
    (done : List (Option Pattern)) : Parse (Option Pattern) := fun ts =>
  match ts with
  | ⟨.symbol .ellipsis, at_⟩ :: rest =>
    if done.any (·.isNone) then .error (faultAt source .secondSpread at_) else .ok (none, rest)
  | _ => do
    let (p, ts) ← pattern ts
    return (some p, ts)

def Pattern.ofItems (items : List (Option Pattern)) : Pattern :=
  let front := items.takeWhile (·.isSome)
  .array (front.filterMap id) (items.any (·.isNone)) ((items.drop front.length).filterMap id)

def patternWith (source : List Char) (inner : Parse Pattern) : Parse Pattern := fun ts =>
  let bad : Except EvalError (Pattern × List Spanned) :=
    .error (faultAt source .badPattern (offsetOf source ts))
  match ts with
  | ⟨.identifier name, _⟩ :: rest => if name = "_" then .ok (.wildcard, rest) else bad
  | ⟨.string s, _⟩ :: rest => .ok (.string s, rest)
  | ⟨.number x, _⟩ :: rest => .ok (.number x, rest)
  | ⟨.symbol .minus, _⟩ :: ⟨.number x, _⟩ :: rest => .ok (.number (-x), rest)
  | ⟨.bool b, _⟩ :: rest => .ok (.bool b, rest)
  | ⟨.null, _⟩ :: rest => .ok (.null, rest)
  | ⟨.regex pattern flags, _⟩ :: rest => .ok (.regex pattern flags, rest)
  | ⟨.symbol .leftBrace, at_⟩ :: rest => do
    let (entries, ts) ←
      enclosed source .rightBrace (fun _ => objectPatternEntry source inner at_) at_ rest
    return (.object entries, ts)
  | ⟨.symbol .leftBracket, at_⟩ :: rest => do
    let (items, ts) ← enclosed source .rightBracket (arrayPatternItem source inner) at_ rest
    return (.ofItems items, ts)
  | _ => bad

def tooDeep (maxDepth : Nat) : EvalError := .limit (.expressionNesting maxDepth)

def pattern (source : List Char) (maxDepth : Nat) : Nat → Parse Pattern
  | 0, _ => .error (tooDeep maxDepth)
  | depth + 1, ts => patternWith source (pattern source maxDepth depth) ts

def keyName? : Token → Option String
  | .string key | .identifier key => some key
  | .number x => some (Number.toText x)
  | .bool b => some (if b then "true" else "false")
  | .null => some "null"
  | _ => none

def objectKey (source : List Char) (start : Nat) : Parse String := fun ts =>
  match ts with
  | [] => .error (faultAt source (.unclosedDelimiter Symbol.rightBrace.text) start)
  | t :: rest =>
    match keyName? t.token with
    | some key => .ok (key, rest)
    | none => .error (unexpected source ts)

def objectEntry (source : List Char) (level : Level) (start : Nat) : Parse (String × Node) :=
  fun ts => do
  let (key, ts) ← objectKey source start ts
  let ((), ts) ← expect source .colon none ts
  let (value, ts) ← level.expression 0 ts
  return ((key, value), ts)

/-- Names with commas between them up to a closing parenthesis and an arrow, and what follows. -/
def namesThenArrow? : List Spanned → Option (List String × List Spanned)
  | ⟨.identifier name, _⟩ :: ⟨.symbol .comma, _⟩ :: rest =>
    (namesThenArrow? rest).map fun (names, ts) => (name :: names, ts)
  | ⟨.identifier name, _⟩ :: ⟨.symbol .rightParen, _⟩ :: ⟨.symbol .arrow, _⟩ :: rest =>
    some ([name], rest)
  | _ => none

/-- The parameters of a lambda from behind an opening parenthesis up to its arrow, if that is what
the parenthesis starts, and what follows. -/
def parameters? : List Spanned → Option (List String × List Spanned)
  | ⟨.symbol .rightParen, _⟩ :: ⟨.symbol .arrow, _⟩ :: rest => some ([], rest)
  | ts => namesThenArrow? ts

def lambdaBody (level : Level) (params : List String) : Parse Node := fun ts => do
  let (body, ts) ← level.expression 0 ts
  return (.lambda params body, ts)

def matchArm (source : List Char) (level : Level) (braceAt : Nat) (done : List (Pattern × Node)) :
    Parse (Pattern × Node) := fun ts => do
  if ts.isEmpty then .error (faultAt source .unclosedMatch braceAt)
  else
    let start := offsetOf source ts
    let (p, ts) ← level.pattern ts
    if done.any fun (q, _) => q.isWildcard then
      .error (faultAt source .wildcardNotLast start)
    else
      let ((), ts) ← expect source .arrow none ts
      let (body, ts) ← level.expression 0 ts
      return ((p, body), ts)

/-- A match from behind its keyword on, which stands at `start`. -/
def matching (source : List Char) (level : Level) (start : Nat) : Parse Node := fun ts => do
  let (subject, ts) ← level.expression 0 ts
  let braceAt := offsetOf source ts
  let ((), ts) ← expect source .leftBrace none ts
  let (arms, ts) ← enclosed source .rightBrace (matchArm source level braceAt) braceAt ts
  if arms.isEmpty then .error (faultAt source .noArms start)
  else return (.matching subject arms, ts)

def namespaceMember (source : List Char) (level : Level) (space : String) : Parse Node := fun ts =>
  match ts with
  | ⟨.identifier name, _⟩ :: rest =>
    if startsWith .leftParen rest then do
      let (args, ts) ← arguments source level rest
      return (.namespaceCall space name args, ts)
    else .ok (.member space name, rest)
  | _ => .error (unexpected source ts)

/-- The meaning of a name that is neither called nor a namespace. -/
def Node.ofName : String → Node
  | "NaN" => .number Number.nan
  | "Infinity" => .number Number.infinity
  | "undefined" => .null
  | other => .name other

/-- What starts with a name, which stands at `start`; `ts` follows it. -/
def afterName (source : List Char) (level : Level) (name : String) (start : Nat) : Parse Node :=
  fun ts =>
  match ts with
  | ⟨.symbol .arrow, _⟩ :: rest => lambdaBody level [name] rest
  | ⟨.symbol .leftParen, _⟩ :: _ => do
    let (args, ts) ← arguments source level ts
    return (.call name args, ts)
  | [] => .ok (.ofName name, [])
  | ⟨.symbol .dot, _⟩ :: rest =>
    if name = "match" then matching source level start ts
    else if namespaces.contains name then namespaceMember source level name rest
    else .ok (.ofName name, ts)
  | _ => if name = "match" then matching source level start ts else .ok (.ofName name, ts)

/-- A literal, a name, or something in brackets. -/
def primary (source : List Char) (level : Level) : Parse Node := fun ts =>
  match ts with
  | ⟨.string s, _⟩ :: rest => .ok (.string s, rest)
  | ⟨.number x, _⟩ :: rest => .ok (.number x, rest)
  | ⟨.bool b, _⟩ :: rest => .ok (.bool b, rest)
  | ⟨.null, _⟩ :: rest => .ok (.null, rest)
  | ⟨.regex pattern flags, _⟩ :: rest => .ok (.regex pattern flags, rest)
  | ⟨.symbol .dollar, _⟩ :: rest => .ok (.root, rest)
  | ⟨.symbol .at, _⟩ :: rest => .ok (.current, rest)
  | ⟨.symbol .leftParen, at_⟩ :: rest =>
    match parameters? rest with
    | some (params, rest) => lambdaBody level params rest
    | none => do
      let (inner, ts) ← level.expression 0 rest
      let ((), ts) ← expect source .rightParen (some at_) ts
      return (inner, ts)
  | ⟨.symbol .leftBracket, at_⟩ :: rest => do
    let (items, ts) ← enclosed source .rightBracket (fun _ => level.expression 0) at_ rest
    return (.array items, ts)
  | ⟨.symbol .leftBrace, at_⟩ :: rest => do
    let (entries, ts) ← enclosed source .rightBrace (fun _ => objectEntry source level at_) at_ rest
    return (.object entries, ts)
  | ⟨.identifier name, at_⟩ :: rest => afterName source level name at_ rest
  | _ => .error (unexpected source ts)

/-- The accessor in brackets, from behind the opening bracket, which stands at `start`, up to the
closing one. -/
def bracketSegment (source : List Char) (level : Level) (start : Nat) : Parse Segment := fun ts =>
  let computed : Except EvalError (Segment × List Spanned) := do
    let (key, ts) ← level.expression 0 ts
    return (.dynamic key, ts)
  match ts with
  | ⟨.symbol .star, _⟩ :: rest =>
    if startsWith .rightBracket rest then .ok (.wildcard, rest) else computed
  | ⟨.number x, _⟩ :: rest =>
    if startsWith .rightBracket rest && Number.isWhole x then .ok (.index (Number.toInt64 x), rest)
    else computed
  | ⟨.string s, _⟩ :: rest =>
    if startsWith .rightBracket rest then .ok (.field s, rest) else computed
  | ⟨.symbol .rightBracket, _⟩ :: _ => .error (pathFaultAt source .emptyBrackets start)
  | ⟨.symbol .question, _⟩ :: ⟨.symbol .leftParen, parenAt⟩ :: rest => do
    let (predicate, ts) ← level.expression 0 rest
    match ts with
    | ⟨.symbol .rightParen, _⟩ :: rest => return (.filter predicate, rest)
    | _ => .error (pathFaultAt source .unclosedFilter parenAt)
  | ⟨.symbol .question, _⟩ :: _ => .error (pathFaultAt source .badFilter start)
  | _ => computed

def fieldName? : Token → Option String
  | .identifier name => some name
  | .bool b => some (if b then "true" else "false")
  | .null => some "null"
  | _ => none

/-- The accessors and method calls that follow an expression. -/
def postfixes (source : List Char) (level : Level) : Nat → Node → Parse Node
  | 0, node, ts => .ok (node, ts)
  | fuel + 1, node, ts =>
    match ts with
    | ⟨.symbol .dot, _⟩ :: ⟨.symbol .star, _⟩ :: rest =>
      postfixes source level fuel (node.withSegment .wildcard) rest
    | ⟨.symbol .dot, at_⟩ :: rest =>
      match rest with
      | t :: rest =>
        match fieldName? t.token with
        | some name =>
          if startsWith .leftParen rest then do
            let (args, ts) ← arguments source level rest
            postfixes source level fuel (.method node name args) ts
          else postfixes source level fuel (node.withSegment (.field name)) rest
        | none => .error (pathFaultAt source .noFieldAfterDot at_)
      | [] => .error (pathFaultAt source .noFieldAfterDot at_)
    | ⟨.symbol .dotDot, at_⟩ :: rest =>
      match rest with
      | ⟨.identifier name, _⟩ :: rest =>
        postfixes source level fuel (node.withSegment (.descent name)) rest
      | _ => .error (pathFaultAt source .noFieldAfterDots at_)
    | ⟨.symbol .leftBracket, at_⟩ :: rest => do
      let (segment, ts) ← bracketSegment source level at_ rest
      match ts with
      | ⟨.symbol .rightBracket, _⟩ :: rest =>
        postfixes source level fuel (node.withSegment segment) rest
      | _ => .error (pathFaultAt source .unbalancedBracket at_)
    | _ => .ok (node, ts)

def unaryOp? : Token → Option UnaryOp
  | .symbol .bang => some .not
  | .symbol .minus => some .negate
  | .symbol .plus => some .plus
  | .identifier name => if name = "typeof" then some .typeOf else none
  | _ => none

/-- An operator applied to its operand; a negated number is a number. -/
def Node.applyUnary (op : UnaryOp) (operand : Node) : Node :=
  match op, operand with
  | .negate, .number x => .number (-x)
  | op, operand => .unary op operand

def operand (source : List Char) (level : Level) : Parse Node := fun ts =>
  let plain : Except EvalError (Node × List Spanned) := do
    let (node, ts) ← primary source level ts
    postfixes source level (ts.length + 1) node ts
  match ts with
  | t :: rest =>
    match unaryOp? t.token with
    | some op => do
      let (node, ts) ← level.expression unaryPower rest
      return (.applyUnary op node, ts)
    | none => plain
  | [] => plain

def typeName? : Token → Option String
  | .identifier name => some name
  | .null => some "Null"
  | _ => none

/-- The rest of a conditional from behind its question mark, which stands at `start`. -/
def conditionalRest (source : List Char) (level : Level) (condition : Node) (start : Nat) :
    Parse Node := fun ts => do
  let (thenBranch, ts) ← level.expression 0 ts
  match ts with
  | ⟨.symbol .colon, _⟩ :: rest =>
    let (elseBranch, ts) ← level.expression conditionalPower rest
    return (.conditional condition thenBranch elseBranch, ts)
  | [] => .error (faultAt source .missingColon start)
  | _ => .error (unexpected source ts)

/-- The operators that follow a left operand and bind at least as tightly as `power`. -/
def operators (source : List Char) (level : Level) (power : Nat) : Nat → Node → Parse Node
  | 0, left, ts => .ok (left, ts)
  | fuel + 1, left, ts =>
    match ts with
    | ⟨.symbol .question, at_⟩ :: rest =>
      if conditionalPower < power then .ok (left, ts)
      else do
        let (node, ts) ← conditionalRest source level left at_ rest
        operators source level power fuel node ts
    | ⟨.identifier word, _⟩ :: rest =>
      if word ≠ "instanceof" ∨ BinaryOp.less.power < power then .ok (left, ts)
      else
        match rest with
        | t :: rest' =>
          match typeName? t.token with
          | some name => operators source level power fuel (.instanceOf left name) rest'
          | none => .error (unexpected source rest)
        | [] => .error (unexpected source rest)
    | ⟨.symbol s, _⟩ :: rest =>
      match s.binaryOp? with
      | some op =>
        if op.power < power then .ok (left, ts)
        else do
          let (right, ts) ← level.expression (op.power + 1) rest
          operators source level power fuel (.binary op left right) ts
      | none => .ok (left, ts)
    | _ => .ok (left, ts)

def expressionWith (source : List Char) (level : Level) (power : Nat) : Parse Node := fun ts => do
  let (left, ts) ← operand source level ts
  operators source level power (ts.length + 1) left ts

/-- An expression that nests at most `depth` deep and whose operators bind at least as tightly as
`power`. -/
def expression (source : List Char) (maxDepth : Nat) : Nat → Nat → Parse Node
  | 0, _, _ => .error (tooDeep maxDepth)
  | depth + 1, power, ts =>
    expressionWith source
      ⟨expression source maxDepth depth, pattern source maxDepth depth⟩ power ts

/-- The tree of a list of tokens of `source`, all of which belong to it. -/
def parseTokens (source : List Char) (maxDepth : Nat) (ts : List Spanned) :
    Except EvalError Node := do
  match ← expression source maxDepth maxDepth 0 ts with
  | (node, []) => return node
  | (_, ts) => .error (unexpected source ts)

def parseWithDepth (text : String) (maxDepth : Nat) : Except EvalError Node := do
  parseTokens text.toList maxDepth (← tokensOf text.toList)

def defaultMaxDepth : Nat := 256

def parse (text : String) : Except EvalError Node := parseWithDepth text defaultMaxDepth

/-- The document, or accessors of it. -/
def Node.isPath : Node → Bool
  | .root | .path .root _ => true
  | _ => false

/-- A path written out from the document on, and how many characters that adds in front. -/
def rootedPath (trimmed : List Char) : List Char × Nat :=
  match trimmed with
  | '$' :: _ => (trimmed, 0)
  | '[' :: _ => ('$' :: trimmed, 1)
  | _ => ('$' :: '.' :: trimmed, 2)

/-- The tree of a path, which may leave out the document it starts from. -/
def parsePath (text : String) (maxDepth : Nat) : Except EvalError Node :=
  let trimmed := Text.trim text.toList
  let (rooted, shift) := rootedPath trimmed
  match parseWithDepth (String.ofList rooted) maxDepth with
  | .error e => .error (e.asPathError shift)
  | .ok node =>
    if node.isPath then .ok node
    else .error (.badPath .notAPath (.at trimmed 0))

end DocExpr.Expr
