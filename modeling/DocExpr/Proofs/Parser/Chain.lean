import DocExpr.Proofs.Lexer.Reading
import DocExpr.Expr.Parser

/-! Chains of operands and operators as the grammar has them, and what the table of precedences asks
of a tree. A chain knows its tokens and, apart from any tree, the pieces they stand for; a tree can
be read off in order, which gives pieces again. -/
namespace DocExpr.Expr

/-- Names that are more than variables where an operand is expected. -/
def keywords : List String := ["typeof", "match", "instanceof"]

/-- An operand of one token. -/
inductive Atom where
  | string (s : String)
  | number (x : Float)
  | bool (b : Bool)
  | null
  | root
  | current
  | name (word : String) (plain : word ∉ keywords)

/-- The token of an atom. -/
def Atom.token : Atom → Token
  | .string s => .string s
  | .number x => .number x
  | .bool b => .bool b
  | .null => .null
  | .root => .symbol .dollar
  | .current => .symbol .at
  | .name word _ => .identifier word

/-- The tree of an atom. -/
def Atom.node : Atom → Node
  | .string s => .string s
  | .number x => .number x
  | .bool b => .bool b
  | .null => .null
  | .root => .root
  | .current => .current
  | .name word _ => .ofName word

/-- The token of an operator in front of an operand. -/
def UnaryOp.token : UnaryOp → Token
  | .negate => .symbol .minus
  | .plus => .symbol .plus
  | .not => .symbol .bang
  | .typeOf => .identifier "typeof"

/-- An atom with operators in front of it. -/
structure Operand where
  prefixes : List UnaryOp
  atom : Atom

/-- The tokens of an operand. -/
def Operand.tokens (operand : Operand) : List Token :=
  operand.prefixes.map UnaryOp.token ++ [operand.atom.token]

/-- The operators in front apply from the last to the first. -/
def Operand.node (operand : Operand) : Node :=
  operand.prefixes.foldr Node.applyUnary operand.atom.node

/-- The symbol of a binary operator. -/
def BinaryOp.symbol : BinaryOp → Symbol
  | .add => .plus
  | .subtract => .minus
  | .multiply => .star
  | .divide => .slash
  | .modulo => .percent
  | .equal => .equal
  | .notEqual => .notEqual
  | .strictEqual => .strictEqual
  | .strictNotEqual => .strictNotEqual
  | .less => .less
  | .lessOrEqual => .lessOrEqual
  | .greater => .greater
  | .greaterOrEqual => .greaterOrEqual
  | .and => .and
  | .or => .or

theorem BinaryOp.precedence_pos (op : BinaryOp) : 0 < op.precedence := by
  cases op <;> decide

theorem BinaryOp.precedence_lt (op : BinaryOp) : op.precedence < unaryPower / 10 := by
  cases op <;> decide

theorem BinaryOp.power_lt (op : BinaryOp) : op.power < unaryPower := by
  cases op <;> decide

theorem BinaryOp.lt_power (op : BinaryOp) : conditionalPower < op.power := by
  cases op <;> decide

theorem BinaryOp.symbol_binaryOp? (op : BinaryOp) : op.symbol.binaryOp? = some op := by
  cases op <;> rfl

/-- What continues a chain: an operator with its right operand, or a test of the type. -/
inductive Link where
  | operator (op : BinaryOp) (operand : Operand)
  | test (token : Token) (typeName : String) (names : typeName? token = some typeName)

/-- The precedence of a link. -/
def Link.level : Link → Nat
  | .operator op _ => op.precedence
  | .test _ _ _ => BinaryOp.less.precedence

theorem Link.level_pos (link : Link) : 0 < link.level := by
  cases link with
  | operator op operand => exact op.precedence_pos
  | test => exact BinaryOp.precedence_pos .less

/-- The tokens of a link. -/
def Link.tokens : Link → List Token
  | .operator op operand => .symbol op.symbol :: operand.tokens
  | .test token _ _ => [.identifier "instanceof", token]

/-- An operand and what is linked to it. -/
structure Chain where
  first : Operand
  links : List Link

/-- The tokens of a chain. -/
def Chain.tokens (chain : Chain) : List Token :=
  chain.first.tokens ++ chain.links.flatMap Link.tokens

/-- Chains, perhaps joined as the parts of a conditional. -/
inductive Joined where
  | single (chain : Chain)
  | choice (condition : Chain) (thenBranch elseBranch : Joined)

/-- The tokens of joined chains. -/
def Joined.tokens : Joined → List Token
  | .single chain => chain.tokens
  | .choice condition thenBranch elseBranch =>
    condition.tokens ++ .symbol .question :: thenBranch.tokens ++
      .symbol .colon :: elseBranch.tokens

/-- What stands in a row, operands with their prefixes as a whole. -/
inductive Piece where
  | operand (node : Node)
  | operator (op : BinaryOp)
  | test (typeName : String)
  | question
  | colon

/-- The pieces of a link. -/
def Link.pieces : Link → List Piece
  | .operator op operand => [.operator op, .operand operand.node]
  | .test _ typeName _ => [.test typeName]

/-- The pieces of a chain. -/
def Chain.pieces (chain : Chain) : List Piece :=
  .operand chain.first.node :: chain.links.flatMap Link.pieces

/-- The pieces of joined chains. -/
def Joined.pieces : Joined → List Piece
  | .single chain => chain.pieces
  | .choice condition thenBranch elseBranch =>
    condition.pieces ++ .question :: thenBranch.pieces ++ .colon :: elseBranch.pieces

/-- A tree read in order. -/
def Node.pieces : Node → List Piece
  | .binary op left right => left.pieces ++ .operator op :: right.pieces
  | .instanceOf value typeName => value.pieces ++ [.test typeName]
  | .conditional condition thenBranch elseBranch =>
    condition.pieces ++ .question :: thenBranch.pieces ++ .colon :: elseBranch.pieces
  | node => [.operand node]

/-- The tree puts pieces together, and is no operand. -/
def Node.joins : Node → Bool
  | .binary _ _ _ | .instanceOf _ _ | .conditional _ _ _ => true
  | _ => false

/-- How tightly the root of a tree binds; a conditional binds looser and an operand tighter than
every operator. -/
def Node.rank : Node → Nat
  | .binary op _ _ => op.precedence
  | .instanceOf _ _ => BinaryOp.less.precedence
  | .conditional _ _ _ => 0
  | _ => unaryPower / 10

/-- How tightly the loosest node binds among the root, its left part, the left part of that, and so
on: all of them stand open to an operator in front. -/
def Node.edge : Node → Nat
  | .binary op left _ => min op.precedence left.edge
  | .instanceOf value _ => min BinaryOp.less.precedence value.edge
  | .conditional _ _ _ => 0
  | _ => unaryPower / 10

/-- The tree is a test of the type. Nothing can be part of the type name, so an operator behind it
has the test for its left side. -/
def Node.isTest : Node → Bool
  | .instanceOf _ _ => true
  | _ => false

/-- The tree is grouped by precedence: operators on the left side of an operator bind at least as
tightly, those on its right side more tightly, and a conditional binds loosest and has none for its
condition. -/
inductive Node.Grouped : Node → Prop where
  | operand (operand : Operand) : Grouped operand.node
  | binary {op : BinaryOp} {left right : Node} (isLeft : Grouped left) (isRight : Grouped right)
      (loose : left.isTest = true ∨ op.precedence ≤ left.rank)
      (tight : op.precedence < right.edge) : Grouped (.binary op left right)
  | instanceOf {value : Node} (typeName : String) (isValue : Grouped value)
      (loose : BinaryOp.less.precedence ≤ value.rank) : Grouped (.instanceOf value typeName)
  | conditional {condition thenBranch elseBranch : Node} (isCondition : Grouped condition)
      (isThen : Grouped thenBranch) (isElse : Grouped elseBranch) (loose : 0 < condition.rank) :
      Grouped (.conditional condition thenBranch elseBranch)

theorem Node.edge_le_rank (node : Node) : node.edge ≤ node.rank := by
  cases node with
  | binary | instanceOf => exact Nat.min_le_left _ _
  | _ => exact Nat.le_refl _

theorem Node.rank_of_isTest {node : Node} (isTest : node.isTest = true) :
    node.rank = BinaryOp.less.precedence := by
  cases node with
  | instanceOf => rfl
  | _ => cases isTest

theorem Node.joins_ofName (word : String) : (Node.ofName word).joins = false := by
  unfold Node.ofName
  split <;> rfl

theorem Atom.joins_node (atom : Atom) : atom.node.joins = false := by
  cases atom with
  | name word plain => exact Node.joins_ofName word
  | _ => rfl

theorem Operand.joins_node (operand : Operand) : operand.node.joins = false := by
  obtain ⟨prefixes, atom⟩ := operand
  cases prefixes with
  | nil => exact atom.joins_node
  | cons op prefixes =>
    rw [Operand.node, List.foldr_cons]
    unfold Node.applyUnary
    split <;> rfl

section
variable {node : Node} (single : node.joins = false)
include single

theorem Node.pieces_of_single : node.pieces = [.operand node] := by
  cases node with
  | binary | instanceOf | conditional => cases single
  | _ => rfl

theorem Node.rank_of_single : node.rank = unaryPower / 10 := by
  cases node with
  | binary | instanceOf | conditional => cases single
  | _ => rfl

theorem Node.edge_of_single : node.edge = unaryPower / 10 := by
  cases node with
  | binary | instanceOf | conditional => cases single
  | _ => rfl

end
end DocExpr.Expr
