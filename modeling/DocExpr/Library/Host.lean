import DocExpr.EvalM
import DocExpr.Value.Coercion
import DocExpr.Value.Display

/-! What the functions of the library need from the evaluation that calls them, and how they look
at their arguments. -/
namespace DocExpr.Library

/-- An evaluation, as the library sees it. -/
structure Host where
  /-- The function that a value stands for: a function, or text with these parameters. -/
  callable : Value → List String → EvalM (Lambda Value)
  /-- Calls a function with the document at hand. -/
  call : Lambda Value → List Value → Value → EvalM Value
  /-- Evaluates text on a document. -/
  evalText : String → Value → EvalM Value
  /-- Follows a path from a value. -/
  resolvePath : Value → String → EvalM Value
  /-- How many bytes a string may have that is put together. -/
  maxStringLength : Nat

/-- Refuses a string that is too long before it is put together. -/
def checkLength (length limit : Nat) : Except EvalError Unit :=
  if limit < length then .error (.limit (.stringLength length limit)) else .ok ()

/-- An argument; null if it is not given. -/
def arg (args : List Value) (i : Nat) : Value := args.getD i .null

def numberArg (args : List Value) (i : Nat) (default : Float) : Float :=
  match args[i]? with
  | some v => v.toNumber
  | none => default

/-- The position that an argument stands for, or the one that is meant if it is not given. -/
def positionArg (args : List Value) (i : Nat) (position : Float → Nat) (default : Nat) : Nat :=
  match args[i]? with
  | some v => position v.toNumber
  | none => default

def textArg (args : List Value) (i : Nat) : String :=
  match args[i]? with
  | some v => v.display
  | none => ""

/-- A position, or minus one. -/
def positionValue : Option Nat → Value
  | some i => .ofNat i
  | none => .number (-1.0)

def typeError {α : Type} (fault : TypeFault) : Except EvalError α := .error (.badType fault)

def lift {α : Type} (result : Except EvalError α) : EvalM α := ExceptT.mk (pure result)

end DocExpr.Library

namespace DocExpr

def Arity.exact (n : Nat) : Arity := ⟨n, some n⟩

def Arity.range (least most : Nat) : Arity := ⟨least, some most⟩

def Arity.atLeast (n : Nat) : Arity := ⟨n, none⟩

def Arity.admits (a : Arity) (given : Nat) : Bool := a.least ≤ given && a.most.all (given ≤ ·)

def Arity.check (a : Arity) (name : String) (given : Nat) : Except EvalError Unit :=
  if a.admits given then .ok () else .error (.badType (.argumentCount name a given))

end DocExpr

namespace DocExpr.Library

/-- The functions of one kind: name, meaning and arity. -/
abbrev Catalog (α : Type) := List (String × α × Arity)

def Catalog.find? {α : Type} (c : Catalog α) (name : String) : Option (α × Arity) :=
  List.lookup name c

def Catalog.has {α : Type} (c : Catalog α) (name : String) : Bool := (c.find? name).isSome

end DocExpr.Library
