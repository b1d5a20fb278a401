import DocExpr.Library.Array
import DocExpr.Library.Date
import DocExpr.Library.Global
import DocExpr.Library.Math
import DocExpr.Library.Number
import DocExpr.Library.Object
import DocExpr.Library.Text

/-! Calls by name: methods of a value, functions of a namespace, and functions without one. A call
is looked up in a catalog, its number of arguments is checked, and then it runs. -/
namespace DocExpr.Library
open DocExpr.Calendar (Kind)

def isMethodName (name : String) : Bool :=
  TextMethod.catalog.has name || NumberMethod.catalog.has name || ArrayMethod.catalog.has name ||
    ObjectMethod.catalog.has name || DateMethod.catalog.has name

def ownMethod? (host : Host) (root receiver : Value) (name : String) :
    Option (Arity × (List Value → EvalM Value)) :=
  match receiver with
  | .string s => (TextMethod.catalog.find? name).map fun (m, a) => (a, m.run host root s)
  | .number x => (NumberMethod.catalog.find? name).map fun (m, a) => (a, lift ∘ m.run x)
  | .array items => (ArrayMethod.catalog.find? name).map fun (m, a) => (a, m.run host root items)
  | .object es => (ObjectMethod.catalog.find? name).map fun (m, a) => (a, m.run host root es)
  | .date d => (DateMethod.catalog.find? name).map fun (m, a) => (a, lift ∘ m.run name d)
  | _ => none

/-- Calls a method of a value. Every value but null can be asked for its text. -/
def callMethod (host : Host) (root receiver : Value) (name : String) (args : List Value) :
    EvalM Value :=
  if receiver.isNull then lift (typeError (.methodOnNull name))
  else
    match ownMethod? host root receiver name with
    | some (arity, run) => do
      lift (arity.check name args.length)
      run args
    | none =>
      if name = "toString" then do
        lift ((Arity.range 0 1).check name args.length)
        return .string receiver.display
      else if isMethodName name then lift (typeError (.methodOn name receiver.kindName))
      else lift (.error (.unknownFunction (receiver.kindName ++ "." ++ name)))

inductive SpaceFunction where
  | math (f : MathFunction)
  | json (f : JsonFunction)
  | date (kind : Kind) (f : DateFunction)
  deriving DecidableEq, Repr

/-- A catalog of functions, seen as functions of another type. -/
def Catalog.widen {α β : Type} (f : α → β) (c : Catalog α) : Catalog β :=
  c.map fun (name, a, arity) => (name, f a, arity)

/-- The functions of a namespace; none if there is no such namespace. -/
def spaceCatalog (space : String) : Catalog SpaceFunction :=
  match space with
  | "Math" => MathFunction.catalog.widen .math
  | "JSON" => JsonFunction.catalog.widen .json
  | "Date" => dates .dateTime
  | "LocalDate" => dates .localDate
  | "LocalDateTime" => dates .localDateTime
  | "LocalTime" => dates .localTime
  | _ => []
where
  /-- The functions of the namespace of a kind of dates. -/
  dates (kind : Kind) : Catalog SpaceFunction := (DateFunction.catalog kind).widen (.date kind)

def SpaceFunction.run (f : SpaceFunction) (ambient : Ambient) (args : List Value) :
    Except EvalError Value :=
  match f with
  | .math f => .ok (f.run ambient args)
  | .json f => f.run args
  | .date kind f => .ok (f.run kind ambient args)

def callNamespace (ambient : Ambient) (space name : String) (args : List Value) :
    Except EvalError Value :=
  match (spaceCatalog space).find? name with
  | none => .error (.unknownFunction (space ++ "." ++ name))
  | some (f, arity) => do
    arity.check name args.length
    f.run ambient args

/-- The value of a member of a namespace that is not called. -/
def namespaceMember (space name : String) : Except EvalError Value :=
  match if space = "Math" then mathConstants.lookup name else none with
  | some x => .ok (.number x)
  | none => .error (.unknownFunction (space ++ "." ++ name))

def callGlobal (host : Host) (root : Value) (name : String) (args : List Value) : EvalM Value :=
  match GlobalFunction.catalog.find? name with
  | none => lift (.error (.unknownFunction name))
  | some (f, arity) => do
    lift (arity.check name args.length)
    f.run host root args

end DocExpr.Library
