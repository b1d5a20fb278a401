import DocExpr.Library.Host
import DocExpr.Path.Dotted

/-! The methods of objects. -/
namespace DocExpr.Library
open DocExpr.Expr (Segment)

inductive ObjectMethod where
  | entries
  | extend
  | filter
  | get
  | getFirst
  | hasOwnProperty
  | hasPath
  | isEmpty
  | keys
  | mapKeys
  | mapValues
  | merge
  | values
  deriving DecidableEq, Repr

def ObjectMethod.catalog : Catalog ObjectMethod := [
  ("entries", .entries, .exact 0),
  ("extend", .extend, .atLeast 0),
  ("filter", .filter, .exact 1),
  ("get", .get, .range 1 2),
  ("getFirst", .getFirst, .atLeast 1),
  ("hasOwnProperty", .hasOwnProperty, .exact 1),
  ("hasPath", .hasPath, .exact 1),
  ("isEmpty", .isEmpty, .exact 0),
  ("keys", .keys, .exact 0),
  ("mapKeys", .mapKeys, .exact 1),
  ("mapValues", .mapValues, .exact 1),
  ("merge", .merge, .atLeast 0),
  ("values", .values, .exact 0)]

/-- The parameters of text that stands for a function of entries. -/
def entryParams : List String := ["value", "key", "object"]

mutual
/-- What a value becomes where there is an old one: two objects are merged, and else the new value
stays. -/
def mergeValue (old : Option Value) : Value → Value
  | .object incoming =>
    match old with
    | some (.object existing) => .object (mergeEntries existing incoming)
    | _ => .object incoming
  | v => v

def mergeEntries (target : List (String × Value)) : List (String × Value) → List (String × Value)
  | [] => target
  | (k, v) :: es =>
    mergeEntries (Entries.insert target k (mergeValue (Entries.find? target k) v)) es
end

def objectsOf (args : List Value) : List (Entries Value) :=
  args.filterMap fun
    | .object es => some es
    | _ => none

/-- The steps of a path argument: text, or an array of keys. -/
def pathArg (v : Value) : List Segment :=
  match v with
  | .array parts =>
    parts.map fun
      | .number x =>
        if Number.isWhole x then .index (Number.toInt64 x) else .field (Number.toText x)
      | v => .field v.display
  | v => Path.parseDotted v.display

/-- The value under the first of some keys that is there; the keys are the arguments, or the first
argument if it is an array, which a default may follow. -/
def firstValue (es : Entries Value) (args : List Value) : Value :=
  let (keys, default) :=
    match arg args 0 with
    | .array keys => (keys, arg args 1)
    | _ => (args, .null)
  (keys.findSome? fun k => es.find? k.display).getD default

/-- Calls a function with the value and the key of an entry, and the object. -/
def callOnEntry (host : Host) (root : Value) (f : Lambda Value) (object : Value) (k : String)
    (v : Value) : EvalM Value :=
  host.call f [v, .string k, object] root

def filterEntries (host : Host) (root : Value) (f : Lambda Value) (object : Value) :
    Entries Value → EvalM (Entries Value)
  | [] => return []
  | (k, v) :: es => do
    let keep ← callOnEntry host root f object k v
    let rest ← filterEntries host root f object es
    return if keep.isTruthy then (k, v) :: rest else rest

/-- The entries under the keys that a function returns; of several under one key the last one
stays. -/
def mapEntryKeys (host : Host) (root : Value) (f : Lambda Value) (object : Value)
    (done : Entries Value) : Entries Value → EvalM (Entries Value)
  | [] => return done
  | (k, v) :: es => do
    let k' ← callOnEntry host root f object k v
    mapEntryKeys host root f object (done.insert k'.display v) es

def mapEntryValues (host : Host) (root : Value) (f : Lambda Value) (object : Value) :
    Entries Value → EvalM (Entries Value)
  | [] => return []
  | (k, v) :: es => do
    let w ← callOnEntry host root f object k v
    return (k, w) :: (← mapEntryValues host root f object es)

def ObjectMethod.run (m : ObjectMethod) (host : Host) (root : Value) (es : Entries Value)
    (args : List Value) : EvalM Value := do
  let object := Value.object es
  match m with
  | .keys => return .array (es.keys.map .string)
  | .values => return .array es.values
  | .entries => return .array (es.map fun (k, v) => .array [.string k, v])
  | .isEmpty => return .bool es.isEmpty
  | .hasOwnProperty => return .bool (es.has (arg args 0).display)
  | .hasPath => return .bool (Path.lookupExact? object (pathArg (arg args 0))).isSome
  | .get => return (Path.lookupExact? object (pathArg (arg args 0))).getD (arg args 1)
  | .getFirst => return firstValue es args
  | .filter =>
    let f ← host.callable (arg args 0) entryParams
    return .object (← filterEntries host root f object es)
  | .mapKeys =>
    let f ← host.callable (arg args 0) entryParams
    return .object (← mapEntryKeys host root f object [] es)
  | .mapValues =>
    let f ← host.callable (arg args 0) entryParams
    return .object (← mapEntryValues host root f object es)
  | .extend => return .object ((objectsOf args).foldl Entries.insertAll es)
  | .merge => return .object ((objectsOf args).foldl mergeEntries es)

end DocExpr.Library
