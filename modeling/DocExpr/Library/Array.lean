import DocExpr.Library.Host
import DocExpr.Library.Sort
import DocExpr.Number.Index
import DocExpr.Text.Occurrence
import DocExpr.Value.Equality
import DocExpr.Value.Order

/-! The methods of arrays. None of them changes its array: those that add, remove or move items
return the array that results. -/
namespace DocExpr.Library

inductive ArrayMethod where
  | concat
  | filter
  | find
  | findIndex
  | includes
  | indexOf
  | join
  | lastIndexOf
  | length
  | map
  | pop
  | push
  | reduce
  | reduceRight
  | reverse
  | shift
  | slice
  | sort
  | splice
  | toObject
  | toText
  | unshift
  deriving DecidableEq, Repr

def ArrayMethod.catalog : Catalog ArrayMethod := [
  ("concat", .concat, .atLeast 0),
  ("filter", .filter, .exact 1),
  ("find", .find, .exact 1),
  ("findIndex", .findIndex, .exact 1),
  ("includes", .includes, .range 1 2),
  ("indexOf", .indexOf, .range 1 2),
  ("join", .join, .range 0 1),
  ("lastIndexOf", .lastIndexOf, .range 1 2),
  ("length", .length, .exact 0),
  ("map", .map, .exact 1),
  ("pop", .pop, .exact 0),
  ("push", .push, .atLeast 0),
  ("reduce", .reduce, .range 1 2),
  ("reduceRight", .reduceRight, .range 1 2),
  ("reverse", .reverse, .exact 0),
  ("shift", .shift, .exact 0),
  ("slice", .slice, .range 0 2),
  ("sort", .sort, .range 0 1),
  ("splice", .splice, .atLeast 0),
  ("toObject", .toObject, .range 1 2),
  ("toString", .toText, .exact 0),
  ("unshift", .unshift, .atLeast 0)]

/-- The parameters of text that stands for a function of items. -/
def itemParams : List String := ["x", "index", "array"]

def reduceParams : List String := ["acc", "curr", "index", "array"]

def sortParams : List String := ["a", "b"]

mutual
/-- An item of a joined array: null is empty, and arrays are joined by commas. -/
def joinedItem : Value → List Char
  | .null => []
  | .array items => joinedItems items
  | v => v.display.toList

def joinedItems : List Value → List Char
  | [] => []
  | [v] => joinedItem v
  | v :: vs => joinedItem v ++ ',' :: joinedItems vs
end

def joinText (separator : List Char) (items : List Value) : List Char :=
  Text.joinWith separator (items.map joinedItem)

/-- Strict equality, but that what is no number equals itself. -/
def sameValue (a b : Value) : Bool :=
  match a, b with
  | .number x, .number y => (x.isNaN && y.isNaN) || x == y
  | a, b => a.strictEq b

/-- The position of the first item at or after a position that equals the needle. -/
def itemPosition? (items : List Value) (needle : Value) (start : Nat) : Option Nat :=
  ((items.drop start).findIdx? (·.strictEq needle)).map (start + ·)

/-- The last position that a backward search starts from: a negative one counts from the end, and
what is no number means the end. -/
def lastStart (length : Nat) (args : List Value) : Int :=
  match args[1]? with
  | none => length - 1
  | some v =>
    let x := v.toNumber
    if x < 0.0 then length + Number.clampInt (-(length : Int) - 1) 0 x
    else if x.isNaN then length - 1
    else Number.clampInt 0 (length - 1 : Int) x

/-- The position of the last of the first `count` items that equals the needle. -/
def lastPosition? (items : List Value) (needle : Value) : Nat → Option Nat
  | 0 => none
  | count + 1 =>
    if (items[count]?).any (·.strictEq needle) then some count
    else lastPosition? items needle count

/-- Calls a function with an item, its index and the array. -/
def callOnItem (host : Host) (root : Value) (f : Lambda Value) (array item : Value) (i : Nat) :
    EvalM Value :=
  host.call f [item, .ofNat i, array] root

/-- The items from index `i` on that a function accepts. -/
def filterItems (host : Host) (root : Value) (f : Lambda Value) (array : Value) (i : Nat) :
    List Value → EvalM (List Value)
  | [] => return []
  | v :: vs => do
    let keep ← callOnItem host root f array v i
    let rest ← filterItems host root f array (i + 1) vs
    return if keep.isTruthy then v :: rest else rest

/-- The first item from index `i` on that a function accepts, with its index. -/
def findItem (host : Host) (root : Value) (f : Lambda Value) (array : Value) (i : Nat) :
    List Value → EvalM (Option (Nat × Value))
  | [] => return none
  | v :: vs => do
    let found ← callOnItem host root f array v i
    if found.isTruthy then return some (i, v) else findItem host root f array (i + 1) vs

def mapItems (host : Host) (root : Value) (f : Lambda Value) (array : Value) (i : Nat) :
    List Value → EvalM (List Value)
  | [] => return []
  | v :: vs => do
    let w ← callOnItem host root f array v i
    return w :: (← mapItems host root f array (i + 1) vs)

def reduceItems (host : Host) (root : Value) (f : Lambda Value) (array acc : Value) :
    List (Value × Nat) → EvalM Value
  | [] => return acc
  | (v, i) :: rest => do
    let acc ← host.call f [acc, v, .ofNat i, array] root
    reduceItems host root f array acc rest

/-- Folds items by a function, starting from the given value or the first item. -/
def reduceArray (host : Host) (root : Value) (f : Lambda Value) (array : Value)
    (initial : Option Value) (items : List (Value × Nat)) : EvalM Value :=
  match initial, items with
  | some acc, items => reduceItems host root f array acc items
  | none, (v, _) :: rest => reduceItems host root f array v rest
  | none, [] => lift (typeError .emptyReduce)

/-- The object with a key and a value for each item from index `i` on. -/
def objectOfItems (host : Host) (root : Value) (key : Lambda Value) (value : Option (Lambda Value))
    (array : Value) (done : Entries Value) (i : Nat) : List Value → EvalM (Entries Value)
  | [] => return done
  | v :: vs => do
    let k ← callOnItem host root key array v i
    let w ←
      match value with
      | some f => callOnItem host root f array v i
      | none => pure v
    objectOfItems host root key value array (done.insert k.display w) (i + 1) vs

/-- The order that a comparator's number means. -/
def orderOfNumber (x : Float) : Ordering := if x < 0.0 then .lt else if 0.0 < x then .gt else .eq

def sortBy (host : Host) (root : Value) (f : Lambda Value) (items : List Value) :
    EvalM (List Value) :=
  mergeSort (fun a b => do return orderOfNumber (← host.call f [a, b] root).toNumber) items

def sortDefault (items : List Value) : List Value :=
  Id.run (mergeSort (fun a b => pure (a.compareDefault b)) items)

/-- The items of arrays, and other values themselves. -/
def spread (args : List Value) : List Value :=
  args.flatMap fun
    | .array items => items
    | v => [v]

def sliceItems (items : List Value) (args : List Value) : List Value :=
  let n := items.length
  let start := Number.relativeIndex (numberArg args 0 0.0) n
  let stop := positionArg args 1 (Number.relativeIndex · n) n
  (items.drop start).take (stop - start)

/-- How many items behind `start` are taken out: as many as asked for, none without any argument,
all without a second one. -/
def deleteCount (length start : Nat) (args : List Value) : Nat :=
  match args with
  | [] => 0
  | [_] => length - start
  | _ :: count :: _ => Number.clampIndex count.toNumber (length - start)

/-- The items with some taken out at a relative position and others put in their place. -/
def spliceItems (items : List Value) (args : List Value) : List Value :=
  let start := Number.relativeIndex (numberArg args 0 0.0) items.length
  items.take start ++ args.drop 2 ++ items.drop (start + deleteCount items.length start args)

def ArrayMethod.run (m : ArrayMethod) (host : Host) (root : Value) (items : List Value)
    (args : List Value) : EvalM Value := do
  let array := Value.array items
  match m with
  | .length => return .ofNat items.length
  | .toText => return .ofChars (joinedItems items)
  | .join =>
    let separator :=
      match args.head? with
      | none | some .null => [',']
      | some v => v.display.toList
    return .ofChars (joinText separator items)
  | .concat => return .array (items ++ spread args)
  | .includes =>
    let start := Number.relativeIndex (numberArg args 1 0.0) items.length
    return .bool ((items.drop start).any (sameValue · (arg args 0)))
  | .indexOf =>
    let start := Number.relativeIndex (numberArg args 1 0.0) items.length
    return positionValue (itemPosition? items (arg args 0) start)
  | .lastIndexOf =>
    let count := (lastStart items.length args + 1).toNat
    return positionValue (lastPosition? items (arg args 0) count)
  | .filter =>
    let f ← host.callable (arg args 0) itemParams
    return .array (← filterItems host root f array 0 items)
  | .find =>
    let f ← host.callable (arg args 0) itemParams
    match ← findItem host root f array 0 items with
    | some (_, v) => return v
    | none => return .null
  | .findIndex =>
    let f ← host.callable (arg args 0) itemParams
    return positionValue ((← findItem host root f array 0 items).map (·.1))
  | .map =>
    let f ← host.callable (arg args 0) itemParams
    return .array (← mapItems host root f array 0 items)
  | .reduce =>
    let f ← host.callable (arg args 0) reduceParams
    reduceArray host root f array args[1]? items.zipIdx
  | .reduceRight =>
    let f ← host.callable (arg args 0) reduceParams
    reduceArray host root f array args[1]? items.zipIdx.reverse
  | .toObject =>
    let key ← host.callable (arg args 0) itemParams
    let value ←
      match args[1]? with
      | some v => some <$> host.callable v itemParams
      | none => pure none
    return .object (← objectOfItems host root key value array [] 0 items)
  | .pop => return .array items.dropLast
  | .shift => return .array (items.drop 1)
  | .push => return .array (items ++ args)
  | .unshift => return .array (args ++ items)
  | .reverse => return .array items.reverse
  | .slice => return .array (sliceItems items args)
  | .splice => return .array (spliceItems items args)
  | .sort =>
    match args.head? with
    | none | some .null => return .array (sortDefault items)
    | some v =>
      let f ← host.callable v sortParams
      return .array (← sortBy host root f items)

end DocExpr.Library
