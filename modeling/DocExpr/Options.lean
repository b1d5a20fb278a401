import DocExpr.Error
import DocExpr.Json.Reader

/-! The limits of an evaluation. -/
namespace DocExpr

structure Options where
  /-- How deep expressions and evaluation may nest, and how deep a search for a key goes. -/
  maxDepth : Nat := 256
  /-- How many nodes may be evaluated and functions called. -/
  maxSteps : Nat := 1000000
  /-- How many bytes a string may have that is put together. -/
  maxStringLength : Nat := 67108864
  deriving DecidableEq, Repr

namespace Options

/-- A limit: a natural number below `2 ^ 64`. -/
def limit? : Json → Option Nat
  | .number (.natural n) => some n
  | _ => none

/-- Sets limits by name, each at most once. -/
def setNamed? (seen : List String) (o : Options) : List (String × Json) → Option Options
  | [] => some o
  | (name, j) :: rest =>
    if seen.contains name then none
    else do
      let n ← limit? j
      let o ←
        match name with
        | "max_depth" => some { o with maxDepth := n }
        | "max_steps" => some { o with maxSteps := n }
        | "max_string_length" => some { o with maxStringLength := n }
        | _ => none
      setNamed? (name :: seen) o rest

/-- The options of a JSON tree: limits by name, or in order. What is not given has its default. -/
def ofJson? : Json → Option Options
  | .object members => setNamed? [] {} members
  | .array items => do
    let limits ← items.mapM limit?
    match limits with
    | [] => some {}
    | [d] => some { maxDepth := d }
    | [d, s] => some { maxDepth := d, maxSteps := s }
    | [d, s, l] => some ⟨d, s, l⟩
    | _ => none
  | _ => none

def ofText (s : String) : Except EvalError Options :=
  match (Json.read? s).bind ofJson? with
  | some o => .ok o
  | none => .error .badDocument

end Options
end DocExpr
