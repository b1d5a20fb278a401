import DocExpr.Library.Host
import DocExpr.Number.Leading
import DocExpr.Text.Percent
import DocExpr.Value.Document

/-! The functions that belong to no value, and those of the namespace of JSON. -/
namespace DocExpr.Library

inductive GlobalFunction where
  | decodeComponent
  | encodeComponent
  | evaluate
  | instanceOf
  | isNaN
  | jsonPath
  | parseFloat
  | parseInt
  deriving DecidableEq, Repr

def GlobalFunction.catalog : Catalog GlobalFunction := [
  ("decodeURIComponent", .decodeComponent, .exact 1),
  ("encodeURIComponent", .encodeComponent, .exact 1),
  ("eval", .evaluate, .range 1 2),
  ("instanceOf", .instanceOf, .exact 2),
  ("isNaN", .isNaN, .exact 1),
  ("jsonPath", .jsonPath, .exact 2),
  ("parseFloat", .parseFloat, .exact 1),
  ("parseInt", .parseInt, .range 1 2)]

/-- The integer at the front of a text. The base is from 2 to 36; zero, null and what is no number
leave the choice to the text. -/
def parseInteger (s : String) (base : Value) : Float :=
  match base with
  | .null => Number.leadingInteger s none
  | base =>
    let n := Number.clampInt (-1) 37 base.toNumber
    if n = 0 then Number.leadingInteger s none
    else if n < 2 ∨ 36 < n then Number.nan
    else Number.leadingInteger s (some n.toNat)

def GlobalFunction.run (f : GlobalFunction) (host : Host) (root : Value) (args : List Value) :
    EvalM Value := do
  match f with
  | .encodeComponent => return .string (Text.Percent.encode (textArg args 0))
  | .decodeComponent =>
    match Text.Percent.decode? (textArg args 0) with
    | some s => return .string s
    | none => return .null
  | .isNaN => return .bool (arg args 0).toNumber.isNaN
  | .parseFloat => return .number (Number.leadingNumeral (textArg args 0))
  | .parseInt => return .number (parseInteger (textArg args 0) (arg args 1))
  | .instanceOf => return .bool ((arg args 0).isInstance (textArg args 1))
  | .evaluate =>
    match arg args 0 with
    | .string text => host.evalText text (args.getD 1 root)
    | v => return v
  | .jsonPath => host.resolvePath (arg args 0) (textArg args 1)

inductive JsonFunction where
  | parse
  | stringify
  deriving DecidableEq, Repr

def JsonFunction.catalog : Catalog JsonFunction := [
  ("parse", .parse, .exact 1),
  ("stringify", .stringify, .exact 1)]

def JsonFunction.run (f : JsonFunction) (args : List Value) : Except EvalError Value :=
  match f with
  | .parse =>
    match Value.readJson? (textArg args 0) with
    | some v => .ok v
    | none => typeError .badJson
  | .stringify => .ok (.string (arg args 0).writeJson)

end DocExpr.Library
