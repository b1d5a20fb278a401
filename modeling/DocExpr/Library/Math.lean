import DocExpr.Library.Host

/-! The constants and functions of the namespace of mathematics. -/
namespace DocExpr.Library

def mathConstants : List (String × Float) := [
  ("E", 2.718281828459045),
  ("LN2", 0.6931471805599453),
  ("LN10", 2.302585092994046),
  ("LOG2E", 1.4426950408889634),
  ("LOG10E", 0.4342944819032518),
  ("PI", 3.141592653589793),
  ("SQRT1_2", 0.7071067811865476),
  ("SQRT2", 1.4142135623730951)]

inductive MathFunction where
  | abs
  | ceil
  | floor
  | max
  | min
  | pow
  | random
  | randomIdentifier
  | round
  | sign
  | trunc
  deriving DecidableEq, Repr

def MathFunction.catalog : Catalog MathFunction := [
  ("abs", .abs, .exact 1),
  ("ceil", .ceil, .exact 1),
  ("floor", .floor, .exact 1),
  ("max", .max, .atLeast 0),
  ("min", .min, .atLeast 0),
  ("pow", .pow, .exact 2),
  ("random", .random, .exact 0),
  ("randomUUID", .randomIdentifier, .exact 0),
  ("round", .round, .exact 1),
  ("sign", .sign, .exact 1),
  ("trunc", .trunc, .exact 1)]

/-- The nearest whole number; halfway it is the greater one. A negative number that rounds to zero
keeps its sign. -/
def roundHalfUp (x : Float) : Float :=
  if !Number.isFinite x || Number.isWhole x then x
  else
    let low := Number.floor x
    let r := if x - low ≥ 0.5 then low + 1.0 else low
    if r == 0.0 && x < 0.0 then -0.0 else r

/-- Minus one, zero or one; a zero keeps its sign. -/
def signOf (x : Float) : Float :=
  if x.isNaN || x == 0.0 then x else if x < 0.0 then -1.0 else 1.0

/-- A power. An exponent that is no number gives none, even on one, nor does an infinite exponent
on a base of magnitude one. -/
def power (base exponent : Float) : Float :=
  if exponent.isNaN then Number.nan
  else if base.abs == 1.0 && Number.isInfinite exponent then Number.nan
  else base.pow exponent

/-- The numbers to compare: the arguments, or the items of a single array. -/
def comparedNumbers (args : List Value) : List Float :=
  match args with
  | [.array items] => items.map Value.toNumber
  | args => args.map Value.toNumber

/-- The number that `beats` all others, the last one of equals, or `start` if there is none. One
that is no number spoils the result. -/
def extreme (beats : Float → Float → Bool) (start : Float) (xs : List Float) : Float :=
  if xs.any Float.isNaN then Number.nan
  else xs.foldl (fun best x => if beats best x then best else x) start

def MathFunction.run (f : MathFunction) (ambient : Ambient) (args : List Value) : Value :=
  let x := numberArg args 0 Number.nan
  match f with
  | .abs => .number x.abs
  | .ceil => .number (Number.ceil x)
  | .floor => .number (Number.floor x)
  | .trunc => .number (Number.trunc x)
  | .round => .number (roundHalfUp x)
  | .sign => .number (signOf x)
  | .pow => .number (power x (numberArg args 1 Number.nan))
  | .max => .number (extreme (fun a b => a > b) (-Number.infinity) (comparedNumbers args))
  | .min => .number (extreme (fun a b => a < b) Number.infinity (comparedNumbers args))
  | .random => .number ambient.fraction
  | .randomIdentifier => .string ambient.identifier

end DocExpr.Library
