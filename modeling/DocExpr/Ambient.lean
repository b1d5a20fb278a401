import DocExpr.Calendar.Instant

/-! What an evaluation finds outside of its expression and its document: the time, and chance. -/
namespace DocExpr

/-- The surroundings of one call. -/
structure Ambient where
  /-- The present instant. -/
  now : Calendar.Instant
  /-- A number below `2 ^ 128` that no expression foresees. -/
  chance : Nat

namespace Ambient

/-- Spreads a small number over 128 bits, different numbers to different ones. -/
def scatter (n : Nat) : Nat :=
  let turned := (n + 1) * 0x9e3779b97f4a7c15f39cc0605cedc835 % Nat.pow 2 128
  let folded := turned ^^^ (turned / Nat.pow 2 64)
  folded * 0xda942042e4dd58b5d1342543de82ef95 % Nat.pow 2 128

/-- Surroundings without a clock: the time stands still, and chance depends on the step only. -/
def still (step : Nat) : Ambient := ⟨⟨20454, 43200, 0⟩, scatter step⟩

/-- A number from zero up to one, with the precision of a double. -/
def fraction (a : Ambient) : Float :=
  Float.ofNat (a.chance / Nat.pow 2 75) / Float.ofNat (Nat.pow 2 53)

/-- A digit of an identifier at a place, when chance gave another one: the digit at place 12 tells
that the identifier is random, and the top bits of the one at place 16 name the layout. -/
def identifierDigit (place digit : Nat) : Nat :=
  if place = 12 then 4 else if place = 16 then 8 + digit % 4 else digit % 16

/-- A random identifier: 32 hexadecimal digits in five groups. -/
def identifier (a : Ambient) : String :=
  String.ofList ((List.range 32).flatMap fun i =>
    let digit := Nat.digitChar (identifierDigit i (a.chance / Nat.pow 16 i))
    if [8, 12, 16, 20].contains i then ['-', digit] else [digit])

end Ambient
end DocExpr
