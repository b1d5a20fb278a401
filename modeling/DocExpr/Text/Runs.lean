/-! Tables of characters. A class of characters is a list of stretches, each with its first and
last code point and the step between members; a case mapping adds the image of the first. Some
classes are properties that are found by name. -/
namespace DocExpr.Text

/-- Stretches of code points: first, last and step. -/
abbrev Runs := List (Nat × Nat × Nat)

def Runs.has (runs : Runs) (c : Char) : Bool :=
  runs.any fun (first, last, step) =>
    first ≤ c.toNat && c.toNat ≤ last && (c.toNat - first) % step == 0

/-- The code points where members begin, and those behind the last of them. -/
def Runs.edges (runs : Runs) : List Nat :=
  runs.flatMap fun (first, last, step) =>
    if step = 1 then [first, last + 1]
    else (List.range ((last - first) / step + 1)).flatMap fun i =>
      [first + i * step, first + i * step + 1]

structure CharClass where
  has : Char → Bool
  /-- Code points among which are all where members begin, and those behind the last of them. A
  class that is given by a rule leaves them open. -/
  edges : Option (List Nat)

def Runs.toClass (runs : Runs) : CharClass := ⟨runs.has, runs.edges⟩

def CharClass.ofRule (has : Char → Bool) : CharClass := ⟨has, none⟩

/-- Stretches of code points that are moved by the same distance: first, last, step, and the image
of the first. -/
abbrev Shifts := List (Nat × Nat × Nat × Nat)

/-- The image of a character, which is itself outside the stretches. -/
def Shifts.apply (shifts : Shifts) (c : Char) : Char :=
  let hit := shifts.find? fun (first, last, step, _) =>
    first ≤ c.toNat && c.toNat ≤ last && (c.toNat - first) % step == 0
  match hit with
  | some (first, _, _, image) => Char.ofNat (image + (c.toNat - first))
  | none => c

/-- The characters with this image, in the order of the table. -/
def Shifts.sources (shifts : Shifts) (c : Char) : List Char :=
  shifts.filterMap fun (first, last, step, image) =>
    if image ≤ c.toNat && c.toNat ≤ image + (last - first) && (c.toNat - image) % step == 0 then
      some (Char.ofNat (first + (c.toNat - image)))
    else none

/-- Properties of characters: their names, in small letters and without separators, and the
characters that have them. -/
abbrev Properties := List (List String × CharClass)

def Properties.named? (properties : Properties) (name : String) : Option CharClass :=
  (properties.find? fun (names, _) => names.contains name).map (·.2)

end DocExpr.Text
