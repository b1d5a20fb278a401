import DocExpr.Regex.Reader

/-! The program of a regex: instructions that a search follows along all ways at once. Targets are
relative, so that the code of a tree is put together from the code of its parts. -/
namespace DocExpr.Regex

inductive Instr where
  /-- Takes a character of the set. -/
  | take (s : CharSet)
  /-- Goes two ways, the first of them preferred. -/
  | split (first second : Int)
  | jump (distance : Int)
  /-- Notes the position in a slot. -/
  | save (slot : Nat)
  | require (a : Assertion)
  | accept

/-- A split that prefers the first way when the loop is greedy. -/
def Instr.branch (greedy : Bool) (into past : Int) : Instr :=
  if greedy then .split into past else .split past into

def plusCode (greedy : Bool) (body : List Instr) : List Instr :=
  body ++ [.branch greedy (-(body.length : Int)) 1]

def optionalCode (greedy : Bool) (body : List Instr) : List Instr :=
  .branch greedy 1 (body.length + 1) :: body

/-- Any number of times. A body that may match nothing is taken once or more, or not at all, which
keeps the order of preference. -/
def starCode (greedy nullable : Bool) (body : List Instr) : List Instr :=
  if nullable then optionalCode greedy (plusCode greedy body)
  else .branch greedy 1 (body.length + 2) :: body ++ [.jump (-(body.length + 1 : Int))]

/-- At most a number of times, one inside the other. -/
def atMostCode (greedy : Bool) (body : List Instr) : Nat → List Instr
  | 0 => []
  | n + 1 => optionalCode greedy (body ++ atMostCode greedy body n)

def loopCode (greedy nullable : Bool) (body : List Instr) (least : Nat) (most : Option Nat) :
    List Instr :=
  match most with
  | some most =>
    (List.replicate least body).flatten ++ atMostCode greedy body (most - least)
  | none =>
    match least with
    | 0 => starCode greedy nullable body
    | least + 1 => (List.replicate least body).flatten ++ plusCode greedy body

def choiceCode : List (List Instr) → List Instr
  | [] => []
  | [code] => code
  | code :: codes =>
    let rest := choiceCode codes
    .split 1 (code.length + 2) :: code ++ .jump (rest.length + 1) :: rest

mutual
def Tree.code : Tree → List Instr
  | .empty => []
  | .set s => [.take s]
  | .assertion a => [.require a]
  | .group none body => code body
  | .group (some i) body => .save (2 * i) :: code body ++ [.save (2 * i + 1)]
  | .sequence parts => (codes parts).flatten
  | .choice parts => choiceCode (codes parts)
  | .loop body least most greedy =>
    let (least, most) := body.loopBounds least most
    loopCode greedy (body.minLength == 0) (code body) least most

def Tree.codes : List Tree → List (List Instr)
  | [] => []
  | t :: ts => code t :: codes ts
end

/-- A regex that can be searched for. -/
structure Program where
  code : Array Instr
  /-- The number of groups, the whole match among them. -/
  groups : Nat
  /-- The groups with a name. -/
  names : List (String × Nat)

def savedSlots (code : List Instr) : List Nat :=
  code.filterMap fun
    | .save slot => some slot
    | _ => none

/-- The program of a tree with named groups. Groups of which no code is left are gone. -/
def Program.ofTree (tree : Tree) (names : List (String × Nat)) : Program :=
  let code := .save 0 :: tree.code ++ [.save 1, .accept]
  let slots := savedSlots code
  ⟨code.toArray, slots.foldl max 0 / 2 + 1, names.filter fun (_, i) => slots.contains (2 * i)⟩

/-- The text of a regex with those of its flags in front that have a meaning inside one. -/
def withFlags (pattern flags : List Char) : List Char :=
  match flags.filter fun c => c == 'i' || c == 'm' || c == 's' with
  | [] => pattern
  | inner => "(?".toList ++ inner ++ ')' :: pattern

def compile? (pattern flags : String) : Option Program :=
  (readTree? (withFlags pattern.toList flags.toList)).map fun (tree, names) => .ofTree tree names

end DocExpr.Regex
