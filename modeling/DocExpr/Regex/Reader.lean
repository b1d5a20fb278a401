import DocExpr.Regex.Bracket

/-! Reads the text of a regex. Look-around and references back to groups are refused. The readers of
trees recur on fuel, of which a multiple of the length of the text is enough. -/
namespace DocExpr.Regex

/-- A number in braces, with white space around it. -/
def loopCount? : Read (Option Nat) := do
  skipBlanks
  let digits ← takeSpaced Number.isDigit (← get).rest.length
  skipBlanks
  if digits.isEmpty then return none
  else
    let n := Number.natOfDigits digits
    if n < Nat.pow 2 32 then return some n else refuse

def loopCounts : Read (Nat × Option Nat) := do
  skipSpace
  let least? ← loopCount?
  let counts ←
    if ← skip? "," then do
      skipSpace
      let most? ← loopCount?
      match least?, most?, ← peek? with
      | some least, none, some '\x7d' => pure (least, none)
      | some least, some most, _ => pure (least, some most)
      | _, _, _ => refuse
    else
      match least? with
      | some n => pure (n, some n)
      | none => refuse
  if ← skip? "\x7d" then
    skipSpace
    if counts.2.all (counts.1 ≤ ·) then return counts else refuse
  else refuse

/-- A loop around a tree, where a question mark makes it reluctant. -/
def loopOf (body : Tree) (counts : Nat × Option Nat) : Read Tree := do
  let lazy ← skip? "?"
  return .loop body counts.1 counts.2 (lazy == (← get).flags.swapGreed)

def loopOperator? : Read (Option (Nat × Option Nat)) := do
  if ← skip? "*" then return some (0, none)
  else if ← skip? "+" then return some (1, none)
  else if ← skip? "?" then return some (0, some 1)
  else if ← skip? "\x7b" then return some (← loopCounts)
  else return none

/-- One flag switched on or off; none if the letter is no flag. -/
def Flags.set? (f : Flags) (c : Char) (on : Bool) : Option Flags :=
  match c with
  | 'i' => some { f with ignoreCase := on }
  | 'm' => some { f with multiLine := on }
  | 's' => some { f with dotAll := on }
  | 'R' => some { f with crlf := on }
  | 'U' => some { f with swapGreed := on }
  | 'x' => some { f with verbose := on }
  | 'u' => some { f with unicode := on }
  | _ => none

/-- The flags that a group sets, up to and including its colon or closing parenthesis, and whether
that is a colon. A flag stands once, and so does the minus sign, behind which there is a flag. -/
def groupFlags : Nat → Bool → List Char → Flags → Read (Bool × Flags)
  | 0, _, _, _ => refuse
  | fuel + 1, on, seen, flags => do
    let c ← next
    if c = ':' ∨ c = ')' then
      if seen.head? = some '-' ∨ (c = ')' ∧ seen.isEmpty) then refuse
      else return (c == ':', flags)
    else if seen.contains c then refuse
    else if c = '-' then groupFlags fuel false (c :: seen) flags
    else
      match flags.set? c on with
      | some flags => groupFlags fuel on (c :: seen) flags
      | none => refuse

/-- The name of a group, up to and including the angle bracket behind it. -/
def groupName : Read String := do
  let rest := (← get).rest
  let name := rest.takeWhile (· != '>')
  match name, rest.drop name.length with
  | c :: others, _ :: after =>
    let goesOn (d : Char) : Bool :=
      d == '_' || d == '.' || d == '[' || d == ']' || Text.isAlphanumeric d
    if (c == '_' || Text.isAlphabetic c) && others.all goesOn then
      modify ({ · with rest := after })
      return String.ofList name
    else refuse
  | _, _ => refuse

/-- Opens a capturing group and returns its number. -/
def openGroup (name? : Option String) : Read Nat := do
  let s ← get
  let index := s.groups + 1
  match name? with
  | some name =>
    if (s.names.lookup name).isSome then refuse
    else set { s with groups := index, names := s.names ++ [(name, index)] }
  | none => set { s with groups := index }
  return index

inductive Opening where
  /-- A group, with its number if it captures. -/
  | group (index : Option Nat)
  /-- Flags for the rest of the group around it. -/
  | flags

/-- Reads the start of a group, from behind its parenthesis, and sets the flags in force. -/
def opening : Read Opening := do
  skipSpace
  if (← skip? "?=") || (← skip? "?!") || (← skip? "?<=") || (← skip? "?<!") then refuse
  else if (← skip? "?P<") || (← skip? "?<") then
    return .group (some (← openGroup (some (← groupName))))
  else if ← skip? "?" then
    let s ← get
    let (colon, flags) ← groupFlags (s.rest.length + 1) true [] s.flags
    modify ({ · with flags })
    return if colon then .group none else .flags
  else return .group (some (← openGroup none))

/-- A sequence of parts; a single part is itself. -/
def Tree.ofParts : List Tree → Tree
  | [] => .empty
  | [t] => t
  | ts => .sequence ts

/-- A choice between parts; a single part is itself. -/
def Tree.ofChoices : List Tree → Tree
  | [t] => t
  | ts => .choice ts

def charTree (c : Char) : Read Tree := do
  let s ← foldSet (.single c)
  return .set (if (← get).flags.ignoreCase then s.standing else .literal c)

/-- Any character, but for the ends of lines unless the flags say otherwise. Without Unicode it
would be any byte, which is refused. -/
def dotSet : Read CharSet := do
  let flags := (← get).flags
  let ends (c : Char) : Bool := !flags.dotAll && (c == '\n' || (flags.crlf && c == '\r'))
  complement { has := ends, edges := [10, 11, 13, 14] }

def Escape.tree : Escape → Read Tree
  | .char c => charTree c
  | .set s => return .set s.standing
  | .assertion a => return .assertion a

def atom (c : Char) : Read Tree := do
  let flags := (← get).flags
  match c with
  | '\\' => (← escape).tree
  | '[' => return .set (← bracketSet).standing
  | '.' => return .set (← dotSet).standing
  | '^' => return .assertion (if flags.multiLine then .startLine flags.crlf else .startText)
  | '$' => return .assertion (if flags.multiLine then .endLine flags.crlf else .endText)
  | c => charTree c

mutual
/-- Parts that follow one another, up to a bar, a closing parenthesis or the end; `done` holds the
parts so far, last one first. A loop needs something in front of it that is not only flags. -/
def sequence : Nat → List Tree → Read Tree
  | 0, _ => refuse
  | fuel + 1, done => do
    skipSpace
    match ← loopOperator? with
    | some counts =>
      match done with
      | [] | .empty :: _ => refuse
      | body :: done => sequence fuel ((← loopOf body counts) :: done)
    | none =>
      match ← peek? with
      | none | some '|' | some ')' => return .ofParts done.reverse
      | some '(' =>
        let _ ← next
        sequence fuel ((← group fuel) :: done)
      | some c =>
        let _ ← next
        sequence fuel ((← atom c) :: done)

/-- A group from behind its parenthesis on; flags alone are an empty part. -/
def group : Nat → Read Tree
  | 0 => refuse
  | fuel + 1 => do
    let outer := (← get).flags
    match ← opening with
    | .flags => return .empty
    | .group index =>
      let body ← choices fuel []
      if ← skip? ")" then
        modify ({ · with flags := outer })
        return .group index body
      else refuse

def choices : Nat → List Tree → Read Tree
  | 0, _ => refuse
  | fuel + 1, done => do
    let part ← sequence fuel []
    if ← skip? "|" then choices fuel (part :: done) else return .ofChoices (part :: done).reverse
end

def readTree? (pattern : List Char) : Option (Tree × List (String × Nat)) := do
  let (tree, s) ← (choices (3 * pattern.length + 3) []).run { rest := pattern }
  if s.rest.isEmpty && tree.nesting ≤ Tree.nestingLimit && tree.programSize ≤ Tree.sizeLimit then
    some (tree, s.names)
  else none

end DocExpr.Regex
