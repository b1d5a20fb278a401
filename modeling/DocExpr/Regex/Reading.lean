import DocExpr.Text.Blank
import DocExpr.Text.Occurrence

/-! The state of a reader of regexes, and the steps that all its parts share. The flags in force
are part of the state, so that what is read no longer depends on them. White space and comments
between the parts of a regex are passed over where a flag says so. -/
namespace DocExpr.Regex

structure Flags where
  ignoreCase : Bool := false
  multiLine : Bool := false
  dotAll : Bool := false
  crlf : Bool := false
  swapGreed : Bool := false
  verbose : Bool := false
  unicode : Bool := true

structure Reading where
  rest : List Char
  flags : Flags := {}
  /-- How many capturing groups were opened. -/
  groups : Nat := 0
  /-- The groups with a name. -/
  names : List (String × Nat) := []

/-- A reader, which may refuse the text. -/
abbrev Read := StateT Reading Option

def refuse {α : Type} : Read α := fun _ => none

def peek? : Read (Option Char) := do return (← get).rest.head?

def next : Read Char := do
  match (← get).rest with
  | c :: rest => modify ({ · with rest }); return c
  | [] => refuse

def skip? (lead : String) : Read Bool := do
  match Text.dropPrefix? lead.toList (← get).rest with
  | some rest => modify ({ · with rest }); return true
  | none => return false

/-- Passes over white space, whatever the flags say. -/
def skipBlanks : Read Unit := modify fun s => { s with rest := s.rest.dropWhile Text.isBlank }

/-- Without white space and comments in front. A comment goes from `#` to the end of the line. -/
def dropVerbose (inComment : Bool) : List Char → List Char
  | [] => []
  | c :: cs =>
    if inComment then dropVerbose (c != '\n') cs
    else if Text.isBlank c then dropVerbose false cs
    else if c = '#' then dropVerbose true cs
    else c :: cs

/-- Passes over white space and comments where the flags say so. -/
def skipSpace : Read Unit :=
  modify fun s => if s.flags.verbose then { s with rest := dropVerbose false s.rest } else s

/-- That many characters, and white space and comments behind each. -/
def takeCount : Nat → Read (List Char)
  | 0 => return []
  | n + 1 => do
    let c ← next
    skipSpace
    return c :: (← takeCount n)

/-- The characters that meet a condition, with white space and comments behind each. The length of
the text is enough fuel. -/
def takeSpaced (p : Char → Bool) : Nat → Read (List Char)
  | 0 => return []
  | fuel + 1 => do
    match ← peek? with
    | some c =>
      if p c then
        let _ ← next
        skipSpace
        return c :: (← takeSpaced p fuel)
      else return []
    | none => return []

/-- The characters up to a closing one, which is passed over, but no white space and comments. -/
def takeUntil (close : Char) : Read (List Char) := do
  skipSpace
  let cs ← takeSpaced (· != close) (← get).rest.length
  let _ ← next
  return cs

end DocExpr.Regex
