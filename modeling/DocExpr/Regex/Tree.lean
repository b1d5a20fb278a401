import DocExpr.Regex.CharSet

/-! The tree of a regex, with the measures on which its limits depend. -/
namespace DocExpr.Regex

/-- What must hold between two characters. -/
inductive Assertion where
  | startText
  | endText
  /-- The start of a line; `\r` counts as the end of one too if `crlf` says so. -/
  | startLine (crlf : Bool)
  | endLine (crlf : Bool)
  /-- A word starts or ends here, with the words of ASCII only if `ascii` says so. -/
  | boundary (ascii : Bool)
  | noBoundary (ascii : Bool)
  | wordStart (ascii : Bool)
  | wordEnd (ascii : Bool)
  /-- No word character stands in front. -/
  | halfStart (ascii : Bool)
  /-- No word character follows. -/
  | halfEnd (ascii : Bool)
  deriving DecidableEq, Repr

inductive Tree where
  | empty
  | set (s : CharSet)
  | assertion (a : Assertion)
  /-- A group, with its number if it captures. -/
  | group (index : Option Nat) (body : Tree)
  | sequence (parts : List Tree)
  | choice (parts : List Tree)
  | loop (body : Tree) (least : Nat) (most : Option Nat) (greedy : Bool)

namespace Tree

mutual
/-- The least number of characters of a match. -/
def minLength : Tree → Nat
  | .empty | .assertion _ => 0
  | .set _ => 1
  | .group _ body => minLength body
  | .sequence parts => minLengthSum parts
  | .choice parts => (minLengthMin parts).getD 0
  | .loop body least _ _ => least * minLength body

def minLengthSum : List Tree → Nat
  | [] => 0
  | t :: ts => minLength t + minLengthSum ts

def minLengthMin : List Tree → Option Nat
  | [] => none
  | t :: ts =>
    match minLengthMin ts with
    | none => some (minLength t)
    | some n => some (min (minLength t) n)
end

mutual
def isEmptyOnly : Tree → Bool
  | .empty | .assertion _ => true
  | .set _ => false
  | .group _ body => isEmptyOnly body
  | .sequence parts | .choice parts => areEmptyOnly parts
  | .loop body _ most _ => most == some 0 || isEmptyOnly body

def areEmptyOnly : List Tree → Bool
  | [] => true
  | t :: ts => isEmptyOnly t && areEmptyOnly ts
end

/-- How often a body is taken in a loop with counts. What matches nothing but the empty text is
taken at most once. -/
def loopBounds (body : Tree) (least : Nat) (most : Option Nat) : Nat × Option Nat :=
  if body.isEmptyOnly then (min least 1, some (min (most.getD 1) 1)) else (least, most)

mutual
def nesting : Tree → Nat
  | .empty | .assertion _ => 0
  | .set s => s.nesting
  | .group _ body => nesting body + 1
  | .sequence parts | .choice parts => nestingMax parts + 1
  | .loop body _ _ _ => nesting body + 1

def nestingMax : List Tree → Nat
  | [] => 0
  | t :: ts => max (nesting t) (nestingMax ts)
end

mutual
/-- The set of the characters that a tree matches, where these alone are its matches. -/
def set? : Tree → Option CharSet
  | .set s => some s
  | .group none body => set? body
  | .choice parts => sets? parts
  | _ => none

def sets? : List Tree → Option CharSet
  | [] => some .none
  | t :: ts =>
    match set? t, sets? ts with
    | some s, some others => some (s.union others)
    | _, _ => none
end

/-- The bytes of a loop, in which a body with a count is written out. -/
def loopSize (body : Nat) (nullable : Bool) : Nat → Option Nat → Nat
  | 0, none => if nullable then body + 112 else body + 40
  | least, none => least * body + 40
  | _, some 0 => 32
  | least, some most =>
    if least = most then most * body
    else
      let asked := if least = 0 ∧ most ≠ 1 then 32 else least * body
      asked + 32 + (most - least) * (body + 40)

mutual
/-- An estimate of the bytes of a program. It depends on what a set and a capturing group take. A
choice between single characters is a set. -/
def size (set : CharSet → Nat) (capture : Nat) : Tree → Nat
  | .empty | .assertion _ => 32
  | .set s => set s
  | .group none body => size set capture body
  | .group (some _) body => size set capture body + capture
  | .sequence parts => sizeSum set capture parts
  | .choice parts =>
    match sets? parts with
    | some s => set s.standing
    | none => sizeSum set capture parts + 4 * parts.length + 64
  | .loop body least most _ =>
    let (least, most) := loopBounds body least most
    loopSize (size set capture body) (body.minLength == 0) least most

def sizeSum (set : CharSet → Nat) (capture : Nat) : List Tree → Nat
  | [] => 0
  | t :: ts => size set capture t + sizeSum set capture ts
end

/-- The bytes of what stands around the tree in a program: the way to its start from every position,
and its end. -/
def frameSize : Nat := 144

/-- What a program takes more for noting where a group starts and ends. -/
def captureSize : Nat := 64

/-- The bytes of the larger of two programs. One reads texts backwards and notes no groups. The
other reads them forwards and notes the whole match too. -/
def programSize (t : Tree) : Nat :=
  frameSize + max (t.size (·.backwards) 0) (t.size (·.forwards) captureSize + captureSize)

def nestingLimit : Nat := 250

def sizeLimit : Nat := 10485760

end Tree
end DocExpr.Regex
