import DocExpr.Regex.Program

/-! Searching with the program of a regex. All ways that may lead to a match are followed at once,
in the order in which they are preferred, so a search takes time proportional to the length of the
text. The match is the leftmost one, and of those that start there the most preferred. -/
namespace DocExpr.Regex

/-- A match: for each group its start and end, the whole match first. -/
structure Match where
  groups : List (Option (Nat × Nat))

def Match.start (m : Match) : Nat := ((m.groups.head?.getD none).getD (0, 0)).1

def Match.stop (m : Match) : Nat := ((m.groups.head?.getD none).getD (0, 0)).2

def isWordAt (ascii : Bool) (c? : Option Char) : Bool :=
  c?.any fun c => Text.isWordChar c && (!ascii || c.toNat < 128)

/-- The assertion holds between two characters, or at an end of the text where there is none. -/
def Assertion.holds (a : Assertion) (before after : Option Char) : Bool :=
  match a with
  | .startText => before.isNone
  | .endText => after.isNone
  | .startLine crlf =>
    before.all fun c => c == '\n' || (crlf && c == '\r' && after != some '\n')
  | .endLine crlf =>
    after.all fun c => (c == '\n' && !(crlf && before == some '\r')) || (crlf && c == '\r')
  | .boundary ascii => isWordAt ascii before != isWordAt ascii after
  | .noBoundary ascii => isWordAt ascii before == isWordAt ascii after
  | .wordStart ascii => !isWordAt ascii before && isWordAt ascii after
  | .wordEnd ascii => isWordAt ascii before && !isWordAt ascii after
  | .halfStart ascii => !isWordAt ascii before
  | .halfEnd ascii => !isWordAt ascii after

/-- Positions noted on the way to an instruction. -/
abbrev Slots := Array (Option Nat)

structure Thread where
  at_ : Nat
  slots : Slots

/-- The ways at one position of the text, the preferred ones first, and which instructions they
have reached. -/
structure Frontier where
  seen : Array Bool
  threads : Array Thread

def Frontier.empty (size : Nat) : Frontier := ⟨Array.replicate size false, #[]⟩

def target (at_ : Nat) (distance : Int) : Nat := (at_ + distance).toNat

/-- Follows a way up to instructions that take a character or accept. An instruction that was
reached before is not followed again, so the size of the program bounds the steps of one way. -/
def follow (p : Program) (before after : Option Char) (position : Nat) :
    Nat → Thread → Frontier → Frontier
  | 0, _, front => front
  | fuel + 1, t, front =>
    if front.seen.getD t.at_ true then front
    else
      let front := { front with seen := front.seen.setIfInBounds t.at_ true }
      let go (at_ : Nat) (slots : Slots) (front : Frontier) : Frontier :=
        follow p before after position fuel ⟨at_, slots⟩ front
      match p.code[t.at_]? with
      | none => front
      | some (.jump d) => go (target t.at_ d) t.slots front
      | some (.split d e) => go (target t.at_ e) t.slots (go (target t.at_ d) t.slots front)
      | some (.save slot) => go (t.at_ + 1) (t.slots.setIfInBounds slot (some position)) front
      | some (.require a) => if a.holds before after then go (t.at_ + 1) t.slots front else front
      | some (.take _) | some .accept => { front with threads := front.threads.push t }

/-- Takes a character along all ways. Returns the ways behind it, and the slots of the most
preferred way that accepts in front of it; ways that are less preferred than that end. -/
def step (p : Program) (text : Array Char) (position : Nat) (threads : List Thread)
    (front : Frontier) : Frontier × Option Slots :=
  match threads with
  | [] => (front, none)
  | t :: threads =>
    match p.code[t.at_]?, text[position]? with
    | some .accept, _ => (front, some t.slots)
    | some (.take s), some c =>
      let front :=
        if s.has c then
          follow p (some c) text[position + 1]? (position + 1) (p.code.size + 1)
            ⟨t.at_ + 1, t.slots⟩ front
        else front
      step p text position threads front
    | _, _ => step p text position threads front

/-- Searches from a position on. `best` is the match found so far; without one a new way starts at
every position. Each round takes one character, so the length of the text bounds the rounds. -/
def searchLoop (p : Program) (text : Array Char) :
    Nat → Nat → Frontier → Option Slots → Option Slots
  | 0, _, _, best => best
  | fuel + 1, position, front, best =>
    let front :=
      if best.isNone then
        let before := if position = 0 then none else text[position - 1]?
        follow p before text[position]? position (p.code.size + 1)
          ⟨0, Array.replicate (2 * p.groups) none⟩ front
      else front
    if front.threads.isEmpty && best.isSome then best
    else
      let (front, found) := step p text position front.threads.toList (.empty p.code.size)
      searchLoop p text fuel (position + 1) front (found.or best)

def Match.ofSlots (groups : Nat) (slots : Slots) : Match :=
  ⟨(List.range groups).map fun i =>
    match slots.getD (2 * i) none, slots.getD (2 * i + 1) none with
    | some a, some b => some (a, b)
    | _, _ => none⟩

/-- The first match at or after a position. -/
def Program.find? (p : Program) (text : Array Char) (start : Nat) : Option Match :=
  if text.size < start then none
  else
    (searchLoop p text (text.size - start + 1) start (.empty p.code.size) none).map
      (.ofSlots p.groups)

def Program.isMatch (p : Program) (text : Array Char) : Bool := (p.find? text 0).isSome

/-- The first match at or after a position that is not an empty one where the last match ended. -/
def Program.findNext? (p : Program) (text : Array Char) (start : Nat) (last : Option Nat) :
    Option Match :=
  match p.find? text start with
  | some m => if m.start = m.stop ∧ last = some m.stop then p.find? text (start + 1) else some m
  | none => none

/-- The matches one after the other, at most `fuel` of them, of which one more than the length of
the text is enough. -/
def matchesLoop (p : Program) (text : Array Char) : Nat → Nat → Option Nat → List Match
  | 0, _, _ => []
  | fuel + 1, start, last =>
    match p.findNext? text start last with
    | some m => m :: matchesLoop p text fuel m.stop (some m.stop)
    | none => []

/-- All matches that do not overlap, from the left. -/
def Program.matches (p : Program) (text : Array Char) : List Match :=
  matchesLoop p text (text.size + 1) 0 none

def slice (text : Array Char) (start stop : Nat) : List Char := (text.extract start stop).toList

def Match.text (m : Match) (text : Array Char) : List Char := slice text m.start m.stop

def Match.texts (m : Match) (text : Array Char) : List (Option (List Char)) :=
  m.groups.map fun g => g.map fun (start, stop) => slice text start stop

/-- The pieces of a text between matches, starting at a position. -/
def piecesFrom (text : Array Char) (start : Nat) : List Match → List (List Char)
  | [] => [slice text start text.size]
  | m :: ms => slice text start m.start :: piecesFrom text m.stop ms

/-- The text with matches replaced, starting at a position. -/
def replaceFrom (text : Array Char) (replacement : Match → List Char) (start : Nat) :
    List Match → List Char
  | [] => slice text start text.size
  | m :: ms =>
    slice text start m.start ++ replacement m ++ replaceFrom text replacement m.stop ms

end DocExpr.Regex
