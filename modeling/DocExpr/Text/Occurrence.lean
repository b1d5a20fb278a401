/-! Occurrences of one text in another: the first and the last, the pieces between them, and
replacing them. Positions count characters. -/
namespace DocExpr.Text

def startsWith (needle cs : List Char) : Bool := needle.isPrefixOf cs

/-- The rest after `lead`, if that stands at the front. -/
def dropPrefix? (lead cs : List Char) : Option (List Char) :=
  match lead, cs with
  | [], cs => some cs
  | p :: lead, c :: cs => if p = c then dropPrefix? lead cs else none
  | _ :: _, [] => none

theorem dropPrefix?_eq_some_iff {lead cs rest : List Char} :
    dropPrefix? lead cs = some rest ↔ cs = lead ++ rest := by
  induction lead generalizing cs with
  | nil => simp [dropPrefix?]
  | cons p lead ih =>
    cases cs with
    | nil => simp [dropPrefix?]
    | cons c cs =>
      by_cases same : p = c
      · simp [dropPrefix?, same, ih]
      · simp [dropPrefix?, same, Ne.symm same]

/-- The text before `tail`, if that stands at the end. -/
def dropSuffix? (tail cs : List Char) : Option (List Char) :=
  (dropPrefix? tail.reverse cs.reverse).map List.reverse

theorem dropSuffix?_eq_some_iff {tail cs front : List Char} :
    dropSuffix? tail cs = some front ↔ cs = front ++ tail := by
  simp only [dropSuffix?, Option.map_eq_some_iff, dropPrefix?_eq_some_iff]
  constructor
  · rintro ⟨rest, split, rfl⟩
    simpa using congrArg List.reverse split
  · rintro rfl
    exact ⟨front.reverse, by simp, by simp⟩

/-- The first occurrence in a text whose first character has the position `i`. -/
def findFrom? (needle : List Char) (i : Nat) (cs : List Char) : Option Nat :=
  if startsWith needle cs then some i
  else match cs with
    | [] => none
    | _ :: cs => findFrom? needle (i + 1) cs

/-- The position of the first occurrence at or after `start`. -/
def indexOf? (needle cs : List Char) (start : Nat) : Option Nat :=
  findFrom? needle start (cs.drop start)

/-- The last occurrence at or before `bound` in a text whose first character has the position `i`,
or `best` if there is none. -/
def findLast (needle : List Char) (bound i : Nat) (best : Option Nat) (cs : List Char) :
    Option Nat :=
  if bound < i then best
  else
    let best := if startsWith needle cs then some i else best
    match cs with
    | [] => best
    | _ :: cs => findLast needle bound (i + 1) best cs

/-- The position of the last occurrence at or before `bound`. -/
def lastIndexOf? (needle cs : List Char) (bound : Nat) : Option Nat :=
  findLast needle bound 0 none cs

/-- The pieces between the occurrences of a separator, which do not overlap and are taken from the
left. `skip` counts characters that still belong to the separator; `piece` holds the characters of
the current piece, last one first. -/
def splitLoop (separator : List Char) (skip : Nat) (piece : List Char) : List Char →
    List (List Char)
  | [] => [piece.reverse]
  | c :: cs =>
    match skip with
    | skip + 1 => splitLoop separator skip piece cs
    | 0 =>
      if startsWith separator (c :: cs) then
        piece.reverse :: splitLoop separator (separator.length - 1) [] cs
      else splitLoop separator 0 (c :: piece) cs

/-- The pieces between the occurrences of a separator that is not empty. -/
def splitOn (separator cs : List Char) : List (List Char) := splitLoop separator 0 [] cs

def joinWith (separator : List Char) (pieces : List (List Char)) : List Char :=
  separator.intercalate pieces

/-- A text with the occurrences of a needle replaced, which do not overlap and are taken from the
left. `skip` counts characters that still belong to the needle. -/
def replaceLoop (needle replacement : List Char) (skip : Nat) : List Char → List Char
  | [] => []
  | c :: cs =>
    match skip with
    | skip + 1 => replaceLoop needle replacement skip cs
    | 0 =>
      if startsWith needle (c :: cs) then
        replacement ++ replaceLoop needle replacement (needle.length - 1) cs
      else c :: replaceLoop needle replacement 0 cs

/-- Every occurrence replaced. The empty text occurs before each character and at the end. -/
def replaceAll (needle replacement cs : List Char) : List Char :=
  if needle.isEmpty then replacement ++ cs.flatMap (fun c => c :: replacement)
  else replaceLoop needle replacement 0 cs

def replaceFirst (needle replacement cs : List Char) : List Char :=
  match indexOf? needle cs 0 with
  | some i => cs.take i ++ replacement ++ cs.drop (i + needle.length)
  | none => cs

end DocExpr.Text
