import DocExpr.Library.Text
import DocExpr.Proofs.Regex.Literal

/-! The matches of the program of a text are the occurrences of the text, so replacing the one is
replacing the other: all of them, or the first; also for the empty text, which occurs in front of
every character and at the end. -/
namespace DocExpr.Regex
open Text (OccursAt Finds Separated)

/-- The match of a needle at a place. -/
def occurrence (needle : List Char) (a : Nat) : Match := ⟨[some (a, a + needle.length)]⟩

section
variable {p : Program} {needle : List Char} (takes : p.Takes needle) {text : Array Char}
  {start : Nat}
include takes

theorem find?_least {a : Nat} (within : start ≤ text.size)
    (least : IsLeast {a | start ≤ a ∧ OccursAt needle text.toList a} a) :
    p.find? text start = some (occurrence needle a) := by
  obtain ⟨r, finds, found⟩ := find?_takes takes within
  have same : r = some a := finds.least_unique least
  rw [found, same]
  rfl

theorem find?_none (within : start ≤ text.size)
    (free : ∀ a, start ≤ a → ¬ OccursAt needle text.toList a) : p.find? text start = none := by
  obtain ⟨r, finds, found⟩ := find?_takes takes within
  have same : r = none := finds.least_unique
    (Set.eq_empty_of_forall_notMem fun a ⟨later, occurs⟩ => free a later occurs)
  rw [found, same]
  rfl

theorem find?_indexOf? :
    p.find? text 0 = (Text.indexOf? needle text.toList 0).map (occurrence needle) := by
  obtain ⟨r, finds, found⟩ := find?_takes takes (Nat.zero_le text.size)
  rw [found, finds.least_unique (Text.indexOf?_finds needle (Nat.zero_le text.toList.length))]
  rfl

theorem replaceFrom_first (replacement : List Char) :
    replaceFrom text (fun _ => replacement) 0 (p.find? text 0).toList =
      Text.replaceFirst needle replacement text.toList := by
  rw [find?_indexOf? takes, Text.replaceFirst]
  cases Text.indexOf? needle text.toList 0 with
  | none => exact slice_from text 0
  | some a =>
    change slice text 0 a ++ replacement ++ slice text (a + needle.length) text.size = _
    rw [slice_upto, slice_from]

/-- Behind a match of a needle that is not empty the search goes on. -/
theorem matchesLoop_cons (filled : needle ≠ []) {a : Nat} (within : start ≤ text.size)
    (least : IsLeast {a | start ≤ a ∧ OccursAt needle text.toList a} a) (fuel : Nat)
    (last : Option Nat) :
    matchesLoop p text (fuel + 1) start last = occurrence needle a ::
      matchesLoop p text fuel (a + needle.length) (some (a + needle.length)) := by
  have long := List.length_pos_iff.mpr filled
  have moved : ¬ ((occurrence needle a).start = (occurrence needle a).stop ∧
      last = some (occurrence needle a).stop) := by
    rintro ⟨same, -⟩
    change a = a + needle.length at same
    omega
  rw [matchesLoop, Program.findNext?, find?_least takes within least]
  simp only [if_neg moved]
  rfl

theorem replaceFrom_separated (filled : needle ≠ []) (replacement : List Char)
    {pieces : List (List Char)} (separated : Separated needle (text.toList.drop start) pieces)
    (within : start ≤ text.size) (fuel : Nat) (enough : text.size ≤ start + fuel)
    (last : Option Nat) :
    replaceFrom text (fun _ => replacement) start (matchesLoop p text (fuel + 1) start last) =
      replacement.intercalate pieces := by
  have long := List.length_pos_iff.mpr filled
  generalize rest : text.toList.drop start = cs at separated
  -- on the pieces; each match takes the search to the start of the next piece
  induction separated generalizing start fuel last with
  | @last piece free =>
    have nowhere (a : Nat) (later : start ≤ a) : ¬ OccursAt needle text.toList a := by
      obtain ⟨i, rfl⟩ := Nat.exists_eq_add_of_le later
      rw [← Text.occursAt_drop within, rest]
      exact free i
    rw [matchesLoop, Program.findNext?, find?_none takes within nowhere,
      List.intercalate_singleton, ← rest]
    exact slice_from text start
  | @cut piece after pieces first later ih =>
    have occurs : OccursAt needle text.toList (start + piece.length) := by
      rw [← Text.occursAt_drop within, rest]
      exact ⟨piece, after, rfl, rfl⟩
    have inside : start + piece.length + needle.length ≤ text.size := occurs.inside
    have least :
        IsLeast {a | start ≤ a ∧ OccursAt needle text.toList a} (start + piece.length) := by
      refine ⟨⟨Nat.le_add_right _ _, occurs⟩, ?_⟩
      rintro a ⟨later, here⟩
      obtain ⟨i, rfl⟩ := Nat.exists_eq_add_of_le later
      rw [← Text.occursAt_drop within, rest] at here
      exact Nat.add_le_add_left (first i here) start
    obtain ⟨fuel, rfl⟩ : ∃ m, fuel = m + 1 := ⟨fuel - 1, by omega⟩
    have behind : text.toList.drop (start + piece.length + needle.length) = after := by
      rw [Nat.add_assoc, ← List.drop_drop, rest, ← List.length_append, List.drop_left]
    have front : slice text start (start + piece.length) = piece := by
      rw [slice_eq, Nat.add_sub_cancel_left, rest, List.append_assoc, List.take_left]
    rw [matchesLoop_cons takes filled within least]
    change slice text start (start + piece.length) ++ replacement ++
      replaceFrom text _ (start + piece.length + needle.length) _ = _
    rw [front, ih inside fuel (by omega) _ behind, Text.intercalate_cons _ _ later.ne_nil]

end

section
variable {p : Program} (takes : p.Takes []) {text : Array Char} {i : Nat}
include takes

/-- The empty text occurs at every position. -/
theorem find?_empty (within : i ≤ text.size) : p.find? text i = some (occurrence [] i) :=
  find?_least takes within ⟨⟨Nat.le_refl i, Text.occursAt_nil.mpr within⟩, fun _ isIn => isIn.1⟩

/-- Behind a match of the empty text the next one is at the next position. -/
theorem replaceFrom_characters (replacement : List Char) (count : Nat)
    (ends : i + count = text.size) :
    replaceFrom text (fun _ => replacement) i (matchesLoop p text count i (some i)) =
      (text.toList.drop i).flatMap (fun c => c :: replacement) := by
  induction count generalizing i with
  | zero =>
    have nothing : text.toList.drop i = [] := List.drop_of_length_le (Nat.le_of_eq ends.symm)
    rw [matchesLoop, replaceFrom, slice_from, nothing]
    rfl
  | succ count ih =>
    have inside : i < text.toList.length := by
      rw [Array.length_toList]
      omega
    have here : ((occurrence [] i).start = (occurrence [] i).stop ∧
        some i = some (occurrence [] i).stop) := ⟨rfl, rfl⟩
    rw [matchesLoop, Program.findNext?, find?_empty takes (by omega)]
    simp only [if_pos here]
    rw [find?_empty takes (by omega)]
    change slice text i (i + 1) ++ replacement ++
      replaceFrom text _ (i + 1) (matchesLoop p text count (i + 1) (some (i + 1))) = _
    rw [ih (by omega), slice_eq, Nat.add_sub_cancel_left, List.drop_eq_getElem_cons inside,
      List.flatMap_cons]
    rfl

end

/-- Replacing all matches of the program of a text is replacing all occurrences of the text. -/
theorem replaceFrom_matches {p : Program} {needle : List Char} (takes : p.Takes needle)
    (text : Array Char) (replacement : List Char) :
    replaceFrom text (fun _ => replacement) 0 (p.matches text) =
      Text.replaceAll needle replacement text.toList := by
  rw [Program.matches]
  by_cases filled : needle = []
  · subst filled
    rw [matchesLoop, Program.findNext?, find?_empty takes (Nat.zero_le _)]
    change slice text 0 0 ++ replacement ++
      replaceFrom text _ 0 (matchesLoop p text text.size 0 (some 0)) = _
    rw [replaceFrom_characters takes replacement text.size (Nat.zero_add _), slice_upto]
    rfl
  · have separated := Text.splitOn_separated filled (text.toList.drop 0)
    have pieces : Text.replaceAll needle replacement text.toList = _ :=
      separated.replaceAll replacement filled
    rw [pieces]
    exact replaceFrom_separated takes filled replacement separated (Nat.zero_le _) _
      (Nat.le_of_eq (Nat.zero_add _).symm) none

end DocExpr.Regex
