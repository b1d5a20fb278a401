import DocExpr.Proofs.Regex.Occurrences
import DocExpr.Proofs.Regex.Quoted

/-! The two ways of replacing, by a function and by text, look for the same matches: those of a
regex, or of the regex of a text, which are the occurrences of the text. The text puts the same in
the place of each of them, unless it refers to what a regex has matched. -/
namespace DocExpr.Regex

theorem bracedReferences_plain {cs : List Char} (plain : '$' ∉ cs) :
    bracedReferences 0 cs = cs := by
  induction cs with
  | nil => rfl
  | cons c cs ih =>
    obtain ⟨other, plain⟩ := not_or.mp (mt List.mem_cons.mpr plain)
    rw [bracedReferences.eq_def]
    dsimp only
    rw [if_pos (Ne.symm other), ih plain]

theorem expand_plain (p : Program) (texts : List (Option (List Char))) {cs : List Char}
    (plain : '$' ∉ cs) : expand p texts 0 cs = cs := by
  induction cs with
  | nil => rfl
  | cons c cs ih =>
    obtain ⟨other, plain⟩ := not_or.mp (mt List.mem_cons.mpr plain)
    rw [expand.eq_def]
    dsimp only
    rw [if_pos (Ne.symm other), ih plain]

/-- A text without dollar signs stands for itself at every match. -/
theorem replacementText_plain (p : Program) (text : Array Char) {template : List Char}
    (plain : '$' ∉ template) : replacementText p text template = fun _ => template := by
  funext m
  rw [replacementText, bracedReferences_plain plain, expand_plain p _ plain]

theorem compile?_framed {pattern flags : String} {p : Program}
    (compiled : compile? pattern flags = some p) : p.Framed := by
  obtain ⟨⟨tree, names⟩, -, rfl⟩ := Option.map_eq_some_iff.mp compiled
  exact Program.framed_ofTree tree names

theorem matchesLoop_length (p : Program) (text : Array Char) (fuel start : Nat)
    (last : Option Nat) : (matchesLoop p text fuel start last).length ≤ fuel := by
  induction fuel generalizing start last with
  | zero => exact Nat.le_refl 0
  | succ fuel ih =>
    rw [matchesLoop]
    split
    next m found => exact Nat.succ_le_succ (ih _ _)
    next => exact Nat.zero_le _

end DocExpr.Regex

namespace DocExpr.Library
open Regex (Program InOrder slice replaceFrom)

theorem chosenMatches_inOrder {p : Program} (framed : p.Framed) (text : Array Char) (all : Bool) :
    InOrder text.size 0 (chosenMatches p text all) := by
  unfold chosenMatches
  split
  · exact Regex.matchesLoop_inOrder framed text _ (Nat.zero_le _) none
  · cases found : p.find? text 0 with
    | none => exact .nil 0 (Nat.zero_le _)
    | some m =>
      have lies := p.find?_lies framed found
      exact .cons lies (.nil _ lies.ends)

theorem chosenMatches_length (p : Program) (text : Array Char) (all : Bool) :
    (chosenMatches p text all).length ≤ text.size + 1 := by
  unfold chosenMatches
  split
  · exact Regex.matchesLoop_length p text _ 0 none
  · cases p.find? text 0 with
    | none => exact Nat.zero_le _
    | some m => exact Nat.succ_le_succ (Nat.zero_le _)

/-- The matches of the program of a text are replaced as its occurrences are. -/
theorem replaceFrom_chosen (needle : List Char) (text : Array Char) (all : Bool)
    (replacement : List Char) :
    replaceFrom text (fun _ => replacement) 0
        (chosenMatches (Regex.literalProgram needle) text all) =
      if all then Text.replaceAll needle replacement text.toList
        else Text.replaceFirst needle replacement text.toList := by
  have takes := Regex.literalProgram_takes needle
  unfold chosenMatches
  split
  · exact Regex.replaceFrom_matches takes text replacement
  · exact Regex.replaceFrom_first takes replacement

/-- A regex that compiles, or a text that is not too long for one. -/
inductive Replaceable : Value → Prop where
  | text (needle : String) (short : needle.utf8ByteSize ≤ Regex.longestLiteral) :
      Replaceable (.string needle)
  | regex (pattern flags : String) (compiles : (Regex.compile? pattern flags).isSome = true) :
      Replaceable (.regex pattern flags)

/-- The text refers to nothing: where a regex is replaced, it has no dollar signs. -/
def Unreferring (pattern : Value) (r : String) : Prop :=
  ∀ p flags, pattern = .regex p flags → '$' ∉ r.toList

theorem replacedRegex_regex (pattern flags : String) :
    replacedRegex (.regex pattern flags) =
      (compileRegex pattern flags).map fun program => (program, flags.toList.contains 'g') := rfl

theorem replacedRegex_string (needle : String) :
    replacedRegex (.string needle) =
      (compileRegex (String.ofList (Regex.quoted needle.toList)) "").map
        fun program => (program, false) := rfl

theorem replacedRegex_text (needle : String) :
    replacedRegex (.string needle) =
      if needle.utf8ByteSize ≤ Regex.longestLiteral then
        .ok (Regex.literalProgram needle.toList, false)
      else typeError (.badRegex (String.ofList (Regex.quoted needle.toList))) := by
  rw [replacedRegex_string, compileRegex, Regex.compile?_quoted, String.utf8Len_toList]
  by_cases short : needle.utf8ByteSize ≤ Regex.longestLiteral
  · rw [if_pos short, if_pos short]
    rfl
  · rw [if_neg short, if_neg short]
    rfl

/-- Both ways look for the matches of one program. -/
theorem Replaceable.routes {pattern : Value} (replaceable : Replaceable pattern) (cs : List Char)
    (all : Bool) : ∃ (p : Program) (everywhere : Bool), p.Framed ∧
      replacedRegex pattern = .ok (p, everywhere) ∧
      ∀ r, Unreferring pattern r → replaceWithText cs all pattern r.toList =
        .ok (.ofChars (replaceFrom cs.toArray (fun _ => r.toList) 0
          (chosenMatches p cs.toArray (all || everywhere)))) := by
  cases replaceable with
  | text needle short =>
    refine ⟨Regex.literalProgram needle.toList, false, Program.framed_ofTree _ _, ?_, fun r _ => ?_⟩
    · rw [replacedRegex_text, if_pos short]
    · rw [Bool.or_false, replaceFrom_chosen]
      rfl
  | regex pattern flags compiles =>
    obtain ⟨p, compiled⟩ := Option.isSome_iff_exists.mp compiles
    have program : compileRegex pattern flags = .ok p := by rw [compileRegex, compiled]
    refine ⟨p, flags.toList.contains 'g', Regex.compile?_framed compiled, ?_, fun r plain => ?_⟩
    · rw [replacedRegex_regex, program]
      rfl
    · rw [replaceWithText, program,
        ← Regex.replacementText_plain p cs.toArray (plain pattern flags rfl)]
      rfl

end DocExpr.Library
