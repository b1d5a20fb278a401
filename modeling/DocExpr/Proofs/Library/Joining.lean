import DocExpr.Proofs.Evaluation.Run
import DocExpr.Proofs.Text.Separation

/-! Splitting a string, joining the pieces and replacing. The pieces between the occurrences of a
separator give the string again with the separator between them, and with another text between them
what replacing the separator gives. -/
namespace DocExpr.Library
open Text (OccursAt Separated)

/-- Pieces of text as an array. -/
def textItems (pieces : List (List Char)) : Value := .array (pieces.map Value.ofChars)

theorem joinedItem_ofChars (cs : List Char) : joinedItem (.ofChars cs) = cs := by
  rw [Value.ofChars, joinedItem, Value.display, String.toList_ofList] <;> nofun

theorem joinText_pieces (separator : List Char) (pieces : List (List Char)) :
    joinText separator (pieces.map Value.ofChars) = separator.intercalate pieces := by
  rw [joinText, Text.joinWith, List.map_map]
  have same : joinedItem ∘ Value.ofChars = id := funext joinedItem_ofChars
  rw [same, List.map_id]

theorem splitText_text (cs : List Char) {separator : String} (some : separator.toList ≠ []) :
    splitText cs [.string separator] =
      .ok (textItems (Text.splitOn separator.toList cs)) := by
  have pieces : splitPieces cs (.string separator) = .ok (Text.splitOn separator.toList cs) := by
    rw [splitPieces, Value.display]
    · split
      next empty => exact absurd empty some
      next => rfl
    · nofun
    · nofun
  change (do
    let pieces ← splitPieces cs (.string separator)
    return textItems pieces) = _
  rw [pieces]
  rfl

theorem intercalate_characters (cs : List Char) :
    ([] : List Char).intercalate (cs.map ([·])) = cs := by
  induction cs with
  | nil => rfl
  | cons c cs ih =>
    cases cs with
    | nil => rfl
    | cons d ds =>
      rw [List.map_cons] at ih
      rw [List.map_cons, List.map_cons, List.intercalate_cons_cons, ih]
      rfl

section
variable (host : Host) (root : Value)

theorem callMethod_join (pieces : List (List Char)) (separator : String) :
    callMethod host root (textItems pieces) "join" [.string separator] =
      pure (.ofChars (separator.toList.intercalate pieces)) := by
  rw [← joinText_pieces]
  rfl

theorem callMethod_replaceAll (s separator replacement : String) :
    callMethod host root (.string s) "replaceAll" [.string separator, .string replacement] =
      pure (.ofChars (Text.replaceAll separator.toList replacement.toList s.toList)) := rfl

/-- Splitting, joining and replacing fit together for every string, separator and replacement. -/
theorem split_join_replace (s separator replacement : String) :
    (separator ≠ "" → ∃ pieces : List (List Char),
      callMethod host root (.string s) "split" [.string separator] = pure (textItems pieces) ∧
      callMethod host root (textItems pieces) "join" [.string separator] = pure (.string s) ∧
      (∀ piece ∈ pieces, ∀ i, ¬ OccursAt separator.toList piece i) ∧
      ∃ v, callMethod host root (textItems pieces) "join" [.string replacement] = pure v ∧
        callMethod host root (.string s) "replaceAll" [.string separator, .string replacement] =
          pure v ∧
        v = .ofChars (replacement.toList.intercalate pieces)) ∧
    ∃ v, callMethod host root (.string s) "split" [.string ""] = pure v ∧
      callMethod host root v "join" [.string ""] = pure (.string s) := by
  refine ⟨fun some => ?_, ?_⟩
  · have some : separator.toList ≠ [] := mt String.toList_eq_nil_iff.mp some
    have separated := Text.splitOn_separated some s.toList
    refine ⟨Text.splitOn separator.toList s.toList, ?_, ?_, fun _ => separated.free some, _,
      callMethod_join host root _ replacement, ?_, rfl⟩
    · change lift (splitText s.toList [.string separator]) = _
      rw [splitText_text _ some]
      rfl
    · rw [callMethod_join, separated.intercalate, Value.ofChars, String.ofList_toList]
    · rw [callMethod_replaceAll, separated.replaceAll _ some]
  · refine ⟨textItems (s.toList.map ([·])), rfl, ?_⟩
    rw [callMethod_join, String.toList_empty, intercalate_characters, Value.ofChars,
      String.ofList_toList]

end

/-- The separator is taken from the left, and a reference is no more than its characters. -/
theorem reference_joined : "aa" ≠ "" ∧ ∀ host root,
    callMethod host root (.string "aaab") "split" [.string "aa"] =
      pure (textItems [[], ['a', 'b']]) ∧
    callMethod host root (textItems [[], ['a', 'b']]) "join" [.string "aa"] =
      pure (.string "aaab") ∧
    callMethod host root (.string "aaab") "replaceAll" [.string "aa", .string "$&"] =
      pure (.string "$&ab") := by
  have some : "aa" ≠ "" := by decide
  refine ⟨some, fun host root => ?_⟩
  obtain ⟨pieces, split, joined, -, v, filled, replaced, -⟩ :=
    (split_join_replace host root "aaab" "aa" "$&").1 some
  have same : textItems pieces = textItems [[], ['a', 'b']] := EvalM.pure_injective split.symm
  rw [same] at split joined filled
  have text : v = .string "$&ab" := EvalM.pure_injective filled.symm
  rw [text] at replaced
  exact ⟨split, joined, replaced⟩

end DocExpr.Library
