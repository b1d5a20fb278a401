import DocExpr.Proofs.Text.Occurrence

/-! The pieces of a text between the occurrences of a separator. The occurrences do not overlap, and
each is the first one behind the one before it. Splitting finds these pieces, and replacing puts
the replacement between them, though each of them goes through the text on its own. -/
namespace DocExpr.Text

/-- The text consists of these pieces with the separator between them, and the separator behind a
piece is the first one from the start of the piece on. -/
inductive Separated (separator : List Char) : List Char → List (List Char) → Prop where
  | last {piece : List Char} (free : ∀ i, ¬ OccursAt separator piece i) :
      Separated separator piece [piece]
  | cut {piece rest : List Char} {pieces : List (List Char)}
      (first : ∀ i, OccursAt separator (piece ++ separator ++ rest) i → piece.length ≤ i)
      (later : Separated separator rest pieces) :
      Separated separator (piece ++ separator ++ rest) (piece :: pieces)

section
variable {separator cs : List Char} {pieces : List (List Char)}

theorem OccursAt.append {needle : List Char} {i : Nat} (occurs : OccursAt needle cs i)
    (more : List Char) : OccursAt needle (cs ++ more) i := by
  obtain ⟨front, back, rfl, count⟩ := occurs
  exact ⟨front, back ++ more, List.append_assoc _ back more, count⟩

theorem Separated.ne_nil (separated : Separated separator cs pieces) : pieces ≠ [] := by
  cases separated with
  | last => exact List.cons_ne_nil _ _
  | cut => exact List.cons_ne_nil _ _

theorem intercalate_cons (between piece : List Char) (some : pieces ≠ []) :
    between.intercalate (piece :: pieces) = piece ++ between ++ between.intercalate pieces := by
  obtain ⟨next, others, rfl⟩ := List.exists_cons_of_ne_nil some
  rw [List.intercalate_cons_cons]

/-- With the separator between them the pieces are the text. -/
theorem Separated.intercalate (separated : Separated separator cs pieces) :
    separator.intercalate pieces = cs := by
  induction separated with
  | last => exact List.intercalate_singleton
  | cut first later ih => rw [intercalate_cons _ _ later.ne_nil, ih]

/-- No piece contains the separator. -/
theorem Separated.free (separated : Separated separator cs pieces) (some : separator ≠ [])
    {piece : List Char} (isPiece : piece ∈ pieces) (i : Nat) : ¬ OccursAt separator piece i := by
  have long := List.length_pos_iff.mpr some
  induction separated with
  | last free =>
    rw [List.mem_singleton.mp isPiece]
    exact free i
  | @cut piece' rest pieces first later ih =>
    rcases List.mem_cons.mp isPiece with rfl | isPiece
    · intro occurs
      have inside := occurs.inside
      have behind := first i ((occurs.append separator).append rest)
      omega
    · exact ih isPiece

theorem splitLoop_skip (skip : Nat) (piece cs : List Char) :
    splitLoop separator skip piece cs = splitLoop separator 0 piece (cs.drop skip) := by
  induction cs generalizing skip with
  | nil => rw [List.drop_nil, splitLoop, splitLoop]
  | cons c cs ih =>
    cases skip with
    | zero => rfl
    | succ skip => rw [splitLoop, ih, List.drop_succ_cons]

/-- What starts with the separator is the separator and what a loop goes on with. -/
theorem append_drop_of_startsWith {c : Char} (some : separator ≠ [])
    (starts : startsWith separator (c :: cs) = true) :
    c :: cs = separator ++ cs.drop (separator.length - 1) := by
  obtain ⟨rest, text⟩ := List.isPrefixOf_iff_prefix.mp starts
  obtain ⟨d, ds, rfl⟩ := List.exists_cons_of_ne_nil some
  obtain ⟨rfl, rfl⟩ := List.cons.inj text
  rw [List.length_cons, Nat.add_sub_cancel, List.append_eq, List.drop_left, List.cons_append]

/-- The loop separates what it still has to go through with what it holds, if no separator starts in
what it holds. -/
theorem splitLoop_separated (some : separator ≠ []) (piece cs : List Char)
    (passed : ∀ i < piece.length, ¬ OccursAt separator (piece.reverse ++ cs) i) :
    Separated separator (piece.reverse ++ cs) (splitLoop separator 0 piece cs) := by
  have long := List.length_pos_iff.mpr some
  -- on the length of the text, since the loop goes on behind a whole separator
  induction rest : cs.length using Nat.strong_induction_on generalizing piece cs with
  | _ n ih =>
    cases cs with
    | nil =>
      rw [List.append_nil] at passed ⊢
      rw [splitLoop]
      refine .last fun i occurs => passed i ?_ occurs
      have := occurs.inside
      rw [List.length_reverse] at this
      omega
    | cons c cs =>
      rw [List.length_cons] at rest
      have here : OccursAt separator (piece.reverse ++ c :: cs) piece.length ↔
          startsWith separator (c :: cs) = true := by
        rw [occursAt_iff_startsWith (by simp), List.drop_left' List.length_reverse]
      rw [splitLoop]
      split
      next starts =>
        rw [splitLoop_skip]
        rw [append_drop_of_startsWith some starts, ← List.append_assoc] at passed ⊢
        refine .cut (fun i occurs => ?_) ?_
        · rw [List.length_reverse]
          exact Nat.le_of_not_lt fun before => passed i before occurs
        · have shorter : (cs.drop (separator.length - 1)).length < n := by
            rw [List.length_drop]
            omega
          exact ih _ shorter [] _ (fun i before => absurd before (Nat.not_lt_zero i)) rfl
      next other =>
        have text : piece.reverse ++ c :: cs = (c :: piece).reverse ++ cs := by
          rw [List.reverse_cons, List.append_assoc, List.singleton_append]
        rw [text] at passed here ⊢
        refine ih _ (by omega) (c :: piece) cs (fun i before => ?_) rfl
        rcases Nat.lt_succ_iff_lt_or_eq.mp before with before | rfl
        · exact passed i before
        · exact mt here.mp other

theorem splitOn_separated (some : separator ≠ []) (cs : List Char) :
    Separated separator cs (splitOn separator cs) :=
  splitLoop_separated some [] cs fun i before => absurd before (Nat.not_lt_zero i)

section
variable {needle : List Char} (replacement : List Char)

theorem replaceLoop_skip (skip : Nat) (cs : List Char) :
    replaceLoop needle replacement skip cs = replaceLoop needle replacement 0 (cs.drop skip) := by
  induction cs generalizing skip with
  | nil => rw [List.drop_nil, replaceLoop, replaceLoop]
  | cons c cs ih =>
    cases skip with
    | zero => rfl
    | succ skip => rw [replaceLoop, ih, List.drop_succ_cons]

/-- Up to the first occurrence the loop keeps the text. -/
theorem replaceLoop_front (front rest : List Char)
    (before : ∀ i < front.length, ¬ OccursAt needle (front ++ rest) i) :
    replaceLoop needle replacement 0 (front ++ rest) =
      front ++ replaceLoop needle replacement 0 rest := by
  induction front with
  | nil => rfl
  | cons c front ih =>
    have other : ¬ startsWith needle (c :: (front ++ rest)) = true :=
      mt occursAt_zero.mpr (before 0 (Nat.zero_lt_succ _))
    rw [List.cons_append, replaceLoop, if_neg other, ih, List.cons_append]
    exact fun i isFront => mt occursAt_succ.mpr (before (i + 1) (Nat.succ_lt_succ isFront))

theorem replaceLoop_here (some : needle ≠ []) (rest : List Char) :
    replaceLoop needle replacement 0 (needle ++ rest) =
      replacement ++ replaceLoop needle replacement 0 rest := by
  obtain ⟨c, cs, rfl⟩ := List.exists_cons_of_ne_nil some
  have starts : startsWith (c :: cs) (c :: (cs ++ rest)) = true :=
    List.isPrefixOf_iff_prefix.mpr ⟨rest, rfl⟩
  rw [List.cons_append, replaceLoop, if_pos starts, replaceLoop_skip, List.length_cons,
    Nat.add_sub_cancel, List.drop_left]

/-- The loop puts the replacement between the pieces. -/
theorem Separated.replaceLoop (separated : Separated needle cs pieces) (some : needle ≠ []) :
    replaceLoop needle replacement 0 cs = replacement.intercalate pieces := by
  induction separated with
  | @last piece free =>
    have kept := replaceLoop_front replacement piece [] fun i _ => by
      rw [List.append_nil]
      exact free i
    rw [List.append_nil] at kept
    rw [kept, Text.replaceLoop, List.append_nil, List.intercalate_singleton]
  | @cut piece rest pieces first later ih =>
    rw [List.append_assoc] at first ⊢
    rw [replaceLoop_front replacement piece _ fun i before occurs =>
      absurd (first i occurs) (Nat.not_le_of_lt before), replaceLoop_here replacement some, ih,
      intercalate_cons _ _ later.ne_nil, List.append_assoc]

theorem Separated.replaceAll (separated : Separated needle cs pieces) (some : needle ≠ []) :
    replaceAll needle replacement cs = replacement.intercalate pieces := by
  have filled : ¬ needle.isEmpty = true := mt List.isEmpty_iff.mp some
  rw [Text.replaceAll, if_neg filled, separated.replaceLoop replacement some]

end
end

end DocExpr.Text
