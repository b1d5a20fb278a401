/-! Texts by the bytes that they take. -/
namespace DocExpr.Text

def byteCount : List Char → Nat
  | [] => 0
  | c :: cs => c.utf8Size + byteCount cs

/-- A text cut behind its first `n` bytes; none if it has fewer, or if the cut would fall inside a
character. -/
def cutBytes? (n : Nat) : List Char → Option (List Char × List Char)
  | [] => if n = 0 then some ([], []) else none
  | c :: cs =>
    if n = 0 then some ([], c :: cs)
    else if n < c.utf8Size then none
    else (cutBytes? (n - c.utf8Size) cs).map fun (front, rest) => (c :: front, rest)

theorem byteCount_append (cs ds : List Char) :
    byteCount (cs ++ ds) = byteCount cs + byteCount ds := by
  induction cs with
  | nil => exact (Nat.zero_add _).symm
  | cons c cs ih => rw [List.cons_append, byteCount, byteCount, ih, Nat.add_assoc]

theorem byteCount_eq_length {cs : List Char} (narrow : ∀ c ∈ cs, c.utf8Size = 1) :
    byteCount cs = cs.length := by
  induction cs with
  | nil => rfl
  | cons c cs ih =>
    have later := ih fun d isIn => narrow d (List.mem_cons_of_mem c isIn)
    rw [byteCount, narrow c List.mem_cons_self, later, List.length_cons, Nat.add_comm]

/-- A text is cut behind as many bytes as its front has. -/
theorem cutBytes?_front (front rest : List Char) :
    cutBytes? (byteCount front) (front ++ rest) = some (front, rest) := by
  induction front with
  | nil => cases rest <;> rfl
  | cons c front ih =>
    have pos := c.utf8Size_pos
    rw [List.cons_append, byteCount, cutBytes?, if_neg (by omega), if_neg (by omega),
      Nat.add_sub_cancel_left, ih]
    rfl

theorem cutBytes?_parts {n : Nat} {cs front rest : List Char}
    (h : cutBytes? n cs = some (front, rest)) : cs = front ++ rest ∧ byteCount front = n := by
  induction cs generalizing n front with
  | nil =>
    rw [cutBytes?] at h
    split at h
    next none =>
      cases h
      exact ⟨rfl, none.symm⟩
    next => cases h
  | cons c cs ih =>
    rw [cutBytes?] at h
    split at h
    next none =>
      cases h
      exact ⟨rfl, none.symm⟩
    split at h
    next => cases h
    next whole =>
      obtain ⟨⟨front', rest'⟩, cut, same⟩ := Option.map_eq_some_iff.mp h
      cases same
      obtain ⟨rfl, count⟩ := ih cut
      exact ⟨rfl, by rw [byteCount]; omega⟩

/-- A character lies across the place behind `n` bytes. -/
inductive Straddles (n : Nat) : List Char → Prop where
  | mk {front rest : List Char} {c : Char} (starts : byteCount front < n)
      (ends : n < byteCount front + c.utf8Size) : Straddles n (front ++ c :: rest)

theorem cutBytes?_straddles {n : Nat} {cs : List Char} (straddles : Straddles n cs) :
    cutBytes? n cs = none := by
  obtain ⟨starts, ends⟩ := straddles
  rename_i front rest c
  induction front generalizing n with
  | nil =>
    rw [byteCount] at starts ends
    rw [List.nil_append, cutBytes?, if_neg (by omega), if_pos (by omega)]
  | cons d front ih =>
    rw [byteCount] at starts ends
    rw [List.cons_append, cutBytes?, if_neg (by omega), if_neg (by omega),
      ih (by omega) (by omega)]
    rfl

theorem straddles_of_cutBytes? {n : Nat} {cs : List Char} (enough : n ≤ byteCount cs)
    (h : cutBytes? n cs = none) : Straddles n cs := by
  induction cs generalizing n with
  | nil =>
    rw [byteCount] at enough
    rw [cutBytes?, if_pos (by omega)] at h
    cases h
  | cons c cs ih =>
    rw [byteCount] at enough
    rw [cutBytes?] at h
    split at h
    next => cases h
    next some =>
      split at h
      next wide =>
        exact @Straddles.mk n [] cs c (by rw [byteCount]; omega) (by rw [byteCount]; omega)
      next whole =>
        obtain ⟨starts, ends⟩ := ih (by omega) (Option.map_eq_none_iff.mp h)
        rename_i front rest c'
        refine @Straddles.mk n (c :: front) rest c' ?_ ?_
        all_goals
          rw [byteCount]
          omega

end DocExpr.Text
