import DocExpr.Text.Occurrence
import Mathlib.Order.Bounds.Basic

/-! Where a text occurs in another one, apart from how it is looked for: with some characters in
front of it and some behind. The searches find the first such position behind a start and the last
one before a bound. A search that compares windows of the text, as long as the needle, finds the
same, and none of its windows leaves the text. -/
namespace DocExpr.Text

/-- The needle stands in the text, with so many characters in front of it. -/
def OccursAt (needle cs : List Char) (i : Nat) : Prop :=
  ∃ front back, cs = front ++ needle ++ back ∧ front.length = i

section
variable {needle cs : List Char} {c : Char} {i start bound : Nat}

theorem OccursAt.inside (occurs : OccursAt needle cs i) : i + needle.length ≤ cs.length := by
  obtain ⟨front, back, rfl, rfl⟩ := occurs
  simp only [List.length_append]
  omega

theorem occursAt_zero : OccursAt needle cs 0 ↔ startsWith needle cs = true := by
  rw [startsWith, List.isPrefixOf_iff_prefix]
  constructor
  · rintro ⟨front, back, rfl, empty⟩
    rw [List.length_eq_zero_iff.mp empty]
    exact ⟨back, rfl⟩
  · rintro ⟨back, rfl⟩
    exact ⟨[], back, rfl, rfl⟩

theorem occursAt_succ : OccursAt needle (c :: cs) (i + 1) ↔ OccursAt needle cs i := by
  constructor
  · rintro ⟨front, back, text, count⟩
    cases front with
    | nil => cases count
    | cons d front =>
      cases text
      exact ⟨front, back, rfl, Nat.succ.inj count⟩
  · rintro ⟨front, back, rfl, rfl⟩
    exact ⟨c :: front, back, rfl, rfl⟩

theorem occursAt_drop (within : start ≤ cs.length) :
    OccursAt needle (cs.drop start) i ↔ OccursAt needle cs (start + i) := by
  induction start generalizing cs with
  | zero => rw [List.drop_zero, Nat.zero_add]
  | succ start ih =>
    cases cs with
    | nil => exact absurd within (Nat.not_succ_le_zero start)
    | cons c cs =>
      rw [List.drop_succ_cons, ih (Nat.le_of_succ_le_succ within), Nat.succ_add, occursAt_succ]

theorem occursAt_iff_startsWith (within : i ≤ cs.length) :
    OccursAt needle cs i ↔ startsWith needle (cs.drop i) = true := by
  rw [← occursAt_zero, occursAt_drop within, Nat.add_zero]

theorem occursAt_nil : OccursAt [] cs i ↔ i ≤ cs.length := by
  refine ⟨OccursAt.inside, fun within => ?_⟩
  rw [occursAt_iff_startsWith within]
  rfl

/-- In the empty text only the empty text occurs. -/
theorem OccursAt.eq_zero (occurs : OccursAt needle [] i) : i = 0 := by
  have := occurs.inside
  rw [List.length_nil] at this
  omega

/-- The needle ends where the front of the text ends. -/
theorem dropSuffix?_take_isSome (within : bound ≤ cs.length) :
    (dropSuffix? needle (cs.take bound)).isSome = true ↔
      ∃ i, i + needle.length = bound ∧ OccursAt needle cs i := by
  rw [Option.isSome_iff_exists]
  simp only [dropSuffix?_eq_some_iff]
  constructor
  · rintro ⟨front, text⟩
    refine ⟨front.length, ?_, front, cs.drop bound, ?_, rfl⟩
    · have := congrArg List.length text
      rw [List.length_take_of_le within, List.length_append] at this
      exact this.symm
    · rw [← text, List.take_append_drop]
  · rintro ⟨_, rfl, front, back, rfl, rfl⟩
    exact ⟨front, List.take_left' List.length_append⟩

end

/-- What is found is the best one of the positions, and nothing only if there are none. -/
def Finds (best : Set Nat → Nat → Prop) (positions : Set Nat) : Option Nat → Prop
  | some i => best positions i
  | none => positions = ∅

section
variable {best : Set Nat → Nat → Prop} {positions : Set Nat} {r r' : Option Nat}

/-- Two searches find the same, if there is but one best position. -/
theorem Finds.unique (finds : Finds best positions r) (finds' : Finds best positions r')
    (isIn : ∀ i, best positions i → i ∈ positions)
    (one : ∀ i j, best positions i → best positions j → i = j) : r = r' := by
  cases r with
  | none =>
    cases r' with
    | none => rfl
    | some j => exact absurd finds (Set.Nonempty.ne_empty ⟨j, isIn j finds'⟩)
  | some i =>
    cases r' with
    | none => exact absurd finds' (Set.Nonempty.ne_empty ⟨i, isIn i finds⟩)
    | some j => exact congrArg some (one i j finds finds')

theorem Finds.least_unique (finds : Finds IsLeast positions r)
    (finds' : Finds IsLeast positions r') : r = r' :=
  finds.unique finds' (fun _ least => least.1) fun _ _ least least' => least.unique least'

theorem Finds.greatest_unique (finds : Finds IsGreatest positions r)
    (finds' : Finds IsGreatest positions r') : r = r' :=
  finds.unique finds' (fun _ greatest => greatest.1) fun _ _ greatest greatest' =>
    greatest.unique greatest'

end

section
variable {needle cs : List Char} {i k start bound : Nat}

theorem findFrom?_some (found : findFrom? needle i cs = some k) :
    ∃ j, k = i + j ∧ IsLeast {j | OccursAt needle cs j} j := by
  induction cs generalizing i with
  | nil =>
    rw [findFrom?] at found
    split at found
    next starts =>
      cases found
      exact ⟨0, rfl, occursAt_zero.mpr starts, fun _ _ => Nat.zero_le _⟩
    next => cases found
  | cons c cs ih =>
    rw [findFrom?] at found
    split at found
    next starts =>
      cases found
      exact ⟨0, rfl, occursAt_zero.mpr starts, fun _ _ => Nat.zero_le _⟩
    next other =>
      obtain ⟨j, rfl, occurs, first⟩ := ih found
      refine ⟨j + 1, by omega, occursAt_succ.mpr occurs, ?_⟩
      rintro (_ | l) here
      · exact absurd (occursAt_zero.mp here) other
      · exact Nat.succ_le_succ (first (occursAt_succ.mp here))

theorem findFrom?_none (none : findFrom? needle i cs = none) (j : Nat) :
    ¬ OccursAt needle cs j := by
  induction cs generalizing i j with
  | nil =>
    rw [findFrom?] at none
    split at none
    next => cases none
    next other =>
      intro occurs
      rw [occurs.eq_zero] at occurs
      exact other (occursAt_zero.mp occurs)
  | cons c cs ih =>
    rw [findFrom?] at none
    split at none
    next => cases none
    next other =>
      cases j with
      | zero => exact mt occursAt_zero.mp other
      | succ j => exact mt occursAt_succ.mp (ih none j)

/-- The forward search finds the first occurrence from the start on. -/
theorem indexOf?_finds (needle : List Char) (within : start ≤ cs.length) :
    Finds IsLeast {i | start ≤ i ∧ OccursAt needle cs i} (indexOf? needle cs start) := by
  cases found : indexOf? needle cs start with
  | some k =>
    obtain ⟨j, rfl, occurs, first⟩ := findFrom?_some found
    refine ⟨⟨Nat.le_add_right start j, (occursAt_drop within).mp occurs⟩, ?_⟩
    rintro l ⟨behind, here⟩
    obtain ⟨l, rfl⟩ := Nat.exists_eq_add_of_le behind
    exact Nat.add_le_add_left (first ((occursAt_drop within).mpr here)) start
  | none =>
    refine Set.eq_empty_of_forall_notMem ?_
    rintro l ⟨behind, here⟩
    obtain ⟨l, rfl⟩ := Nat.exists_eq_add_of_le behind
    exact findFrom?_none found l ((occursAt_drop within).mpr here)

/-- What a backward search finds is the last occurrence up to the bound, or what it had before. -/
def FindsLast (needle : List Char) (bound i : Nat) (best : Option Nat) (cs : List Char)
    (r : Option Nat) : Prop :=
  (∃ j, r = some (i + j) ∧ IsGreatest {j | i + j ≤ bound ∧ OccursAt needle cs j} j) ∨
    r = best ∧ {j | i + j ≤ bound ∧ OccursAt needle cs j} = ∅

theorem findsLast_beyond {best : Option Nat} (beyond : bound < i) :
    FindsLast needle bound i best cs best := by
  refine .inr ⟨rfl, Set.eq_empty_of_forall_notMem fun j isIn => ?_⟩
  have := isIn.1
  omega

/-- Where no occurrence follows, what counts is whether there is one in front. -/
theorem findsLast_front {best : Option Nat} (within : i ≤ bound)
    (behind : ∀ l, i + (l + 1) ≤ bound → ¬ OccursAt needle cs (l + 1)) :
    FindsLast needle bound i best cs (if startsWith needle cs then some i else best) := by
  split
  next starts =>
    refine .inl ⟨0, rfl, ⟨within, occursAt_zero.mpr starts⟩, ?_⟩
    rintro (_ | l) ⟨low, here⟩
    · exact Nat.le_refl 0
    · exact absurd here (behind l low)
  next other =>
    refine .inr ⟨rfl, Set.eq_empty_of_forall_notMem ?_⟩
    rintro (_ | l) ⟨low, here⟩
    · exact other (occursAt_zero.mp here)
    · exact behind l low here

theorem findLast_finds (needle : List Char) (bound i : Nat) (best : Option Nat) (cs : List Char) :
    FindsLast needle bound i best cs (findLast needle bound i best cs) := by
  induction cs generalizing i best with
  | nil =>
    rw [findLast]
    split
    next beyond => exact findsLast_beyond beyond
    next within =>
      refine findsLast_front (Nat.le_of_not_lt within) fun l _ here => ?_
      exact absurd here.eq_zero (Nat.succ_ne_zero l)
  | cons c cs ih =>
    rw [findLast]
    split
    next beyond => exact findsLast_beyond beyond
    next within =>
      have within := Nat.le_of_not_lt within
      dsimp only
      obtain ⟨j, same, ⟨low, occurs⟩, last⟩ | ⟨same, empty⟩ :=
        ih (i + 1) (if startsWith needle (c :: cs) = true then some i else best)
      · refine .inl ⟨j + 1, by rw [same, Nat.add_right_comm, Nat.add_assoc], ?_, ?_⟩
        · exact ⟨by omega, occursAt_succ.mpr occurs⟩
        · rintro (_ | l) ⟨low, here⟩
          · exact Nat.zero_le _
          · exact Nat.succ_le_succ (last ⟨by omega, occursAt_succ.mp here⟩)
      · rw [same]
        refine findsLast_front within fun l low here => ?_
        exact Set.eq_empty_iff_forall_notMem.mp empty l ⟨by omega, occursAt_succ.mp here⟩

theorem lastIndexOf?_finds (needle cs : List Char) (bound : Nat) :
    Finds IsGreatest {i | i ≤ bound ∧ OccursAt needle cs i} (lastIndexOf? needle cs bound) := by
  unfold lastIndexOf?
  have found := findLast_finds needle bound 0 none cs
  simp only [FindsLast, Nat.zero_add] at found
  obtain ⟨j, same, greatest⟩ | ⟨same, empty⟩ := found
  · rw [same]
    exact greatest
  · rw [same]
    exact empty

end

end DocExpr.Text
