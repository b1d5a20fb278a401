import DocExpr.Proofs.Text.Utf8
import DocExpr.Proofs.Text.Words
import DocExpr.Regex.CharSet

/-! What a set of characters takes of a program depends on its members alone. Where membership
changes only at the edges of a set, its stretches cover its members with gaps between them, and
there is one such list: the sets that ranges, tables, `\d`, `\s`, `\w` and the operators of
brackets make have such edges, so it does not matter how a set is put together. -/
namespace DocExpr.Regex.CharSet

/-- The number lies in one of the stretches. -/
def Covered (rs : List (Nat × Nat)) (n : Nat) : Prop := ∃ r ∈ rs, r.1 ≤ n ∧ n ≤ r.2

/-- Stretches in order that have at least this many numbers between them. -/
structure Apart (gap : Nat) (rs : List (Nat × Nat)) : Prop where
  nonempty : ∀ r ∈ rs, r.1 ≤ r.2
  ordered : rs.Pairwise fun r t => r.2 + gap < t.1

section
variable {rs ts : List (Nat × Nat)} {r : Nat × Nat} {gap n : Nat}

theorem covered_cons : Covered (r :: rs) n ↔ (r.1 ≤ n ∧ n ≤ r.2) ∨ Covered rs n := by
  simp [Covered]

theorem not_covered_nil : ¬ Covered [] n := by
  rintro ⟨r, isIn, -⟩
  cases isIn

theorem Apart.nil : Apart gap [] := ⟨nofun, .nil⟩

theorem apart_cons :
    Apart gap (r :: rs) ↔ r.1 ≤ r.2 ∧ (∀ t ∈ rs, r.2 + gap < t.1) ∧ Apart gap rs := by
  constructor
  · rintro ⟨nonempty, ordered⟩
    obtain ⟨front, ordered⟩ := List.pairwise_cons.mp ordered
    obtain ⟨first, nonempty⟩ := List.forall_mem_cons.mp nonempty
    exact ⟨first, front, nonempty, ordered⟩
  · rintro ⟨first, front, nonempty, ordered⟩
    exact ⟨List.forall_mem_cons.mpr ⟨first, nonempty⟩, List.pairwise_cons.mpr ⟨front, ordered⟩⟩

theorem Apart.le_of_covered (apart : Apart gap (r :: rs)) (covered : Covered (r :: rs) n) :
    r.1 ≤ n := by
  obtain ⟨first, front, -⟩ := apart_cons.mp apart
  obtain ⟨least, -⟩ | ⟨t, isIn, least, -⟩ := covered_cons.mp covered
  · exact least
  · have := front t isIn
    omega

/-- What lies behind the first stretch is in the others. -/
theorem Apart.covered_tail (apart : Apart gap (r :: rs)) :
    Covered rs n ↔ Covered (r :: rs) n ∧ r.2 < n := by
  obtain ⟨-, front, -⟩ := apart_cons.mp apart
  rw [covered_cons]
  constructor
  · rintro ⟨t, isIn, least, most⟩
    have := front t isIn
    exact ⟨.inr ⟨t, isIn, least, most⟩, by omega⟩
  · rintro ⟨⟨-, most⟩ | covered, behind⟩
    · omega
    · exact covered

theorem Apart.start_covered (apart : Apart gap (r :: rs)) : Covered (r :: rs) r.1 :=
  ⟨r, List.mem_cons_self, Nat.le_refl _, (apart_cons.mp apart).1⟩

/-- A stretch with the start of the first one ends no later if all of it is covered. -/
theorem Apart.last_le {t : Nat × Nat} (apart : Apart 1 (r :: rs)) (start : r.1 = t.1)
    (covers : ∀ n, Covered (t :: ts) n → Covered (r :: rs) n) :
    t.2 ≤ r.2 := by
  obtain ⟨first, front, -⟩ := apart_cons.mp apart
  refine Nat.le_of_not_lt fun longer => ?_
  have covered := covers (r.2 + 1) ⟨t, List.mem_cons_self, by omega, by omega⟩
  obtain ⟨-, most⟩ | ⟨t', isIn, least, -⟩ := covered_cons.mp covered
  · omega
  · have := front t' isIn
    omega

/-- Numbers are divided into stretches with gaps between them in one way. -/
theorem Apart.unique (apart : Apart 1 rs) (apart' : Apart 1 ts)
    (same : ∀ n, Covered rs n ↔ Covered ts n) : rs = ts := by
  induction rs generalizing ts with
  | nil =>
    cases ts with
    | nil => rfl
    | cons t ts => exact absurd ((same t.1).mpr apart'.start_covered) not_covered_nil
  | cons r rs ih =>
    cases ts with
    | nil => exact absurd ((same r.1).mp apart.start_covered) not_covered_nil
    | cons t ts =>
      have start : r.1 = t.1 := Nat.le_antisymm
        (apart.le_of_covered ((same t.1).mpr apart'.start_covered))
        (apart'.le_of_covered ((same r.1).mp apart.start_covered))
      have last : r.2 = t.2 := Nat.le_antisymm
        (apart'.last_le start.symm fun n => (same n).mp)
        (apart.last_le start fun n => (same n).mpr)
      have first : r = t := Prod.ext start last
      have others := ih (apart_cons.mp apart).2.2 (apart_cons.mp apart').2.2 fun n => by
        rw [apart.covered_tail, apart'.covered_tail, same, last]
      rw [first, others]

/-- Joining stretches makes no new starts. -/
theorem start_of_joined (isIn : r ∈ joined rs) : ∃ t ∈ rs, t.1 = r.1 := by
  induction rs generalizing r with
  | nil => cases isIn
  | cons t rs ih =>
    unfold joined at isIn
    split at isIn
    next low' high' rest same =>
      have others : ∀ r ∈ (low', high') :: rest, ∃ t' ∈ t :: rs, t'.1 = r.1 := fun r isIn => by
        obtain ⟨t', isIn, start⟩ := ih (same ▸ isIn)
        exact ⟨t', List.mem_cons_of_mem _ isIn, start⟩
      split at isIn
      next =>
        obtain rfl | isIn := List.mem_cons.mp isIn
        · exact ⟨t, List.mem_cons_self, rfl⟩
        · exact others r (List.mem_cons_of_mem _ isIn)
      next =>
        obtain rfl | isIn := List.mem_cons.mp isIn
        · exact ⟨t, List.mem_cons_self, rfl⟩
        · exact others r isIn
    next =>
      obtain rfl := List.mem_singleton.mp isIn
      exact ⟨t, List.mem_cons_self, rfl⟩

/-- Joined stretches have gaps between them and cover the same numbers. -/
theorem joined_spec (apart : Apart 0 rs) :
    Apart 1 (joined rs) ∧ ∀ n, Covered (joined rs) n ↔ Covered rs n := by
  induction rs with
  | nil => exact ⟨.nil, fun n => Iff.rfl⟩
  | cons r rs ih =>
    obtain ⟨first, front, apart⟩ := apart_cons.mp apart
    obtain ⟨apart, covers⟩ := ih apart
    have behind : ∀ t ∈ joined rs, r.2 < t.1 := fun t isIn => by
      obtain ⟨t', isIn, start⟩ := start_of_joined isIn
      have := front t' isIn
      omega
    unfold joined
    split
    next low' high' rest same =>
      rw [same] at apart behind covers
      obtain ⟨second, later, apart'⟩ := apart_cons.mp apart
      have next := behind _ List.mem_cons_self
      split
      next touch =>
        refine ⟨apart_cons.mpr ⟨by dsimp only at *; omega, later, apart'⟩, fun n => ?_⟩
        rw [covered_cons, covered_cons, ← covers, covered_cons, ← or_assoc]
        refine or_congr_left ?_
        dsimp only at *
        omega
      next apartFrom =>
        refine ⟨apart_cons.mpr ⟨first, fun t isIn => ?_, apart⟩, fun n => ?_⟩
        · obtain rfl | isIn := List.mem_cons.mp isIn
          · dsimp only at *
            omega
          · have := later t isIn
            dsimp only at *
            omega
        · rw [covered_cons, covers, covered_cons]
    next same =>
      rw [same] at covers
      refine ⟨apart_cons.mpr ⟨first, nofun, .nil⟩, fun n => ?_⟩
      rw [covered_cons, covered_cons, covers]

end

section
variable {within : Nat → Bool} {sites : List Nat}

/-- A cell lies between two sites. -/
theorem sites_of_cells {r : Nat × Nat} (isIn : r ∈ cells within sites) :
    r.1 ∈ sites ∧ r.1 ≤ r.2 ∧ r.2 + 1 ∈ sites := by
  induction sites with
  | nil => cases isIn
  | cons low sites ih =>
    cases sites with
    | nil => cases isIn
    | cons next sites =>
      have others (isIn : r ∈ cells within (next :: sites)) :
          r.1 ∈ low :: next :: sites ∧ r.1 ≤ r.2 ∧ r.2 + 1 ∈ low :: next :: sites := by
        obtain ⟨start, nonempty, last⟩ := ih isIn
        exact ⟨List.mem_cons_of_mem low start, nonempty, List.mem_cons_of_mem low last⟩
      rw [cells] at isIn
      split at isIn
      next taken =>
        obtain rfl | isIn := List.mem_cons.mp isIn
        · have last : next - 1 + 1 = next := Nat.sub_add_cancel (by omega)
          dsimp only
          rw [last]
          exact ⟨List.mem_cons_self, by omega, List.mem_cons_of_mem low List.mem_cons_self⟩
        · exact others isIn
      next => exact others isIn

theorem cells_apart (sorted : sites.Pairwise (· ≤ ·)) : Apart 0 (cells within sites) := by
  induction sites with
  | nil => exact .nil
  | cons low sites ih =>
    cases sites with
    | nil => exact .nil
    | cons next sites =>
      obtain ⟨-, sorted⟩ := List.pairwise_cons.mp sorted
      have others := ih sorted
      rw [cells]
      split
      next taken =>
        refine apart_cons.mpr ⟨by dsimp only; omega, fun t isIn => ?_, others⟩
        have least : next ≤ t.1 := by
          obtain same | later := List.mem_cons.mp (sites_of_cells isIn).1
          · exact Nat.le_of_eq same.symm
          · exact (List.pairwise_cons.mp sorted).1 _ later
        dsimp only
        omega
      next => exact others

/-- The numbers between two neighbouring sites are alike. -/
theorem within_cell {low next : Nat}
    (steady : ∀ n, low ≤ n → n + 1 < next → within (n + 1) = within n) {n : Nat} (least : low ≤ n)
    (most : n < next) : within n = within low := by
  induction least with
  | refl => rfl
  | step least ih => rw [steady _ least most, ih (by omega)]

/-- The cells cover what is within, if that changes only at sites. -/
theorem covered_cells {low : Nat} (sorted : (low :: sites).Pairwise (· ≤ ·))
    (steady : ∀ n, low ≤ n → n + 1 ∉ low :: sites → within (n + 1) = within n) {n : Nat}
    (least : low ≤ n) (most : ∃ last ∈ low :: sites, n < last) :
    Covered (cells within (low :: sites)) n ↔ within n = true := by
  induction sites generalizing low with
  | nil =>
    obtain ⟨last, isIn, most⟩ := most
    obtain rfl := List.mem_singleton.mp isIn
    omega
  | cons next sites ih =>
    obtain ⟨lowest, sorted⟩ := List.pairwise_cons.mp sorted
    have lowNext := lowest next List.mem_cons_self
    have later : ∀ site ∈ next :: sites, next ≤ site := fun site isIn => by
      obtain rfl | isIn := List.mem_cons.mp isIn
      · exact Nat.le_refl _
      · exact (List.pairwise_cons.mp sorted).1 site isIn
    rw [cells]
    by_cases inside : n < next
    · have alike : within n = within low := by
        refine within_cell (fun m least most => steady m least fun isIn => ?_) least inside
        obtain same | isIn := List.mem_cons.mp isIn
        · omega
        · have := later _ isIn
          omega
      have noOther : ¬ Covered (cells within (next :: sites)) n := by
        rintro ⟨r, isIn, start, -⟩
        have := later _ (sites_of_cells isIn).1
        omega
      rw [alike]
      split
      next taken =>
        rw [covered_cons]
        exact iff_of_true (.inl ⟨least, by dsimp only; omega⟩) taken.2
      next notTaken =>
        refine iff_of_false noOther fun isWithin => notTaken ⟨by omega, isWithin⟩
    · have others := ih sorted (fun m least isNot => steady m (by omega) fun isIn => by
        obtain same | isIn := List.mem_cons.mp isIn
        · omega
        · exact isNot isIn) (by omega) (by
          obtain ⟨last, isIn, most⟩ := most
          obtain rfl | isIn := List.mem_cons.mp isIn
          · omega
          · exact ⟨last, isIn, most⟩)
      rw [← others]
      split
      next =>
        rw [covered_cons]
        dsimp only
        refine or_iff_right fun ⟨_, most⟩ => ?_
        omega
      next => rfl

end

/-- What one of two neighbouring characters has and the other has not changes at an edge. -/
def ChangesAt (edges : List Nat) (has : Char → Bool) : Prop :=
  ∀ c d : Char, d.toNat = c.toNat + 1 → d.toNat ∉ edges → has d = has c

/-- The edges of a set are where its members begin and end. -/
def Edged (s : CharSet) : Prop := ChangesAt s.edges s.has

section
variable {s a b : CharSet}

theorem hasCode_iff {n : Nat} :
    s.hasCode n = true ↔ n.isValidChar ∧ s.has (Char.ofNat n) = true := by
  rw [hasCode, Bool.and_eq_true, decide_eq_true_iff]

theorem Edged.hasCode_succ (edged : s.Edged) {n : Nat}
    (noSite : n + 1 ∉ 0 :: 0xd800 :: 0xe000 :: 0x110000 :: s.edges) :
    s.hasCode (n + 1) = s.hasCode n := by
  simp only [List.mem_cons, not_or] at noSite
  obtain ⟨-, noHigh, noLow, noEnd, noEdge⟩ := noSite
  have valid : (n + 1).isValidChar ↔ n.isValidChar := by
    unfold Nat.isValidChar
    omega
  by_cases isValid : n.isValidChar
  · have code := Text.toNat_ofNat isValid
    have code' := Text.toNat_ofNat (valid.mpr isValid)
    have same := edged (Char.ofNat n) (Char.ofNat (n + 1)) (by rw [code, code']) (by rwa [code'])
    rw [hasCode, hasCode, same, decide_eq_decide.mpr valid]
  · rw [hasCode, hasCode, decide_eq_false isValid, decide_eq_false (mt valid.mp isValid),
      Bool.false_and, Bool.false_and]

/-- The stretches of a set cover its members, with gaps between them. -/
theorem stretches_spec (edged : s.Edged) :
    Apart 1 s.stretches ∧ ∀ n, Covered s.stretches n ↔ s.hasCode n = true := by
  unfold stretches
  generalize same : (0 :: 0xd800 :: 0xe000 :: 0x110000 :: s.edges).mergeSort = sites
  have member (n : Nat) : n ∈ sites ↔ n ∈ 0 :: 0xd800 :: 0xe000 :: 0x110000 :: s.edges := by
    rw [← same]
    exact List.mem_mergeSort
  have sorted : sites.Pairwise (· ≤ ·) := by
    rw [← same]
    refine (List.pairwise_mergeSort ?_ ?_ _).imp of_decide_eq_true
    · intro a b c first second
      exact decide_eq_true (Nat.le_trans (of_decide_eq_true first) (of_decide_eq_true second))
    · intro a b
      rw [Bool.or_eq_true, decide_eq_true_iff, decide_eq_true_iff]
      exact Nat.le_total a b
  have ordered : Apart 0 (cells s.hasCode sites) := cells_apart sorted
  obtain ⟨apart, covers⟩ := joined_spec ordered
  refine ⟨apart, fun n => (covers n).trans ?_⟩
  cases sites with
  | nil => exact absurd ((member 0).mpr List.mem_cons_self) List.not_mem_nil
  | cons low sites =>
    obtain rfl : low = 0 := by
      obtain same | isIn := List.mem_cons.mp ((member 0).mpr List.mem_cons_self)
      · exact same.symm
      · exact Nat.le_zero.mp ((List.pairwise_cons.mp sorted).1 0 isIn)
    by_cases inside : ∃ last ∈ 0 :: sites, n < last
    · exact covered_cells sorted (fun m _ noSite => edged.hasCode_succ (mt (member _).mpr noSite))
        (Nat.zero_le n) inside
    · refine iff_of_false ?_ fun isIn => inside ⟨0x110000, (member _).mpr (by simp), ?_⟩
      · rintro ⟨r, isIn, -, most⟩
        exact inside ⟨r.2 + 1, (sites_of_cells isIn).2.2, by omega⟩
      · have valid := (hasCode_iff.mp isIn).1
        unfold Nat.isValidChar at valid
        omega

/-- Sets with the same members have the same stretches, however they are put together. -/
theorem stretches_congr (edged : a.Edged) (edged' : b.Edged) (same : ∀ c, a.has c = b.has c) :
    a.stretches = b.stretches := by
  obtain ⟨apart, covers⟩ := stretches_spec edged
  obtain ⟨apart', covers'⟩ := stretches_spec edged'
  refine apart.unique apart' fun n => ?_
  rw [covers, covers', hasCode, hasCode, same]

/-- Sets with the same members take as many bytes. -/
theorem standing_congr (edged : a.Edged) (edged' : b.Edged) (same : ∀ c, a.has c = b.has c) :
    a.standing.backwards = b.standing.backwards ∧ a.standing.forwards = b.standing.forwards := by
  unfold standing
  rw [stretches_congr edged edged' same]
  dsimp only
  split
  next => exact ⟨rfl, rfl⟩
  next =>
    split
    next => exact ⟨rfl, rfl⟩
    split
    next => exact ⟨rfl, rfl⟩
    next => exact ⟨rfl, rfl⟩

end

section
variable {edges edges' : List Nat} {has has' : Char → Bool}

theorem ChangesAt.more (changes : ChangesAt edges has) (sub : edges ⊆ edges') :
    ChangesAt edges' has :=
  fun c d next noEdge => changes c d next fun isIn => noEdge (sub isIn)

theorem ChangesAt.not (changes : ChangesAt edges has) : ChangesAt edges fun c => !has c :=
  fun c d next noEdge => congrArg (!·) (changes c d next noEdge)

theorem ChangesAt.combine (op : Bool → Bool → Bool) (changes : ChangesAt edges has)
    (changes' : ChangesAt edges' has') :
    ChangesAt (edges ++ edges') fun c => op (has c) (has' c) := fun c d next noEdge => by
  rw [List.mem_append, not_or] at noEdge
  dsimp only
  rw [changes c d next noEdge.1, changes' c d next noEdge.2]

/-- One thing below a code point and another one from there on. -/
theorem ChangesAt.below {bound : Nat} (low : ∀ c d : Char, d.toNat = c.toNat + 1 →
      d.toNat < bound → d.toNat ∉ edges → has d = has c) (high : ChangesAt edges has')
    (isIn : bound ∈ edges) :
    ChangesAt edges fun c => if c.toNat < bound then has c else has' c := by
  intro c d next noEdge
  have apart : d.toNat ≠ bound := fun same => noEdge (same ▸ isIn)
  dsimp only
  by_cases below : d.toNat < bound
  · rw [if_pos below, if_pos (by omega)]
    exact low c d next below noEdge
  · rw [if_neg below, if_neg (by omega)]
    exact high c d next noEdge

theorem changesAt_between (low high : Nat) :
    ChangesAt [low, high + 1] fun c => decide (low ≤ c.toNat) && decide (c.toNat ≤ high) := by
  intro c d next noEdge
  simp only [List.mem_cons, List.not_mem_nil, not_or, or_false] at noEdge
  rw [Bool.eq_iff_iff]
  simp only [Bool.and_eq_true, decide_eq_true_eq]
  omega

theorem changesAt_any {α : Type} {xs : List α} {edges : α → List Nat} {has : α → Char → Bool}
    (each : ∀ x ∈ xs, ChangesAt (edges x) (has x)) :
    ChangesAt (xs.flatMap edges) fun c => xs.any (has · c) := by
  induction xs with
  | nil => exact fun _ _ _ _ => rfl
  | cons x xs ih =>
    obtain ⟨first, others⟩ := List.forall_mem_cons.mp each
    exact first.combine (· || ·) (ih others)

end

theorem changesAt_runs (runs : Text.Runs) : ChangesAt runs.edges runs.has := by
  refine changesAt_any fun (first, last, step) _ c d next noEdge => ?_
  dsimp only at *
  split at noEdge
  next single =>
    subst single
    rw [Nat.mod_one, Nat.mod_one]
    simp only [List.mem_cons, List.not_mem_nil, not_or, or_false] at noEdge
    rw [Bool.eq_iff_iff]
    simp only [Bool.and_eq_true, decide_eq_true_eq, beq_self_eq_true, and_true]
    omega
  next =>
    -- a member and the code point behind it are both edges
    have outside (e : Char) (isIn : e.toNat = d.toNat ∨ e.toNat + 1 = d.toNat) :
        (decide (first ≤ e.toNat) && decide (e.toNat ≤ last) &&
          (e.toNat - first) % step == 0) = false := by
      rw [Bool.eq_false_iff]
      intro met
      simp only [Bool.and_eq_true, decide_eq_true_eq, beq_iff_eq] at met
      obtain ⟨⟨least, most⟩, met⟩ := met
      have index : (e.toNat - first) / step < (last - first) / step + 1 :=
        Nat.lt_succ_of_le (Nat.div_le_div_right (Nat.sub_le_sub_right most first))
      have place : first + (e.toNat - first) / step * step = e.toNat := by
        rw [Nat.div_mul_cancel (Nat.dvd_of_mod_eq_zero met), Nat.add_sub_cancel' least]
      refine noEdge (List.mem_flatMap.mpr ⟨_, List.mem_range.mpr index, ?_⟩)
      rw [place]
      rcases isIn with same | same <;> simp [← same]
    rw [outside c (.inr next.symm), outside d (.inl rfl)]

section
variable {s a b : CharSet}

theorem edged_single (c : Char) : (single c).Edged := by
  intro d e next noEdge
  simp only [single, List.mem_cons, List.not_mem_nil, not_or, or_false] at *
  have other : ∀ x : Char, x.toNat ≠ c.toNat → (x == c) = false := fun x apart =>
    beq_eq_false_iff_ne.mpr fun same => apart (congrArg Char.toNat same)
  rw [other e noEdge.1, other d (by omega)]

theorem edged_range (low high : Char) : (range low high).Edged :=
  changesAt_between low.toNat high.toNat

theorem edged_none : none.Edged := fun _ _ _ _ => rfl

theorem edged_table (runs : Text.Runs) : (ofClass runs.toClass).Edged := changesAt_runs runs

theorem Edged.union (edged : a.Edged) (edged' : b.Edged) : (a.union b).Edged :=
  edged.combine (· || ·) edged'

theorem Edged.combine (op : Bool → Bool → Bool) (edged : a.Edged) (edged' : b.Edged) :
    (CharSet.combine op a b).Edged :=
  ChangesAt.combine op edged edged'

theorem Edged.compl (edged : a.Edged) : a.compl.Edged := ChangesAt.not edged

theorem Edged.ofItems {items : List CharSet} (each : ∀ item ∈ items, item.Edged) :
    (ofItems items).Edged := by
  have folds (items : List CharSet) (each : ∀ item ∈ items, item.Edged) (start : CharSet)
      (edged : start.Edged) : (items.foldl CharSet.union start).Edged := by
    induction items generalizing start with
    | nil => exact edged
    | cons item items ih =>
      obtain ⟨first, others⟩ := List.forall_mem_cons.mp each
      exact ih others _ (edged.union first)
  unfold CharSet.ofItems
  split
  next => exact edged_none
  next item => exact each item (List.mem_singleton.mpr rfl)
  next => exact folds items each none edged_none

theorem Edged.bracketed (edged : a.Edged) : a.bracketed.Edged := edged

theorem Edged.ascii (edged : a.Edged) : a.ascii.Edged := by
  intro c d next noEdge
  obtain ⟨apart, noEdge⟩ := not_or.mp (mt List.mem_cons.mpr noEdge)
  have bound : d.toNat < 128 ↔ c.toNat < 128 := by omega
  have same : a.has d = a.has c := edged c d next noEdge
  unfold CharSet.ascii
  dsimp only
  rw [same, decide_eq_decide.mpr bound]

theorem edged_named {name : String} (found : named? name = some s) : s.Edged := by
  have narrow (has : Char → Bool) :
      ChangesAt (List.range 129) fun c => decide (c.toNat < 128) && has c := by
    intro c d next noEdge
    rw [List.mem_range] at noEdge
    dsimp only
    rw [decide_eq_false (by omega), decide_eq_false (by omega), Bool.false_and, Bool.false_and]
  unfold named? at found
  dsimp only at found
  split at found
  case h_15 => cases found
  all_goals
    cases found
    exact narrow _

/-- A set and its complement take together what all characters take. -/
theorem standing_union_compl (edged : a.Edged) :
    (a.union a.compl).standing.backwards = none.compl.standing.backwards ∧
      (a.union a.compl).standing.forwards = none.compl.standing.forwards :=
  standing_congr (edged.union edged.compl) edged_none.compl fun c => Bool.or_not_self (a.has c)

end

theorem digit_has (c : Char) : digit.has c = Text.decimalDigits.has c := by
  by_cases ascii : c.toNat < 128
  · have others : Text.Runs.has Text.decimalDigits.tail c = false :=
      Text.Runs.has_of_below (by decide) ascii
    change (if c.toNat < 128 then c.isDigit else _) =
      (decide (48 ≤ c.toNat) && decide (c.toNat ≤ 57) && (c.toNat - 48) % 1 == 0 ||
        Text.Runs.has Text.decimalDigits.tail c)
    rw [if_pos ascii, others, Bool.or_false, Nat.mod_one, Bool.eq_iff_iff, Text.isDigit_iff]
    simp
  · exact if_neg ascii

theorem edged_digit : digit.Edged := fun c d next noEdge => by
  rw [digit_has, digit_has]
  exact changesAt_runs Text.decimalDigits c d next noEdge

theorem edged_space : space.Edged := by
  have edges : space.edges = [9, 14, 0x85, 0x86, 0x2028, 0x202a, 0x20, 0x21, 0xa0, 0xa1, 0x1680,
    0x1681, 0x2000, 0x200b, 0x202f, 0x2030, 0x205f, 0x2060, 0x3000, 0x3001] := by rfl
  intro c d next noEdge
  rw [edges] at noEdge
  simp only [List.mem_cons, List.not_mem_nil, not_or, or_false] at noEdge
  rw [Bool.eq_iff_iff]
  simp only [space, Text.isBlank, Bool.or_eq_true, Bool.and_eq_true, decide_eq_true_eq, beq_iff_eq]
  omega

theorem isWordChar_wide {c : Char} (wide : ¬ c.toNat < 128) : Text.isWordChar c =
    (wordTables.any (·.has c) || decide (0x200c ≤ c.toNat) && decide (c.toNat ≤ 0x200d)) := by
  unfold Text.isWordChar Text.isSettledAlphabetic
  rw [if_neg wide, if_neg wide, Bool.eq_iff_iff]
  simp only [wordTables, List.any_cons, List.any_nil, Bool.or_eq_true, Bool.and_eq_true,
    decide_eq_true_eq, beq_iff_eq, Bool.false_eq_true, or_false, or_assoc]
  have joiner : (c.toNat = 0x200c ∨ c.toNat = 0x200d) ↔ 0x200c ≤ c.toNat ∧ c.toNat ≤ 0x200d := by
    omega
  rw [joiner]

/-- Where the word characters of ASCII begin and end. -/
def asciiWordEdges : List Nat := [48, 58, 65, 91, 95, 96, 97, 123]

theorem edged_word : word.Edged := by
  have ascii : ∀ n < 127, n + 1 ∉ asciiWordEdges →
      Text.isWordChar (Char.ofNat (n + 1)) = Text.isWordChar (Char.ofNat n) := by decide
  have tables : wordTables.flatMap Text.Runs.edges ⊆ word.edges := List.subset_append_right _ _
  have listed : asciiWordEdges ⊆ wordTables.flatMap Text.Runs.edges := by
    have table {runs : Text.Runs} (isIn : runs ∈ wordTables) {n : Nat} (edge : n ∈ runs.edges) :
        n ∈ wordTables.flatMap Text.Runs.edges := List.mem_flatMap.mpr ⟨runs, isIn, edge⟩
    have digits : Text.decimalDigits ∈ wordTables := by simp [wordTables]
    have capitals : Text.upperLetters ∈ wordTables := by simp [wordTables]
    have connectors : Text.connectors ∈ wordTables := by simp [wordTables]
    have smalls : Text.lowerLetters ∈ wordTables := by simp [wordTables]
    intro n isIn
    simp only [asciiWordEdges, List.mem_cons, List.not_mem_nil, or_false] at isIn
    rcases isIn with rfl | rfl | rfl | rfl | rfl | rfl | rfl | rfl
    · exact table digits (by decide)
    · exact table digits (by decide)
    · exact table capitals (by decide)
    · exact table capitals (by decide)
    · exact table connectors (by decide)
    · exact table connectors (by decide)
    · exact table smalls (by decide)
    · exact table smalls (by decide)
  have wide : ChangesAt word.edges fun c => wordTables.any (·.has c) ||
      decide (0x200c ≤ c.toNat) && decide (c.toNat ≤ 0x200d) := by
    have runs := changesAt_any fun runs (_ : runs ∈ wordTables) => changesAt_runs runs
    refine (runs.combine (· || ·) (changesAt_between 0x200c 0x200d)).more ?_
    refine List.append_subset.mpr ⟨tables, ?_⟩
    intro n isIn
    exact List.mem_append_left _ (List.mem_cons_of_mem _ isIn)
  intro c d next noEdge
  have edge : 0x80 ∈ word.edges := List.mem_cons_self
  by_cases narrow : d.toNat < 128
  · have same := ascii c.toNat (by omega) fun isIn => noEdge (tables (listed (next ▸ isIn)))
    rwa [← next, Char.ofNat_toNat, Char.ofNat_toNat] at same
  · have apart : d.toNat ≠ 0x80 := fun same => noEdge (same ▸ edge)
    change Text.isWordChar d = Text.isWordChar c
    rw [isWordChar_wide narrow, isWordChar_wide (by omega)]
    exact wide c d next noEdge

end DocExpr.Regex.CharSet
