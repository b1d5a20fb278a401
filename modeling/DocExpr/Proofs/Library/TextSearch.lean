import DocExpr.Proofs.Library.ItemSearch
import DocExpr.Proofs.Value.WholePart
import DocExpr.Proofs.Text.Occurrence

/-! Searching a string from a position on. All five searches share one notion of where a text
occurs, and hold the position between the two ends of the string. A search that takes the string
apart at the positions it looks at, and would fail where one of them is outside, finds the same. -/
namespace DocExpr.Library
open Number (integer)
open Text (Finds OccursAt occursAt_iff_startsWith)

/-- The part of a text from one position to another; none if they are out of order or one of them
is not inside. -/
def part? (cs : List Char) (start stop : Nat) : Option (List Char) :=
  if start ≤ stop ∧ stop ≤ cs.length then some (between cs start stop) else none

/-- The first of some positions behind which the needle stands; none if a window is not inside. -/
def findWindow? (needle cs : List Char) : List Nat → Option (Option Nat)
  | [] => some none
  | i :: is => do
    let window ← part? cs i (i + needle.length)
    if window = needle then some (some i) else findWindow? needle cs is

/-- The forward search. The empty needle is where the search starts, a needle that is longer than
the text is nowhere, and else there are as many windows as the needle leaves room for. -/
def findForward? (needle cs : List Char) (start : Nat) : Option (Option Nat) :=
  if needle.isEmpty then some (some (min start cs.length))
  else if cs.length < needle.length then some none
  else findWindow? needle cs (List.range' start (cs.length - needle.length + 1 - start))

/-- The backward search. -/
def findBackward? (needle cs : List Char) (bound : Nat) : Option (Option Nat) :=
  if cs.length < needle.length then some none
  else
    let last := min (cs.length - needle.length) bound
    findWindow? needle cs (List.range (last + 1)).reverse

section
variable {needle cs : List Char} {start bound : Nat}

theorem part?_isSome_iff {stop : Nat} :
    (part? cs start stop).isSome = true ↔ start ≤ stop ∧ stop ≤ cs.length := by
  unfold part?
  split <;> simp [*]

theorem between_window_eq_iff {i : Nat} (inside : i + needle.length ≤ cs.length) :
    between cs i (i + needle.length) = needle ↔ OccursAt needle cs i := by
  rw [occursAt_iff_startsWith (by omega), Text.startsWith, List.isPrefixOf_iff_prefix,
    List.prefix_iff_eq_take, between, Nat.add_sub_cancel_left]
  exact eq_comm

/-- Where all windows are inside, the search goes through them and finds the first occurrence. -/
theorem findWindow?_eq {is : List Nat} (inside : ∀ i ∈ is, i + needle.length ≤ cs.length)
    [DecidablePred (OccursAt needle cs)] :
    findWindow? needle cs is = some (is.find? (OccursAt needle cs ·)) := by
  induction is with
  | nil => rfl
  | cons i is ih =>
    obtain ⟨here, later⟩ := List.forall_mem_cons.mp inside
    have window : part? cs i (i + needle.length) = some (between cs i (i + needle.length)) :=
      if_pos ⟨Nat.le_add_right i _, here⟩
    rw [findWindow?, window, Option.bind_eq_bind, Option.bind_some, List.find?_cons]
    by_cases occurs : OccursAt needle cs i
    · rw [if_pos ((between_window_eq_iff here).mpr occurs), decide_eq_true occurs]
    · rw [if_neg (mt (between_window_eq_iff here).mp occurs), decide_eq_false occurs, ih later]

/-- Of ordered positions, all other hits stand behind the first one. -/
theorem find?_ordered {P : Nat → Prop} [DecidablePred P] {R : Nat → Nat → Prop} {is : List Nat}
    (ordered : is.Pairwise R) {i : Nat} (found : is.find? (P ·) = some i) :
    i ∈ is ∧ P i ∧ ∀ j ∈ is, P j → j = i ∨ R i j := by
  obtain ⟨hit, front, back, rfl, other⟩ := List.find?_eq_some_iff_append.mp found
  refine ⟨List.mem_append_right front List.mem_cons_self, of_decide_eq_true hit, ?_⟩
  intro j isIn hit
  rcases List.mem_append.mp isIn with before | here
  · have miss := other j before
    rw [decide_eq_true hit] at miss
    cases miss
  · have behind := (List.pairwise_append.mp ordered).2.1
    exact (List.mem_cons.mp here).imp_right ((List.pairwise_cons.mp behind).1 j)

theorem find?_none {P : Nat → Prop} [DecidablePred P] {is : List Nat}
    (none : is.find? (P ·) = none) : {i | i ∈ is ∧ P i} = ∅ :=
  Set.eq_empty_of_forall_notMem fun i isIn =>
    List.find?_eq_none.mp none i isIn.1 (decide_eq_true isIn.2)

theorem find?_least {P : Nat → Prop} [DecidablePred P] {is : List Nat}
    (ascending : is.Pairwise (· < ·)) : Finds IsLeast {i | i ∈ is ∧ P i} (is.find? (P ·)) := by
  cases found : is.find? (P ·) with
  | none => exact find?_none found
  | some i =>
    obtain ⟨isIn, hit, later⟩ := find?_ordered ascending found
    refine ⟨⟨isIn, hit⟩, fun j other => ?_⟩
    rcases later j other.1 other.2 with rfl | behind
    · exact Nat.le_refl j
    · exact Nat.le_of_lt behind

theorem find?_greatest {P : Nat → Prop} [DecidablePred P] {is : List Nat}
    (descending : is.Pairwise (· > ·)) :
    Finds IsGreatest {i | i ∈ is ∧ P i} (is.find? (P ·)) := by
  cases found : is.find? (P ·) with
  | none => exact find?_none found
  | some i =>
    obtain ⟨isIn, hit, later⟩ := find?_ordered descending found
    refine ⟨⟨isIn, hit⟩, fun j other => ?_⟩
    rcases later j other.1 other.2 with rfl | before
    · exact Nat.le_refl j
    · exact Nat.le_of_lt before

/-- A needle that is longer than the text is nowhere. -/
theorem occurs_nowhere (long : cs.length < needle.length) {i : Nat} : ¬ OccursAt needle cs i := by
  intro occurs
  have := occurs.inside
  omega

/-- No window of the forward search leaves the text, and it finds what the search finds. -/
theorem findForward?_eq (within : start ≤ cs.length) :
    findForward? needle cs start = some (Text.indexOf? needle cs start) := by
  classical
  have finds := Text.indexOf?_finds needle within
  unfold findForward?
  split
  next empty =>
    rw [List.isEmpty_iff.mp empty] at finds ⊢
    rw [Nat.min_eq_left within]
    have here : Finds IsLeast {i | start ≤ i ∧ OccursAt [] cs i} (some start) :=
      ⟨⟨Nat.le_refl start, Text.occursAt_nil.mpr within⟩, fun i isIn => isIn.1⟩
    exact congrArg some (here.least_unique finds)
  next =>
    split
    next long =>
      refine congrArg _ (Finds.least_unique (r := none) ?_ finds)
      exact Set.eq_empty_of_forall_notMem fun i isIn => occurs_nowhere long isIn.2
    next fits =>
      rw [findWindow?_eq fun i isIn => by have := List.mem_range'_1.mp isIn; omega]
      refine congrArg _ (Finds.least_unique ?_ finds)
      have same : {i | start ≤ i ∧ OccursAt needle cs i} =
          {i | i ∈ List.range' start (cs.length - needle.length + 1 - start) ∧
            OccursAt needle cs i} := by
        refine Set.ext fun i => and_congr_left fun occurs => ?_
        have := occurs.inside
        rw [List.mem_range'_1]
        omega
      rw [same]
      exact find?_least List.pairwise_lt_range'

/-- No window of the backward search leaves the text, and it finds what the search finds. -/
theorem findBackward?_eq (needle cs : List Char) (bound : Nat) :
    findBackward? needle cs bound = some (Text.lastIndexOf? needle cs bound) := by
  classical
  have finds := Text.lastIndexOf?_finds needle cs bound
  unfold findBackward?
  split
  next long =>
    refine congrArg _ (Finds.greatest_unique (r := none) ?_ finds)
    exact Set.eq_empty_of_forall_notMem fun i isIn => occurs_nowhere long isIn.2
  next fits =>
    dsimp only
    generalize last : min (cs.length - needle.length) bound = k
    have held : ∀ i, i ∈ (List.range (k + 1)).reverse ↔ i ≤ k := fun i => by
      rw [List.mem_reverse, List.mem_range, Nat.lt_succ_iff]
    rw [findWindow?_eq fun i isIn => by have := (held i).mp isIn; omega]
    refine congrArg _ (Finds.greatest_unique ?_ finds)
    have same : {i | i ≤ bound ∧ OccursAt needle cs i} =
        {i | i ∈ (List.range (k + 1)).reverse ∧ OccursAt needle cs i} := by
      refine Set.ext fun i => and_congr_left fun occurs => ?_
      have := occurs.inside
      rw [held]
      omega
    rw [same]
    exact find?_greatest (List.pairwise_reverse.mpr List.pairwise_lt_range)

end

theorem answers_of_finds {best : Set Nat → Nat → Prop} {positions : Set Nat} {r : Option Nat}
    (isIn : ∀ i, best positions i → i ∈ positions) (finds : Finds best positions r) :
    Answers best positions (positionValue r) := by
  refine answers_of_position isIn (fun i found => ?_) (fun nowhere => ?_)
  · rwa [found] at finds
  · rwa [nowhere] at finds

theorem isSome_iff_positionValue_ne {r : Option Nat} :
    r.isSome = true ↔ positionValue r ≠ .number (-1.0) := by
  cases r with
  | none => exact iff_of_false Bool.false_ne_true (fun other => other rfl)
  | some i => exact iff_of_true rfl (ofNat_ne_minusOne i)

/-- What the five searches in a string return when a position is given, for every string, needle and
position. -/
theorem text_searches (host : Host) (root : Value) (s : String) (needle position : Value) :
    let run := fun name => callMethod host root (.string s) name [needle, position]
    let t := needle.display.toList
    let cs := s.toList
    let p := (integer position.toNumber).clamped cs.length
    let last := if position.toNumber.isNaN then cs.length else p
    (∃ v, run "indexOf" = pure v ∧ Answers IsLeast {i | p ≤ i ∧ OccursAt t cs i} v ∧
      ∃ b, run "contains" = pure (.bool b) ∧ (b = true ↔ v ≠ .number (-1.0))) ∧
    (∃ v, run "lastIndexOf" = pure v ∧ Answers IsGreatest {i | i ≤ last ∧ OccursAt t cs i} v) ∧
    (∃ b, run "startsWith" = pure (.bool b) ∧ (b = true ↔ OccursAt t cs p)) ∧
    (∃ b, run "endsWith" = pure (.bool b) ∧ (b = true ↔ ∃ i, i + t.length = p ∧ OccursAt t cs i)) ∧
    (∀ i, OccursAt [] cs i ↔ i ≤ cs.length) ∧
    (∃ r, findForward? t cs p = some r ∧ run "indexOf" = pure (positionValue r)) ∧
    (∃ r, findBackward? t cs last = some r ∧ run "lastIndexOf" = pure (positionValue r)) ∧
    (part? cs p cs.length).isSome = true ∧ (part? cs 0 p).isSome = true := by
  intro run t cs p last
  have within : p ≤ cs.length := Number.Extended.clamped_le _ _
  have held : Number.clampIndex position.toNumber cs.length = p := Number.clampIndex_eq _ _
  have forward : run "indexOf" = pure (positionValue (Text.indexOf? t cs p)) := by
    rw [← held]
    rfl
  have backward : run "lastIndexOf" = pure (positionValue (Text.lastIndexOf? t cs last)) := by
    simp only [last, ← held]
    rfl
  refine ⟨⟨_, forward, ?_, (Text.indexOf? t cs p).isSome, ?_, isSome_iff_positionValue_ne⟩,
    ⟨_, backward, ?_⟩, ⟨Text.startsWith t (cs.drop p), ?_, ?_⟩,
    ⟨(Text.dropSuffix? t (cs.take p)).isSome, ?_, Text.dropSuffix?_take_isSome within⟩,
    fun i => Text.occursAt_nil, ⟨_, findForward?_eq within, forward⟩,
    ⟨_, findBackward?_eq t cs last, backward⟩, part?_isSome_iff.mpr ⟨within, Nat.le_refl _⟩,
    part?_isSome_iff.mpr ⟨Nat.zero_le p, within⟩⟩
  · exact answers_of_finds (fun _ least => least.1) (Text.indexOf?_finds t within)
  · rw [← held]
    rfl
  · exact answers_of_finds (fun _ greatest => greatest.1) (Text.lastIndexOf?_finds t cs last)
  · rw [← held]
    rfl
  · exact (occursAt_iff_startsWith within).symm
  · rw [← held]
    rfl

end DocExpr.Library
