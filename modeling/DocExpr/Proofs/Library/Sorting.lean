import DocExpr.Library.Array
import Mathlib.Data.List.Basic

/-! What sorting returns, whatever the comparator does.

A comparator is a computation: it may fail, change a state, and contradict itself. `Asks` separates
the comparisons that a sort makes from what it does with the answers. The answers it got determine
its result through `Merges` and `Sorts`, which know nothing of computations. -/
namespace DocExpr.Library
open Std (TransCmp OrientedCmp ReflCmp)

section
variable {α β γ ε σ : Type}

/-- Comparisons made one after the other, none of which fails, with their answers. -/
inductive Compares (compare : α → α → ExceptT ε (StateM σ) Ordering) :
    σ → List (α × α × Ordering) → σ → Prop
  | nothing (s : σ) : Compares compare s [] s
  | next {a b : α} {answer : Ordering} {calls : List (α × α × Ordering)} {s t u : σ} :
      (compare a b).run.run s = (.ok answer, t) → Compares compare t calls u →
        Compares compare s ((a, b, answer) :: calls) u

/-- A computation that does nothing but compare: it ends in the error of the first comparison that
fails, and otherwise in a result that goes with the answers. -/
def Asks (compare : α → α → ExceptT ε (StateM σ) Ordering) (act : ExceptT ε (StateM σ) β)
    (returns : List (α × α × Ordering) → β → Prop) : Prop :=
  ∀ s, (∃ calls b t, Compares compare s calls t ∧ act.run.run s = (.ok b, t) ∧ returns calls b) ∨
    ∃ calls t x y e u, Compares compare s calls t ∧ (compare x y).run.run t = (.error e, u) ∧
      act.run.run s = (.error e, u)

variable {compare : α → α → ExceptT ε (StateM σ) Ordering}

theorem Compares.append {s t u : σ} {calls calls' : List (α × α × Ordering)}
    (before : Compares compare s calls t) (after : Compares compare t calls' u) :
    Compares compare s (calls ++ calls') u := by
  induction before with
  | nothing => exact after
  | next asked _ ih => exact .next asked (ih after)

theorem Asks.pure {b : β} {returns : List (α × α × Ordering) → β → Prop}
    (admitted : returns [] b) : Asks compare (pure b) returns :=
  fun s => .inl ⟨[], b, s, .nothing s, rfl, admitted⟩

theorem Asks.call (a b : α) :
    Asks compare (compare a b) fun calls answer => calls = [(a, b, answer)] := by
  intro s
  cases outcome : (compare a b).run.run s with
  | mk result t =>
    cases result with
    | ok answer => exact .inl ⟨_, answer, t, .next outcome (.nothing t), rfl, rfl⟩
    | error e => exact .inr ⟨[], s, a, b, e, t, .nothing s, outcome, rfl⟩

theorem Asks.mono {act : ExceptT ε (StateM σ) β}
    {returns returns' : List (α × α × Ordering) → β → Prop} (asks : Asks compare act returns)
    (weaker : ∀ calls b, returns calls b → returns' calls b) : Asks compare act returns' := by
  intro s
  rcases asks s with ⟨calls, b, t, asked, ends, admitted⟩ | fails
  · exact .inl ⟨calls, b, t, asked, ends, weaker calls b admitted⟩
  · exact .inr fails

theorem Asks.bind {act : ExceptT ε (StateM σ) β} {next : β → ExceptT ε (StateM σ) γ}
    {first : List (α × α × Ordering) → β → Prop} {returns : List (α × α × Ordering) → γ → Prop}
    (before : Asks compare act first)
    (after : ∀ calls b, first calls b →
      Asks compare (next b) fun calls' => returns (calls ++ calls')) :
    Asks compare (act >>= next) returns := by
  intro s
  have sequence : (act >>= next).run.run s =
      (ExceptT.bindCont next (act.run.run s).1).run (act.run.run s).2 := rfl
  rcases before s with
    ⟨calls, b, t, asked, ends, admitted⟩ | ⟨calls, t, x, y, e, u, asked, fails, ends⟩
  · rw [ends] at sequence
    rcases after calls b admitted t with
      ⟨calls', c, u, asked', ends', admitted'⟩ | ⟨calls', u, x, y, e, v, asked', fails, ends'⟩
    · exact .inl ⟨calls ++ calls', c, u, asked.append asked', sequence.trans ends', admitted'⟩
    · exact .inr ⟨calls ++ calls', u, x, y, e, v, asked.append asked', fails, sequence.trans ends'⟩
  · rw [ends] at sequence
    exact .inr ⟨calls, t, x, y, e, u, asked, fails, sequence⟩

end

section
variable {α : Type}

/-- What merging returns when comparisons are answered this way, in this order. -/
inductive Merges : List (α × α × Ordering) → List α → List α → List α → Prop
  | leftDone (ys : List α) : Merges [] [] ys ys
  | rightDone (xs : List α) : Merges [] xs [] xs
  | takeRight {calls : List (α × α × Ordering)} {l r : α} {left right out : List α} :
      Merges calls (l :: left) right out →
        Merges ((r, l, .lt) :: calls) (l :: left) (r :: right) (r :: out)
  | takeLeft {calls : List (α × α × Ordering)} {l r : α} {left right out : List α}
      {answer : Ordering} : answer ≠ .lt → Merges calls left (r :: right) out →
        Merges ((r, l, answer) :: calls) (l :: left) (r :: right) (l :: out)

/-- What sorting returns when comparisons are answered this way, in this order. -/
inductive Sorts : List (α × α × Ordering) → List α → List α → Prop
  | short {xs : List α} : xs.length ≤ 1 → Sorts [] xs xs
  | halves {calls calls' calls'' : List (α × α × Ordering)}
      {front back sortedFront sortedBack out : List α} : Sorts calls front sortedFront →
        Sorts calls' back sortedBack → Merges calls'' sortedFront sortedBack out →
          Sorts (calls ++ (calls' ++ calls'')) (front ++ back) out

/-- The answers are those of an order. -/
def Follows (order : α → α → Ordering) (calls : List (α × α × Ordering)) : Prop :=
  ∀ a b answer, (a, b, answer) ∈ calls → answer = order a b

theorem Follows.append_iff {order : α → α → Ordering} {calls calls' : List (α × α × Ordering)} :
    Follows order (calls ++ calls') ↔ Follows order calls ∧ Follows order calls' := by
  simp only [Follows, List.mem_append, or_imp, forall_and]

theorem Follows.head {order : α → α → Ordering} {a b : α} {answer : Ordering}
    {calls : List (α × α × Ordering)} (follows : Follows order ((a, b, answer) :: calls)) :
    answer = order a b :=
  follows a b answer List.mem_cons_self

theorem Follows.tail {order : α → α → Ordering} {call : α × α × Ordering}
    {calls : List (α × α × Ordering)} (follows : Follows order (call :: calls)) :
    Follows order calls :=
  fun a b answer isIn => follows a b answer (List.mem_cons_of_mem call isIn)

theorem Merges.perm {calls : List (α × α × Ordering)} {left right out : List α}
    (merges : Merges calls left right out) : out.Perm (left ++ right) := by
  induction merges with
  | leftDone ys => exact .refl ys
  | rightDone xs => rw [List.append_nil]
  | takeRight _ ih => exact (List.Perm.cons _ ih).trans List.perm_middle.symm
  | takeLeft _ _ ih => exact List.Perm.cons _ ih

theorem Sorts.perm {calls : List (α × α × Ordering)} {xs out : List α}
    (sorts : Sorts calls xs out) : out.Perm xs := by
  induction sorts with
  | short => exact .refl _
  | halves _ _ merges front back => exact merges.perm.trans (front.append back)

/-- Each item comes before or together with all that follow it. -/
def Ordered (order : α → α → Ordering) (xs : List α) : Prop :=
  xs.Pairwise fun a b => (order a b).isLE

variable {order : α → α → Ordering} [TransCmp order]

theorem Merges.ordered {calls : List (α × α × Ordering)} {left right out : List α}
    (merges : Merges calls left right out) (follows : Follows order calls)
    (orderedLeft : Ordered order left) (orderedRight : Ordered order right) :
    Ordered order out := by
  induction merges with
  | leftDone => exact orderedRight
  | rightDone => exact orderedLeft
  | @takeRight calls l r left right out merges ih =>
    have less : order r l = .lt := follows.head.symm
    obtain ⟨afterRight, orderedRight⟩ := List.pairwise_cons.mp orderedRight
    refine List.pairwise_cons.mpr ⟨fun x isIn => ?_, ih follows.tail orderedLeft orderedRight⟩
    rcases List.mem_append.mp (merges.perm.mem_iff.mp isIn) with fromLeft | fromRight
    · rcases List.mem_cons.mp fromLeft with rfl | later
      · simp [less]
      · have behind := List.rel_of_pairwise_cons orderedLeft later
        simp [TransCmp.lt_of_lt_of_isLE less behind]
    · exact afterRight x fromRight
  | @takeLeft calls l r left right out answer notLess merges ih =>
    have least : (order l r).isLE := by
      rw [← OrientedCmp.isGE_iff_isLE, Ordering.isGE_iff_ne_lt, ← follows.head]
      exact notLess
    obtain ⟨afterLeft, orderedLeft⟩ := List.pairwise_cons.mp orderedLeft
    refine List.pairwise_cons.mpr ⟨fun x isIn => ?_, ih follows.tail orderedLeft orderedRight⟩
    rcases List.mem_append.mp (merges.perm.mem_iff.mp isIn) with fromLeft | fromRight
    · exact afterLeft x fromLeft
    · rcases List.mem_cons.mp fromRight with rfl | later
      · exact least
      · exact TransCmp.isLE_trans least (List.rel_of_pairwise_cons orderedRight later)

theorem Sorts.ordered {calls : List (α × α × Ordering)} {xs out : List α}
    (sorts : Sorts calls xs out) (follows : Follows order calls) : Ordered order out := by
  induction sorts with
  | @short xs short =>
    match xs, short with
    | [], _ => exact .nil
    | [x], _ => exact List.pairwise_singleton _ x
  | halves _ _ merges front back =>
    obtain ⟨inFront, rest⟩ := Follows.append_iff.mp follows
    obtain ⟨inBack, inMerge⟩ := Follows.append_iff.mp rest
    exact merges.ordered inMerge (front inFront) (back inBack)

/-- The items of a list that an order does not tell from `a`, as they come. -/
def ties (order : α → α → Ordering) (a : α) (xs : List α) : List α :=
  xs.filter fun x => order a x == .eq

omit [TransCmp order] in
theorem ties_cons_tied {a x : α} (xs : List α) (tied : order a x = .eq) :
    ties order a (x :: xs) = x :: ties order a xs := by
  simp [ties, tied]

omit [TransCmp order] in
theorem ties_cons_untied {a x : α} (xs : List α) (untied : order a x ≠ .eq) :
    ties order a (x :: xs) = ties order a xs := by
  simp [ties, untied]

/-- An item taken from the right part is less than all that is left of the left part, so no item
there ties with what it ties with. -/
theorem ties_of_less {a l r : α} {left : List α} (ordered : Ordered order (l :: left))
    (less : order r l = .lt) (tied : order a r = .eq) : ties order a (l :: left) = [] := by
  refine List.filter_eq_nil_iff.mpr fun x isIn => ?_
  have behind : (order l x).isLE := by
    rcases List.mem_cons.mp isIn with rfl | later
    · simp [ReflCmp.compare_self]
    · exact List.rel_of_pairwise_cons ordered later
  have apart : order a x = .lt :=
    TransCmp.lt_of_eq_of_lt tied (TransCmp.lt_of_lt_of_isLE less behind)
  simp [apart]

theorem Merges.ties {calls : List (α × α × Ordering)} {left right out : List α}
    (merges : Merges calls left right out) (follows : Follows order calls)
    (orderedLeft : Ordered order left) (a : α) :
    ties order a out = ties order a left ++ ties order a right := by
  induction merges with
  | leftDone => rfl
  | rightDone => exact (List.append_nil _).symm
  | @takeRight calls l r left right out merges ih =>
    have later := ih follows.tail orderedLeft
    by_cases tied : order a r = .eq
    · rw [ties_of_less orderedLeft follows.head.symm tied] at later ⊢
      rw [ties_cons_tied _ tied, ties_cons_tied _ tied, later]
      rfl
    · rw [ties_cons_untied _ tied, ties_cons_untied _ tied, later]
  | @takeLeft calls l r left right out answer notLess merges ih =>
    have later := ih follows.tail (List.pairwise_cons.mp orderedLeft).2
    by_cases tied : order a l = .eq
    · rw [ties_cons_tied _ tied, ties_cons_tied _ tied, later]
      rfl
    · rw [ties_cons_untied _ tied, ties_cons_untied _ tied, later]

theorem Sorts.ties {calls : List (α × α × Ordering)} {xs out : List α}
    (sorts : Sorts calls xs out) (follows : Follows order calls) (a : α) :
    ties order a out = ties order a xs := by
  induction sorts with
  | short => rfl
  | @halves calls calls' calls'' front back sortedFront sortedBack out sortsFront _ merges ihFront
      ihBack =>
    obtain ⟨inFront, rest⟩ := Follows.append_iff.mp follows
    obtain ⟨inBack, inMerge⟩ := Follows.append_iff.mp rest
    calc Library.ties order a out
        = Library.ties order a sortedFront ++ Library.ties order a sortedBack :=
          merges.ties inMerge (sortsFront.ordered inFront) a
      _ = Library.ties order a front ++ Library.ties order a back := by
          rw [ihFront inFront, ihBack inBack]
      _ = Library.ties order a (front ++ back) := (List.filter_append ..).symm

end

section
variable {α ε σ : Type} (compare : α → α → ExceptT ε (StateM σ) Ordering)

theorem asks_mergeLoop (fuel : Nat) (left right : List α)
    (enough : left.length + right.length ≤ fuel) :
    Asks compare (mergeLoop compare fuel left right) fun calls out =>
      Merges calls left right out := by
  induction fuel generalizing left right with
  | zero =>
    obtain rfl : left = [] := List.eq_nil_of_length_eq_zero (by omega)
    exact .pure (.leftDone right)
  | succ fuel ih =>
    match left, right with
    | [], right => exact .pure (.leftDone right)
    | l :: left, [] => exact .pure (.rightDone (l :: left))
    | l :: left, r :: right =>
      simp only [List.length_cons] at enough
      refine .bind (.call r l) ?_
      rintro _ answer rfl
      by_cases less : answer = .lt
      · subst less
        have later := ih (l :: left) right (by simp only [List.length_cons]; omega)
        exact later.bind fun calls out merges => .pure (by simpa using .takeRight merges)
      · have later := ih left (r :: right) (by simp only [List.length_cons]; omega)
        have takes : Asks compare
            (mergeLoop compare fuel left (r :: right) >>= fun out => Pure.pure (l :: out))
            fun calls out => Merges ([(r, l, answer)] ++ calls) (l :: left) (r :: right) out :=
          later.bind fun calls out merges => .pure (by simpa using .takeLeft less merges)
        cases answer with
        | lt => exact absurd rfl less
        | eq => exact takes
        | gt => exact takes

theorem asks_sortLoop (fuel : Nat) (xs : List α) (enough : xs.length ≤ fuel) :
    Asks compare (sortLoop compare fuel xs) fun calls out => Sorts calls xs out := by
  induction fuel generalizing xs with
  | zero => exact .pure (.short (by omega))
  | succ fuel ih =>
    rw [sortLoop]
    split
    next short => exact .pure (.short short)
    next long =>
      have whole : xs.take (xs.length / 2) ++ xs.drop (xs.length / 2) = xs :=
        List.take_append_drop ..
      refine .bind (ih _ (by rw [List.length_take]; omega)) fun calls front sortsFront => ?_
      refine .bind (ih _ (by rw [List.length_drop]; omega)) fun calls' back sortsBack => ?_
      have lengths : front.length + back.length = xs.length := by
        rw [sortsFront.perm.length_eq, sortsBack.perm.length_eq, ← List.length_append, whole]
      refine (asks_mergeLoop compare xs.length front back (Nat.le_of_eq lengths)).mono
        fun calls'' out merges => ?_
      have halves := Sorts.halves sortsFront sortsBack merges
      rwa [whole] at halves

theorem asks_mergeSort (xs : List α) :
    Asks compare (mergeSort compare xs) fun calls out => Sorts calls xs out :=
  asks_sortLoop compare xs.length xs (Nat.le_refl _)

end

section
variable {α : Type} {m : Type → Type} [Monad m] [LawfulMonad m] (order : α → α → Ordering)

theorem mergeLoop_pure (fuel : Nat) (left right : List α) :
    mergeLoop (m := m) (fun a b => pure (order a b)) fuel left right =
      pure (Id.run (mergeLoop (fun a b => pure (order a b)) fuel left right)) := by
  induction fuel generalizing left right with
  | zero => rfl
  | succ fuel ih =>
    match left, right with
    | [], right => rfl
    | l :: left, [] => rfl
    | l :: left, r :: right =>
      simp only [mergeLoop, pure_bind]
      cases order r l <;> simp only [ih, pure_bind, Id.run_bind, Id.run_pure]

theorem sortLoop_pure (fuel : Nat) (xs : List α) :
    sortLoop (m := m) (fun a b => pure (order a b)) fuel xs =
      pure (Id.run (sortLoop (fun a b => pure (order a b)) fuel xs)) := by
  induction fuel generalizing xs with
  | zero => rfl
  | succ fuel ih =>
    simp only [sortLoop]
    split
    · rfl
    · simp only [ih, mergeLoop_pure (m := m), pure_bind, Id.run_bind]

end

theorem Compares.follows {α ε σ : Type} {compare : α → α → ExceptT ε (StateM σ) Ordering}
    {order : α → α → Ordering} {s t : σ} {calls : List (α × α × Ordering)}
    (compares : Compares compare s calls t)
    (answers : ∀ a b s answer t, (compare a b).run.run s = (.ok answer, t) → answer = order a b) :
    Follows order calls := by
  induction compares with
  | nothing => exact fun a b answer isIn => nomatch isIn
  | @next a b answer calls s t u asked _ ih =>
    intro a' b' answer' isIn
    rcases List.mem_cons.mp isIn with same | later
    · cases same
      exact answers a b s answer t asked
    · exact ih a' b' answer' later

theorem sorts_mergeSort {α : Type} (order : α → α → Ordering) (xs : List α) :
    ∃ calls, Follows order calls ∧
      Sorts calls xs (Id.run (mergeSort (fun a b => pure (order a b)) xs)) := by
  let compare : α → α → ExceptT Empty (StateM Unit) Ordering := fun a b => pure (order a b)
  have same : (mergeSort compare xs).run.run () =
      (.ok (Id.run (mergeSort (fun a b => pure (order a b)) xs)), ()) := by
    rw [mergeSort, sortLoop_pure]
    rfl
  rcases asks_mergeSort compare xs () with
    ⟨calls, ys, t, asked, ends, sorts⟩ | ⟨calls, t, x, y, e, u, asked, fails, ends⟩
  · refine ⟨calls, asked.follows fun a b s answer t answered => ?_, ?_⟩
    · cases answered
      rfl
    · cases same.symm.trans ends
      exact sorts
  · exact nomatch e

end DocExpr.Library

namespace DocExpr
open Std (TransCmp OrientedCmp ReflCmp)

theorem transCmp_on {α β : Type} (f : α → β) (cmp : β → β → Ordering) [TransCmp cmp] :
    TransCmp fun a b => cmp (f a) (f b) where
  eq_swap := OrientedCmp.eq_swap
  isLE_trans := TransCmp.isLE_trans

theorem Text.compareLists_eq {α : Type} (compare : α → α → Ordering) (xs ys : List α) :
    compareLists compare xs ys = xs.compareLex compare ys := by
  induction xs generalizing ys with
  | nil => cases ys <;> rfl
  | cons x xs ih =>
    cases ys with
    | nil => rfl
    | cons y ys => rw [compareLists, List.compareLex_cons_cons, ih]

instance Text.transCmp_compareUnits : TransCmp Text.compareUnits := by
  have byUnits : compareUnits = fun s t => (units s).compareLex Ord.compare (units t) :=
    funext₂ fun s t => compareLists_eq _ _ _
  rw [byUnits]
  exact transCmp_on units _

/-- Nulls last, and the rest by their display texts; nulls have the same display text. -/
theorem Value.compareDefault_eq (a b : Value) :
    a.compareDefault b =
      (Ord.compare a.isNull b.isNull).then (Text.compareUnits a.display b.display) := by
  unfold compareDefault
  cases left : a.isNull <;> cases right : b.isNull
  case true.true =>
    have same : Text.compareUnits (display .null) (display .null) = .eq := ReflCmp.compare_self
    rw [eq_null_of_isNull left, eq_null_of_isNull right, same]
    rfl
  all_goals rfl

instance Value.transCmp_compareDefault : TransCmp Value.compareDefault := by
  have lexicographic : compareDefault =
      compareLex (fun a b => Ord.compare a.isNull b.isNull)
        (fun a b => Text.compareUnits a.display b.display) :=
    funext₂ compareDefault_eq
  have nulls := transCmp_on isNull Ord.compare
  have texts := transCmp_on display Text.compareUnits
  rw [lexicographic]
  infer_instance

namespace Library

/-- Sorting loses no item and adds none. When the answers are those of a total preorder, the items
come in its order and those that tie keep theirs; a comparison that fails makes the sort fail with
its error, in the state it left. Sorting without a comparator uses such an order. -/
theorem sort_stable {α ε σ : Type} (compare : α → α → ExceptT ε (StateM σ) Ordering) (xs : List α)
    (s : σ) (items : List Value) :
    ((∃ calls ys t, Compares compare s calls t ∧
          (mergeSort compare xs).run.run s = (.ok ys, t) ∧ ys.Perm xs ∧
          ∀ order, TransCmp order → Follows order calls →
            Ordered order ys ∧ ∀ a, ties order a ys = ties order a xs) ∨
        ∃ calls t a b e u, Compares compare s calls t ∧ (compare a b).run.run t = (.error e, u) ∧
          (mergeSort compare xs).run.run s = (.error e, u)) ∧
      TransCmp Value.compareDefault ∧ (sortDefault items).Perm items ∧
      Ordered Value.compareDefault (sortDefault items) ∧
      ∀ v, ties Value.compareDefault v (sortDefault items) = ties Value.compareDefault v items := by
  obtain ⟨calls, follows, sorts⟩ := sorts_mergeSort Value.compareDefault items
  refine ⟨?_, inferInstance, sorts.perm, sorts.ordered follows, sorts.ties follows⟩
  rcases asks_mergeSort compare xs s with ⟨calls, ys, t, asked, ends, sorts⟩ | fails
  · refine .inl ⟨calls, ys, t, asked, ends, sorts.perm, fun order trans follows => ?_⟩
    exact ⟨sorts.ordered follows, sorts.ties follows⟩
  · exact .inr fails

def pairs : List (Nat × Char) := [(2, 'a'), (1, 'b'), (2, 'c'), (1, 'd')]

def byFirst (p q : Nat × Char) : Ordering := Ord.compare p.1 q.1

/-- Counts the comparisons. -/
def countedByFirst (p q : Nat × Char) : ExceptT String (StateM Nat) Ordering := do
  modify (· + 1)
  return byFirst p q

/-- Pairs of one number stay in the order of the input. -/
theorem pairs_keep_order : ∃ ys t,
    (mergeSort countedByFirst pairs).run.run 0 = (.ok ys, t) ∧ ys.Perm pairs ∧
      Ordered byFirst ys ∧ ties byFirst (1, 'x') ys = [(1, 'b'), (1, 'd')] ∧
      (sortDefault [.null, .number 10.0, .number 9.0]).Perm [.null, .number 10.0, .number 9.0] := by
  have trans : TransCmp byFirst := transCmp_on Prod.fst Ord.compare
  obtain ⟨sorted, -, perm, -, -⟩ :=
    sort_stable countedByFirst pairs 0 [.null, .number 10.0, .number 9.0]
  rcases sorted with ⟨calls, ys, t, compares, ends, permutes, respects⟩ | fails
  · have follows : Follows byFirst calls := compares.follows fun a b s answer t answered => by
      cases answered
      rfl
    obtain ⟨ordered, keeps⟩ := respects byFirst trans follows
    exact ⟨ys, t, ends, permutes, ordered, (keeps (1, 'x')).trans (by decide), perm⟩
  · obtain ⟨calls, t, a, b, e, u, -, fails, -⟩ := fails
    cases fails

end Library
end DocExpr
