/-! Lists whose items are related place by place, where what the relation asks may differ from place
to place. -/
namespace DocExpr

/-- Two lists of one length are related in all places, of which the first one is place `i`. -/
inductive Placewise {α β : Type} (rel : Nat → α → β → Prop) : Nat → List α → List β → Prop where
  | nil (i : Nat) : Placewise rel i [] []
  | cons {i : Nat} {a : α} {b : β} {as : List α} {bs : List β} (first : rel i a b)
      (others : Placewise rel (i + 1) as bs) : Placewise rel i (a :: as) (b :: bs)

namespace Placewise
variable {α β : Type}

theorem length_eq {rel : Nat → α → β → Prop} {i : Nat} {as : List α} {bs : List β}
    (related : Placewise rel i as bs) : bs.length = as.length := by
  induction related with
  | nil i => rfl
  | cons first others ih => rw [List.length_cons, List.length_cons, ih]

theorem getElem? {rel : Nat → α → β → Prop} {i : Nat} {as : List α} {bs : List β}
    (related : Placewise rel i as bs) (j : Nat) : Option.Rel (rel (i + j)) as[j]? bs[j]? := by
  induction related generalizing j with
  | nil i => exact .none
  | cons first others ih =>
    cases j with
    | zero => exact .some first
    | succ j =>
      rw [← Nat.succ_add_eq_add_succ]
      exact ih j

theorem mono {rel rel' : Nat → α → β → Prop} {i : Nat} {as : List α} {bs : List β}
    (related : Placewise rel i as bs) (imp : ∀ i a b, rel i a b → rel' i a b) :
    Placewise rel' i as bs := by
  induction related with
  | nil i => exact .nil i
  | cons first others ih => exact .cons (imp _ _ _ first) ih

/-- A list and its items with their places. -/
theorem zipIdx {rel : Nat → α → α × Nat → Prop} (each : ∀ i a, rel i a (a, i)) (i : Nat)
    (as : List α) : Placewise rel i as (as.zipIdx i) := by
  induction as generalizing i with
  | nil => exact .nil i
  | cons a as ih => exact .cons (each i a) (ih (i + 1))

variable {rel : Nat → α → α → Prop} {as bs : List α}

theorem refl (same : ∀ i a, rel i a a) (i : Nat) (as : List α) : Placewise rel i as as := by
  induction as generalizing i with
  | nil => exact .nil i
  | cons a as ih => exact .cons (same i a) (ih (i + 1))

theorem eq {i : Nat} (related : Placewise rel i as bs) (same : ∀ i a b, rel i a b → b = a) :
    bs = as := by
  induction related with
  | nil i => rfl
  | cons first others ih => rw [same _ _ _ first, ih]

theorem getElem?_eq (related : Placewise rel 0 as bs) (j : Nat)
    (same : ∀ a b, rel j a b → b = a) : bs[j]? = as[j]? := by
  have place := related.getElem? j
  rw [Nat.zero_add] at place
  generalize as[j]? = a at place ⊢
  generalize bs[j]? = b at place ⊢
  cases place with
  | none => rfl
  | some related => rw [same _ _ related]

end Placewise
end DocExpr
