/-! What stands in a tree, for any kind of tree that says which parts it holds directly. -/
namespace DocExpr

/-- What stands in a tree, however deep; the whole tree does too. -/
inductive Inside {α : Type} (parts : α → List α) (whole : α) : α → Prop where
  | whole : Inside parts whole whole
  | part {x y : α} (inside : Inside parts whole x) (isPart : y ∈ parts x) : Inside parts whole y

/-- A property of all that stands in a tree. -/
def Throughout {α : Type} (parts : α → List α) (P : α → Prop) (whole : α) : Prop :=
  ∀ x, Inside parts whole x → P x

section
variable {α : Type} {parts : α → List α} {P : α → Prop} {whole : α}

theorem Inside.cases_part {x : α} (inside : Inside parts whole x) :
    x = whole ∨ ∃ part ∈ parts whole, Inside parts part x := by
  induction inside with
  | whole => exact .inl rfl
  | part _ isPart ih =>
    rcases ih with rfl | ⟨part, isIn, inside⟩
    · exact .inr ⟨_, isPart, .whole⟩
    · exact .inr ⟨part, isIn, inside.part isPart⟩

theorem Inside.of_part {part x : α} (isPart : part ∈ parts whole) (inside : Inside parts part x) :
    Inside parts whole x := by
  induction inside with
  | whole => exact .part .whole isPart
  | part _ isPart' ih => exact ih.part isPart'

theorem Throughout.of_parts (here : P whole)
    (below : ∀ part ∈ parts whole, Throughout parts P part) : Throughout parts P whole := by
  intro x inside
  rcases inside.cases_part with rfl | ⟨part, isPart, inside⟩
  · exact here
  · exact below part isPart x inside

theorem Throughout.here (h : Throughout parts P whole) : P whole := h whole .whole

theorem Throughout.below (h : Throughout parts P whole) {part : α} (isPart : part ∈ parts whole) :
    Throughout parts P part :=
  fun x inside => h x (.of_part isPart inside)

end

end DocExpr
