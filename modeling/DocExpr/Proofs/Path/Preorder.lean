import DocExpr.Proofs.Path.Wildcard
import DocExpr.Proofs.Value.Structure

/-! The search for a name below a value. A position in a value is given by child numbers, and the
order of positions is that of lists of numbers: a value comes before what is in it, and what is in
a child before what is in a later one. The search looks at the objects of the value in this order,
at each of them once. -/
namespace DocExpr

namespace Value

/-- The value at a position; the children of an object are the values of its entries. -/
def at? : Value → List Nat → Option Value
  | v, [] => some v
  | v, i :: position => v.parts[i]?.bind (at? · position)

/-- An object in the child with the number `i`, by its position in the whole value. -/
def childObject (i : Nat) (o : List Nat × Entries Value) : List Nat × Entries Value :=
  (i :: o.1, o.2)

mutual
/-- The objects in a value and their positions; the value itself is one of them if it is an
object. -/
def objects : Value → List (List Nat × Entries Value)
  | .object entries => ([], entries) :: objectsOfEntries 0 entries
  | .array items => objectsOfItems 0 items
  | _ => []

/-- The objects in these items, the first of which has the number `i`. -/
def objectsOfItems (i : Nat) : List Value → List (List Nat × Entries Value)
  | [] => []
  | v :: vs => (objects v).map (childObject i) ++ objectsOfItems (i + 1) vs

/-- The objects in the values of these entries, the first of which has the number `i`. -/
def objectsOfEntries (i : Nat) : List (String × Value) → List (List Nat × Entries Value)
  | [] => []
  | (_, v) :: es => (objects v).map (childObject i) ++ objectsOfEntries (i + 1) es
end

/-- The value as an object at the position that leads nowhere from it. -/
def own : Value → List (List Nat × Entries Value)
  | .object entries => [([], entries)]
  | _ => []

theorem objectsOfEntries_eq (i : Nat) (entries : List (String × Value)) :
    objectsOfEntries i entries = objectsOfItems i (entries.map (·.2)) := by
  induction entries generalizing i with
  | nil => rfl
  | cons e es ih => rw [objectsOfEntries, ih, List.map_cons, objectsOfItems]

theorem objects_eq (v : Value) : v.objects = v.own ++ objectsOfItems 0 v.parts := by
  cases v with
  | object entries => rw [objects, objectsOfEntries_eq, own, parts, List.singleton_append]
  | _ => rfl

theorem mem_objectsOfItems {i : Nat} {vs : List Value} {o : List Nat × Entries Value} :
    o ∈ objectsOfItems i vs ↔
      ∃ n v, vs[n]? = some v ∧ ∃ o' ∈ v.objects, o = childObject (i + n) o' := by
  induction vs generalizing i with
  | nil => simp [objectsOfItems]
  | cons v vs ih =>
    rw [objectsOfItems, List.mem_append, List.mem_map, ih]
    constructor
    · rintro (⟨o', isIn, rfl⟩ | ⟨n, w, found, o', isIn, rfl⟩)
      · exact ⟨0, v, rfl, o', isIn, rfl⟩
      · exact ⟨n + 1, w, found, o', isIn, by rw [Nat.add_right_comm, Nat.add_assoc]⟩
    · rintro ⟨n, w, found, o', isIn, rfl⟩
      cases n with
      | zero =>
        cases found
        exact .inl ⟨o', isIn, rfl⟩
      | succ n => exact .inr ⟨n, w, found, o', isIn, by rw [Nat.add_right_comm, Nat.add_assoc]⟩

/-- All objects in a value are listed, each at its position. -/
theorem mem_objects_iff {v : Value} {position : List Nat} {entries : Entries Value} :
    (position, entries) ∈ v.objects ↔ v.at? position = some (.object entries) := by
  induction position generalizing v with
  | nil =>
    rw [objects_eq, List.mem_append, mem_objectsOfItems, at?]
    constructor
    · rintro (isOwn | ⟨n, w, found, o, isIn, same⟩)
      · cases v with
        | object es =>
          cases List.mem_singleton.mp isOwn
          rfl
        | _ => cases isOwn
      · cases same
    · intro same
      cases same
      exact .inl (List.mem_singleton_self _)
  | cons i position ih =>
    rw [objects_eq, List.mem_append, mem_objectsOfItems, at?, Option.bind_eq_some_iff]
    constructor
    · rintro (isOwn | ⟨n, w, found, o, isIn, same⟩)
      · cases v with
        | object es => cases List.mem_singleton.mp isOwn
        | _ => cases isOwn
      · cases same
        rw [Nat.zero_add]
        exact ⟨w, found, ih.mp isIn⟩
    · rintro ⟨w, found, below⟩
      exact .inr ⟨i, w, found, (position, entries), ih.mpr below, by rw [Nat.zero_add]; rfl⟩

theorem sorted_objectsOfItems {vs : List Value}
    (each : ∀ v ∈ vs, (v.objects.map (·.1)).Pairwise (· < ·)) (i : Nat) :
    ((objectsOfItems i vs).map (·.1)).Pairwise (· < ·) := by
  induction vs generalizing i with
  | nil => exact .nil
  | cons v vs ih =>
    obtain ⟨first, others⟩ := List.forall_mem_cons.mp each
    rw [objectsOfItems, List.map_append, List.pairwise_append]
    refine ⟨?_, ih others (i + 1), ?_⟩
    · rw [List.map_map, List.pairwise_map]
      exact (List.pairwise_map.mp first).imp List.cons_lt_cons_self.mpr
    · rw [List.forall_mem_map, List.forall_mem_map]
      intro o _ _ later
      obtain ⟨_, inside, rfl⟩ := List.mem_map.mp later
      obtain ⟨n, w, -, o', -, rfl⟩ := mem_objectsOfItems.mp inside
      exact .rel (by omega)

/-- The objects are listed in the order of their positions. -/
theorem sorted_objects (v : Value) : (v.objects.map (·.1)).Pairwise (· < ·) := by
  induction v using part_induction with
  | step v ih =>
    have below := sorted_objectsOfItems ih 0
    rw [objects_eq]
    cases v with
    | object entries =>
      rw [own, List.singleton_append, List.map_cons, List.pairwise_cons]
      refine ⟨fun _ isIn => ?_, below⟩
      obtain ⟨_, inside, rfl⟩ := List.mem_map.mp isIn
      obtain ⟨n, w, -, o, -, rfl⟩ := mem_objectsOfItems.mp inside
      exact .nil
    | _ => exact below

end Value

namespace Path

/-- The values under a name in the objects that have it. -/
def hits (name : String) (objects : List (List Nat × Entries Value)) : List Value :=
  objects.filterMap fun o => Entries.find? o.2 name

theorem hits_items (name : String) (i : Nat) (vs : List Value) :
    hits name (Value.objectsOfItems i vs) = vs.flatMap fun v => hits name v.objects := by
  induction vs generalizing i with
  | nil => rfl
  | cons v vs ih =>
    rw [Value.objectsOfItems, hits, List.filterMap_append, List.filterMap_map, List.flatMap_cons,
      ← ih (i + 1)]
    rfl

theorem hits_objects (name : String) (v : Value) :
    hits name v.objects =
      (v.get? name).toList ++ v.parts.flatMap fun part => hits name part.objects := by
  rw [Value.objects_eq, hits, List.filterMap_append, ← hits_items name 0]
  congr 1
  cases v with
  | object entries =>
    rw [Value.own, List.filterMap_cons, List.filterMap_nil, Value.get?]
    cases Entries.find? entries name with
    | none => rfl
    | some w => rfl
  | _ => rfl

theorem descendEntries_eq (name : String) (limit depth : Nat) (entries : List (String × Value)) :
    descendEntries name limit depth entries =
      descendItems name limit depth (entries.map (·.2)) := by
  induction entries with
  | nil => rfl
  | cons e es ih => rw [descendEntries, ih, List.map_cons, descendItems]

theorem descend_eq (name : String) (limit depth : Nat) (v : Value) :
    descend name limit depth v =
      if limit < depth then .error (tooDeep limit)
      else do
        let below ← v.parts.flatMapM (descend name limit (depth + 1))
        return (v.get? name).toList ++ below := by
  rw [← descendItems_eq_flatMapM]
  cases v with
  | object entries =>
    rw [descend, descendEntries_eq]
    rfl
  | array items =>
    rw [descend]
    change _ = if _ then _ else (descendItems name limit (depth + 1) items >>= pure)
    rw [bind_pure]
  | _ =>
    unfold descend
    rfl

/-- As long as nothing lies too deep, the search finds what the objects have. -/
theorem descend_objects (name : String) {limit depth : Nat} {v : Value}
    (within : ∀ position w, v.at? position = some w → depth + position.length ≤ limit) :
    descend name limit depth v = .ok (hits name v.objects) := by
  induction v using Value.part_induction generalizing depth with
  | step v ih =>
    have here := within [] v rfl
    have below : ∀ part ∈ v.parts,
        descend name limit (depth + 1) part = .ok (hits name part.objects) := by
      intro part isPart
      obtain ⟨i, found⟩ := List.mem_iff_getElem?.mp isPart
      refine ih part isPart fun position w there => ?_
      have deep := within (i :: position) w (by rw [Value.at?, found]; exact there)
      rw [List.length_cons] at deep
      omega
    rw [descend_eq, if_neg (by rw [List.length_nil] at here; omega), flatMapM_ok below,
      hits_objects]
    rfl

/-- Whatever lies too deep stops the search, whether it is an object or not. -/
theorem descend_beyond (name : String) {limit depth : Nat} {v w : Value} {position : List Nat}
    (there : v.at? position = some w) (deep : limit < depth + position.length) :
    descend name limit depth v = .error (tooDeep limit) := by
  induction position generalizing v depth with
  | nil => exact (descend_eq name limit depth v).trans (if_pos deep)
  | cons i position ih =>
    obtain ⟨part, found, there⟩ := Option.bind_eq_some_iff.mp there
    have below : descend name limit (depth + 1) part = .error (tooDeep limit) :=
      ih there (by rw [List.length_cons] at deep; omega)
    rw [descend_eq, flatMapM_failed (descend_fails name limit (depth + 1))
      (List.mem_of_getElem? found) below]
    exact ite_self _

theorem resolve_descent (guide : Guide) (name : String) (v : Value) :
    resolve guide v [.descent name] =
      Library.lift ((descend name guide.maxDepth 0 v).map Value.array) := by
  have plain : ∀ s ∈ [Expr.Segment.descent name], isPlain s = true :=
    List.forall_mem_singleton.mpr rfl
  rw [resolve_eq_moves guide plain, moves_cons, move, descent_one]
  cases descend name guide.maxDepth 0 v with
  | error e => rfl
  | ok ws => rfl

/-- A search for a name fails exactly when a value lies deeper than the limit. Else it gives the
value under the name in each object that has one, object by object in the order of their
positions. -/
theorem descent_in_preorder (guide : Guide) (name : String) (v : Value) :
    (resolve guide v [.descent name] = throw (tooDeep guide.maxDepth) ↔
        ∃ position w, v.at? position = some w ∧ guide.maxDepth < position.length) ∧
      ∃ objects : List (List Nat × Entries Value),
        (∀ position entries,
          (position, entries) ∈ objects ↔ v.at? position = some (.object entries)) ∧
        (objects.map (·.1)).Pairwise (· < ·) ∧
        (resolve guide v [.descent name] = throw (tooDeep guide.maxDepth) ∨
          resolve guide v [.descent name] =
            pure (.array (objects.filterMap fun o => Entries.find? o.2 name))) := by
  rw [resolve_descent]
  by_cases deep : ∃ position w, v.at? position = some w ∧ guide.maxDepth < position.length
  · obtain ⟨position, w, there, far⟩ := deep
    have failed : descend name guide.maxDepth 0 v = .error (tooDeep guide.maxDepth) :=
      descend_beyond name there (by omega)
    rw [failed]
    exact ⟨⟨fun _ => ⟨position, w, there, far⟩, fun _ => rfl⟩, v.objects,
      fun _ _ => Value.mem_objects_iff, v.sorted_objects, .inl rfl⟩
  · have within : ∀ position w, v.at? position = some w → 0 + position.length ≤ guide.maxDepth := by
      intro position w there
      have := Nat.not_lt.mp fun far => deep ⟨position, w, there, far⟩
      omega
    rw [descend_objects name within]
    refine ⟨⟨fun failed => ?_, fun far => absurd far deep⟩, v.objects,
      fun _ _ => Value.mem_objects_iff, v.sorted_objects, .inr rfl⟩
    cases lift_injective failed

/-- A hit comes before the hits in it, and both before the hits of a later entry. -/
example :
    descend "a" 9 0 (.object [("b", .object [("a", .array [.object [("a", .null)]])]),
      ("a", .bool true)]) =
      .ok [.bool true, .array [.object [("a", .null)]], .null] := rfl

end Path
end DocExpr
