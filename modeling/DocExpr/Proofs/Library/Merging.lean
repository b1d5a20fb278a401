import DocExpr.Library.Dispatch
import DocExpr.Proofs.Value.Equality
import Mathlib.Data.List.Basic

/-! Deep merging. What a merge holds under a key is decided by what the two objects hold there, so
its laws come from those of values: merging a value into itself gives it back, and merging a value
in twice is merging it in once. Along a path of keys the new object wins where it ends in something
other than an object, and the old one where the new one has no such key. -/
namespace DocExpr

namespace Entries
variable {α : Type}

theorem find?_eq_none_iff {entries : Entries α} {key : String} :
    entries.find? key = none ↔ key ∉ entries.keys := by
  rw [← has_eq_true_iff, has, Bool.not_eq_true, Option.isSome_eq_false_iff, Option.isNone_iff_eq_none]

theorem keys_cons (key : String) (value : α) (rest : Entries α) :
    keys ((key, value) :: rest) = key :: keys rest := rfl

/-- Entries with distinct keys are known by their keys and by what stands under each. -/
theorem ext_of_nodup {es fs : Entries α} (distinct : es.keys.Nodup) (keys : es.keys = fs.keys)
    (values : ∀ key, es.find? key = fs.find? key) : es = fs := by
  induction es generalizing fs with
  | nil => exact (List.map_eq_nil_iff.mp keys.symm).symm
  | cons e es ih =>
    cases fs with
    | nil => cases keys
    | cons f fs =>
      obtain ⟨k, v⟩ := e
      obtain ⟨l, w⟩ := f
      rw [keys_cons] at distinct
      rw [keys_cons, keys_cons, List.cons.injEq] at keys
      obtain ⟨rfl, keys⟩ := keys
      obtain ⟨absent, distinct⟩ := List.nodup_cons.mp distinct
      have here := values k
      rw [find?_cons, find?_cons, if_pos rfl, if_pos rfl] at here
      cases here
      have others : ∀ key, find? es key = find? fs key := by
        intro key
        by_cases same : key = k
        · rw [same, find?_eq_none_iff.mpr absent, find?_eq_none_iff.mpr (keys ▸ absent)]
        · have there := values key
          rwa [find?_cons, find?_cons, if_neg same, if_neg same] at there
      rw [ih distinct keys others]

end Entries

namespace Library

theorem find?_mergeEntries {b : Entries Value} (distinct : b.keys.Nodup) (a : Entries Value)
    (key : String) :
    Entries.find? (mergeEntries a b) key =
      match b.find? key with
      | some v => some (mergeValue (a.find? key) v)
      | none => a.find? key := by
  induction b generalizing a with
  | nil => rfl
  | cons e b ih =>
    obtain ⟨k, v⟩ := e
    rw [Entries.keys_cons] at distinct
    obtain ⟨absent, distinct⟩ := List.nodup_cons.mp distinct
    rw [mergeEntries, ih distinct, Entries.find?_cons, Entries.find?_insert]
    by_cases same : key = k
    · rw [same, if_pos rfl, if_pos rfl, Entries.find?_eq_none_iff.mpr absent]
    · rw [if_neg same, if_neg same]

theorem keys_mergeEntries {b : Entries Value} (distinct : b.keys.Nodup) (a : Entries Value) :
    Entries.keys (mergeEntries a b) = a.keys ++ b.keys.filter (· ∉ a.keys) := by
  induction b generalizing a with
  | nil => exact (List.append_nil _).symm
  | cons e b ih =>
    obtain ⟨k, v⟩ := e
    rw [Entries.keys_cons] at distinct ⊢
    obtain ⟨absent, distinct⟩ := List.nodup_cons.mp distinct
    rw [mergeEntries, ih distinct, Entries.keys_insert]
    by_cases there : k ∈ a.keys
    · rw [if_pos there, List.filter_cons_of_neg (by simpa using there)]
    · rw [if_neg there, List.filter_cons_of_pos (by simpa using there), List.append_assoc,
        List.singleton_append]
      have same : (Entries.keys b).filter (· ∉ a.keys ++ [k]) =
          (Entries.keys b).filter (· ∉ a.keys) := by
        refine List.filter_congr fun key isIn => ?_
        have other : key ≠ k := fun same => absent (same ▸ isIn)
        simp [other]
      rw [same]

theorem nodup_keys_mergeEntries {a b : Entries Value} (distinct : a.keys.Nodup) :
    (Entries.keys (mergeEntries a b)).Nodup := by
  induction b generalizing a with
  | nil => exact distinct
  | cons e b ih =>
    obtain ⟨k, v⟩ := e
    rw [mergeEntries]
    exact ih (Entries.nodup_keys_insert distinct k _)

/-- Where no key is new, a merge is known by its values. -/
theorem mergeEntries_eq_of_values {a b : Entries Value} (distinct : a.keys.Nodup)
    (distinct' : b.keys.Nodup) (known : ∀ key ∈ b.keys, key ∈ a.keys)
    (values : ∀ key v, b.find? key = some v → some (mergeValue (a.find? key) v) = a.find? key) :
    mergeEntries a b = a := by
  refine (Entries.ext_of_nodup distinct ?_ fun key => ?_).symm
  · rw [keys_mergeEntries distinct', List.filter_eq_nil_iff.mpr, List.append_nil]
    intro key isIn
    simpa using known key isIn
  · rw [find?_mergeEntries distinct']
    cases found : Entries.find? b key with
    | none => rfl
    | some v => exact (values key v found).symm

theorem mergeValue_of_no_object {v : Value} (noObject : ∀ es, v ≠ .object es)
    (old : Option Value) : mergeValue old v = v := by
  cases v with
  | object es => exact absurd rfl (noObject es)
  | _ => rfl

theorem mergeValue_objects (a b : Entries Value) :
    mergeValue (some (.object a)) (.object b) = .object (mergeEntries a b) := by
  rw [mergeValue]

/-- An object that meets no object stays. -/
theorem mergeValue_of_no_old {old : Option Value} (noObject : ∀ es, old ≠ some (.object es))
    (v : Value) : mergeValue old v = v := by
  cases v with
  | object b =>
    rw [mergeValue]
    exact fun es => noObject es
  | _ => rfl

/-- Merging a value into itself changes nothing. -/
theorem mergeValue_self {v : Value} (distinct : v.DistinctKeys) : mergeValue (some v) v = v := by
  induction v using Value.part_induction with
  | step v ih =>
    cases v with
    | object es =>
      have distinct' : (Entries.keys es).Nodup := distinct es .whole
      rw [mergeValue_objects]
      congr 1
      refine mergeEntries_eq_of_values distinct' distinct' (fun _ isIn => isIn) fun k v found => ?_
      have isPart := Value.mem_parts_of_entry (Entries.mem_of_find? found)
      rw [found, ih v isPart (distinct.part isPart)]
    | _ => rfl

/-- Merging a value in once more changes nothing. -/
theorem mergeValue_twice {v : Value} (distinct : v.DistinctKeys) {old : Option Value}
    (distinct' : ∀ w, old = some w → w.DistinctKeys) :
    mergeValue (some (mergeValue old v)) v = mergeValue old v := by
  induction v using Value.part_induction generalizing old with
  | step v ih =>
    by_cases both : ∃ a b, old = some (.object a) ∧ v = .object b
    · obtain ⟨a, b, rfl, rfl⟩ := both
      have whole := distinct' _ rfl
      have distinctOld : (Entries.keys a).Nodup := whole a .whole
      have distinctNew : (Entries.keys b).Nodup := distinct b .whole
      rw [mergeValue_objects, mergeValue_objects]
      congr 1
      refine mergeEntries_eq_of_values (nodup_keys_mergeEntries distinctOld) distinctNew
        (fun key isIn => ?_) fun k v found => ?_
      · rw [keys_mergeEntries distinctNew, List.mem_append, List.mem_filter]
        by_cases there : key ∈ Entries.keys a
        · exact .inl there
        · exact .inr ⟨isIn, by simpa using there⟩
      · have isPart := Value.mem_parts_of_entry (Entries.mem_of_find? found)
        rw [find?_mergeEntries distinctNew, found]
        simp only [Option.some.injEq]
        refine ih v isPart (distinct.part isPart) fun w found' => ?_
        exact whole.part (Value.mem_parts_of_entry (Entries.mem_of_find? found'))
    · have stays : mergeValue old v = v := by
        cases v with
        | object b =>
          refine mergeValue_of_no_old (fun a same => both ⟨a, b, same, rfl⟩) _
        | _ => rfl
      rw [stays, mergeValue_self distinct]

end Library

namespace Value

/-- The value that a path of keys leads to; none where the way ends before. -/
def follow? (v : Value) : List String → Option Value
  | [] => some v
  | k :: ks => (v.get? k).bind (follow? · ks)

theorem follow?_object (es : Entries Value) (k : String) (ks : List String) :
    (Value.object es).follow? (k :: ks) = (es.find? k).bind (follow? · ks) := rfl

/-- On the path of keys the second object stops having the key while both are still objects. -/
inductive StopsFirst : Value → Value → List String → Prop where
  | here {a b : Entries Value} {k : String} (missing : b.find? k = none) (ks : List String) :
      StopsFirst (.object a) (.object b) (k :: ks)
  | later {a b : Entries Value} {k : String} {v w : Value} {ks : List String}
      (old : a.find? k = some v) (new : b.find? k = some w) (below : StopsFirst v w ks) :
      StopsFirst (.object a) (.object b) (k :: ks)

end Value

namespace Library
open Value (StopsFirst)

/-- What the new value has at the end of a path, if it is no object, is what the merged value has
there. -/
theorem follow?_mergeValue_new {w : Value} (noObject : ∀ es, w ≠ .object es) {path : List String} :
    ∀ {v : Value} {old : Option Value}, v.DistinctKeys → v.follow? path = some w →
      (mergeValue old v).follow? path = some w := by
  induction path with
  | nil =>
    intro v old _ found
    cases found
    rw [mergeValue_of_no_object noObject]
    rfl
  | cons k ks ih =>
    intro v old distinct found
    cases v with
    | object b =>
      obtain ⟨v, there, found⟩ := Option.bind_eq_some_iff.mp found
      have isPart := Value.mem_parts_of_entry (Entries.mem_of_find? there)
      by_cases object : ∃ a, old = some (.object a)
      · obtain ⟨a, rfl⟩ := object
        have distinct' : (Entries.keys b).Nodup := distinct b .whole
        have there : Entries.find? b k = some v := there
        rw [mergeValue_objects, Value.follow?_object, find?_mergeEntries distinct', there]
        exact ih (distinct.part isPart) found
      · rw [mergeValue_of_no_old fun a same => object ⟨a, same⟩]
        exact Option.bind_eq_some_iff.mpr ⟨v, there, found⟩
    | _ => cases found

/-- Where the new object stops having the key, the merged one has what the old one has. -/
theorem follow?_mergeValue_old {v w : Value} {path : List String} (stops : StopsFirst v w path)
    (distinct : w.DistinctKeys) : (mergeValue (some v) w).follow? path = v.follow? path := by
  induction stops with
  | @here a b k missing ks =>
    have distinct' : (Entries.keys b).Nodup := distinct b .whole
    rw [mergeValue_objects, Value.follow?_object, find?_mergeEntries distinct', missing]
    rfl
  | @later a b k v w ks old new _ ih =>
    have distinct' : (Entries.keys b).Nodup := distinct b .whole
    have isPart := Value.mem_parts_of_entry (Entries.mem_of_find? new)
    rw [mergeValue_objects, Value.follow?_object, find?_mergeEntries distinct', new,
      Value.follow?_object, old]
    exact ih (distinct.part isPart)

theorem callMethod_merge (host : Host) (root : Value) (a b : Entries Value) :
    callMethod host root (.object a) "merge" [.object b] =
      pure (.object (mergeEntries a b)) := rfl

/-- What `merge` returns for two objects: the keys of the first in their order, then the other keys
of the second in theirs; on every path of keys the value of the second where that is no object, and
the value of the first where the second stops having the key while both are still objects. An object
merged with itself is unchanged, and merging the second one in again changes nothing. -/
theorem merge_laws {a b : Entries Value} (distinct : (Value.object a).DistinctKeys)
    (distinct' : (Value.object b).DistinctKeys) :
    ∃ m : Entries Value,
      (∀ host root, callMethod host root (.object a) "merge" [.object b] = pure (.object m)) ∧
      m.keys = a.keys ++ b.keys.filter (· ∉ a.keys) ∧
      (∀ path v, (Value.object b).follow? path = some v → (∀ es, v ≠ .object es) →
        (Value.object m).follow? path = some v) ∧
      (∀ path v, (Value.object a).follow? path = some v →
        StopsFirst (.object a) (.object b) path → (Value.object m).follow? path = some v) ∧
      (∀ host root, callMethod host root (.object a) "merge" [.object a] = pure (.object a)) ∧
      ∀ host root, callMethod host root (.object m) "merge" [.object b] = pure (.object m) := by
  have self := mergeValue_self distinct
  have known : ∀ w, some (Value.object a) = some w → w.DistinctKeys := by
    intro w same
    cases same
    exact distinct
  have twice := mergeValue_twice distinct' known
  rw [mergeValue_objects, Value.object.injEq] at self
  rw [mergeValue_objects, mergeValue_objects, Value.object.injEq] at twice
  refine ⟨mergeEntries a b, fun host root => rfl, ?_, ?_, ?_, ?_, ?_⟩
  · exact keys_mergeEntries (distinct' b .whole) a
  · intro path v found noObject
    rw [← mergeValue_objects]
    exact follow?_mergeValue_new noObject distinct' found
  · intro path v found stops
    rw [← mergeValue_objects, follow?_mergeValue_old stops distinct', found]
  · intro host root
    rw [callMethod_merge, self]
  · intro host root
    rw [callMethod_merge, twice]

def settings : Entries Value :=
  [("size", .object [("width", .number 1.0), ("height", .number 2.0)]), ("mode", .string "dark")]

def changes : Entries Value :=
  [("size", .object [("height", .number 3.0)]), ("title", .null)]

theorem settings_distinct : (Value.object settings).DistinctKeys := by
  refine .of_parts (fun entries same => ?_) ?_
  · cases same
    decide
  · simp only [Value.parts, settings, List.map_cons, List.forall_mem_cons]
    refine ⟨Value.distinctKeys_of_scalars (by decide) (by decide), ?_, by simp⟩
    exact .of_parts (fun entries same => by cases same) (by simp [Value.parts])

theorem changes_distinct : (Value.object changes).DistinctKeys := by
  refine .of_parts (fun entries same => ?_) ?_
  · cases same
    decide
  · simp only [Value.parts, changes, List.map_cons, List.forall_mem_cons]
    refine ⟨Value.distinctKeys_of_scalars (by decide) (by decide), ?_, by simp⟩
    exact .of_parts (fun entries same => by cases same) (by simp [Value.parts])

/-- A nested object is changed in one place, and a new key goes to the end. -/
theorem settings_changed :
    (Value.object settings).DistinctKeys ∧ (Value.object changes).DistinctKeys ∧
      ∃ m : Entries Value,
        (∀ host root, callMethod host root (.object settings) "merge" [.object changes] =
          pure (.object m)) ∧
        m.keys = ["size", "mode", "title"] ∧
        (Value.object m).follow? ["size", "height"] = some (.number 3.0) ∧
        (Value.object m).follow? ["size", "width"] = some (.number 1.0) ∧
        ∀ host root, callMethod host root (.object m) "merge" [.object changes] =
          pure (.object m) := by
  obtain ⟨m, merged, keys, new, old, -, twice⟩ := merge_laws settings_distinct changes_distinct
  have stops : StopsFirst (.object settings) (.object changes) ["size", "width"] :=
    .later rfl rfl (.here rfl [])
  refine ⟨settings_distinct, changes_distinct, m, merged, ?_, ?_, ?_, twice⟩
  · rw [keys]
    decide
  · exact new ["size", "height"] _ rfl (by simp)
  · exact old ["size", "width"] _ rfl stops

end Library
end DocExpr
