/-! Keys with values, in the order in which the keys were first given. `find?_insert` and
`keys_insert` say what an insertion changes, and `nodup_keys_ofPairs` that no key occurs twice. -/
namespace DocExpr

/-- Keys with values; no key occurs twice in what `insert` builds. -/
abbrev Entries (α : Type) := List (String × α)

namespace Entries
variable {α : Type}

def find? (entries : Entries α) (key : String) : Option α := List.lookup key entries

def has (entries : Entries α) (key : String) : Bool := (entries.find? key).isSome

/-- Puts a value under a key: in the place of the old one, or else at the end. -/
def insert (entries : Entries α) (key : String) (value : α) : Entries α :=
  match entries with
  | [] => [(key, value)]
  | (k, v) :: rest => if k = key then (k, value) :: rest else (k, v) :: insert rest key value

def insertAll (entries : Entries α) (more : List (String × α)) : Entries α :=
  more.foldl (fun es (k, v) => es.insert k v) entries

def ofPairs (pairs : List (String × α)) : Entries α := insertAll [] pairs

def keys (entries : Entries α) : List String := entries.map (·.1)

def values (entries : Entries α) : List α := entries.map (·.2)

theorem find?_cons (k key : String) (value : α) (rest : Entries α) :
    find? ((k, value) :: rest) key = if key = k then some value else find? rest key := by
  by_cases same : key = k
  · simp [find?, same]
  · simp [find?, List.lookup_cons, same, beq_eq_false_iff_ne.mpr same]

theorem find?_insert (entries : Entries α) (key other : String) (value : α) :
    (entries.insert key value).find? other =
      if other = key then some value else entries.find? other := by
  induction entries with
  | nil => simp [insert, find?_cons]
  | cons e rest ih =>
    obtain ⟨k, v⟩ := e
    by_cases found : k = key
    · simp only [insert, found, if_true, find?_cons]
      split <;> rfl
    · simp only [insert, found, if_false, find?_cons, ih]
      grind

theorem find?_insert_self (entries : Entries α) (key : String) (value : α) :
    (entries.insert key value).find? key = some value := by
  simp [find?_insert]

theorem has_eq_true_iff {entries : Entries α} {key : String} :
    entries.has key = true ↔ key ∈ entries.keys := by
  induction entries with
  | nil => simp [has, find?, keys]
  | cons e rest ih =>
    obtain ⟨k, v⟩ := e
    simp only [has, keys, find?_cons, List.map_cons, List.mem_cons] at ih ⊢
    by_cases same : key = k
    · simp [same]
    · simp only [same, if_false, false_or]
      exact ih

/-- A key that is there keeps its place, and a new one goes to the end. -/
theorem keys_insert (entries : Entries α) (key : String) (value : α) :
    (entries.insert key value).keys =
      if key ∈ entries.keys then entries.keys else entries.keys ++ [key] := by
  induction entries with
  | nil => simp [insert, keys]
  | cons e rest ih =>
    obtain ⟨k, v⟩ := e
    simp only [keys] at ih ⊢
    by_cases h : k = key
    · simp [insert, h]
    · by_cases there : key ∈ List.map (·.1) rest <;> simp_all [insert, Ne.symm h]

theorem nodup_keys_insert {entries : Entries α} (distinct : entries.keys.Nodup) (key : String)
    (value : α) : (entries.insert key value).keys.Nodup := by
  rw [keys_insert]
  split
  · exact distinct
  · next absent =>
    refine List.nodup_append.mpr ⟨distinct, by simp, fun a ha b hb => ?_⟩
    rw [List.mem_singleton.mp hb]
    exact fun same => absent (same ▸ ha)

theorem nodup_keys_insertAll {entries : Entries α} (distinct : entries.keys.Nodup)
    (more : List (String × α)) : (entries.insertAll more).keys.Nodup := by
  induction more generalizing entries with
  | nil => exact distinct
  | cons e rest ih => exact ih (nodup_keys_insert distinct e.1 e.2)

theorem nodup_keys_ofPairs (pairs : List (String × α)) : (ofPairs pairs).keys.Nodup :=
  nodup_keys_insertAll (by simp [keys]) pairs

end Entries
end DocExpr
