import DocExpr.Proofs.Parser.Pattern
import DocExpr.Proofs.Value.Structure
import DocExpr.Value.Matching

/-! When a value has at least what another has. The document of a value, taken as a pattern, matches
the values that extend it and no others. -/
namespace DocExpr.Value
open DocExpr.Expr (Pattern)

/-- A value extends another: it is the same scalar, or a number or a string in the range that the
other writes, or an array whose items extend those of the other one by one, or an object with all
the keys of the other and with values that extend those there. -/
inductive Extends : Value → Value → Prop where
  | null : Extends .null .null
  | bool (b : Bool) : Extends (.bool b) (.bool b)
  | number {x y : Float} (equal : (y == x) = true) : Extends (.number y) (.number x)
  | string (s : String) : Extends (.string s) (.string s)
  | range {w : Value} {s : String} {range : Range} (written : Range.ofText? s = some range)
      (inside : range.contains w = true) : Extends w (.string s)
  | array {vs ws : List Value} (length : ws.length = vs.length)
      (each : ∀ (i : Nat) v w, vs[i]? = some v → ws[i]? = some w → Extends w v) :
      Extends (.array ws) (.array vs)
  | object {es fs : List (String × Value)} (keys : ∀ e ∈ es, e.1 ∈ Entries.keys fs)
      (each : ∀ k v w, (k, v) ∈ es → Entries.find? fs k = some w → Extends w v) :
      Extends (.object fs) (.object es)

/-- A value of the kinds that documents have extends itself. -/
theorem Extends.refl {v : Value} (isDocument : v.IsDocument) (distinct : v.DistinctKeys) :
    v.Extends v := by
  induction v using part_induction with
  | step v ih =>
    have below : ∀ part ∈ v.parts, part.Extends part := by
      intro part isPart
      exact ih part isPart (fun x inside => isDocument x (.of_part isPart inside))
        (distinct.part isPart)
    have kind := isDocument v .whole
    cases v with
    | null => exact .null
    | bool b => exact .bool b
    | number x => exact .number (Number.beq_self kind)
    | string s => exact .string s
    | date | regex | lambda => cases kind
    | array items =>
      refine .array rfl fun i v w left right => ?_
      cases left.symm.trans right
      exact below v (List.mem_of_getElem? left)
    | object entries =>
      refine .object (fun e isIn => List.mem_map.mpr ⟨e, isIn, rfl⟩) fun k v w isIn found => ?_
      cases (Entries.find?_of_mem (distinct entries .whole) isIn).symm.trans found
      exact below v (mem_parts_of_entry isIn)

theorem fitsItems_iff {ps : List Pattern} {ws : List Value} :
    fitsItems ps ws = true ↔
      ∀ (i : Nat) p w, ps[i]? = some p → ws[i]? = some w → fits p w = true := by
  induction ps generalizing ws with
  | nil => simp [fitsItems]
  | cons p ps ih =>
    cases ws with
    | nil => simp [fitsItems]
    | cons w ws =>
      rw [fitsItems, Bool.and_eq_true, ih]
      constructor
      · rintro ⟨first, later⟩ i p' w' left right
        cases i with
        | zero =>
          cases left
          cases right
          exact first
        | succ i => exact later i p' w' left right
      · intro each
        exact ⟨each 0 p w rfl rfl, fun i p' w' left right => each (i + 1) p' w' left right⟩

theorem fits_array_iff {ps : List Pattern} {w : Value} :
    fits (.array ps false []) w = true ↔
      ∃ items, w = .array items ∧ items.length = ps.length ∧ fitsItems ps items = true := by
  cases w with
  | array items => simp [fits, fitsItems]
  | _ => simp [fits]

theorem fitsEntries_iff {ms : List (String × Json)} {fs : List (String × Value)} :
    fitsEntries (ms.map Pattern.ofJsonMember) fs = true ↔
      ∀ m ∈ ms, ∃ w, Entries.find? fs m.1 = some w ∧ fits (.ofJson m.2) w = true := by
  induction ms with
  | nil => simp [fitsEntries]
  | cons m ms ih =>
    rw [List.map_cons, List.forall_mem_cons, ← ih, Pattern.ofJsonMember, fitsEntries,
      Bool.and_eq_true]
    refine and_congr_left fun _ => ?_
    cases Entries.find? fs m.1 <;> simp

theorem fits_object_iff {ms : List (String × Json)} {w : Value} :
    fits (.ofJson (.object ms)) w = true ↔
      ∃ fs, w = .object fs ∧
        ∀ m ∈ ms, ∃ part, Entries.find? fs m.1 = some part ∧ fits (.ofJson m.2) part = true := by
  rw [Pattern.ofJson, Pattern.ofJsonMembers_eq_map]
  cases w with
  | object fs => simp [fits, fitsEntries_iff]
  | _ => simp [fits]

theorem matchesText_iff {w : Value} {s : String} :
    w.matchesText s = true ↔
      w = .string s ∨ ∃ range, Range.ofText? s = some range ∧ range.contains w = true := by
  unfold matchesText
  rw [Bool.or_eq_true]
  refine or_congr ?_ ?_
  · cases w <;> simp
  · cases Range.ofText? s <;> simp

section
variable {w : Value}

theorem fits_null_iff : fits .null w = true ↔ w.Extends .null := by
  constructor
  · intro fit
    cases w with
    | null => exact .null
    | _ => cases fit
  · intro extends_
    cases extends_
    rfl

theorem fits_bool_iff {b : Bool} : fits (.bool b) w = true ↔ w.Extends (.bool b) := by
  constructor
  · intro fit
    cases w with
    | bool c =>
      cases eq_of_beq fit
      exact .bool b
    | _ => cases fit
  · intro extends_
    cases extends_
    exact beq_self_eq_true b

theorem fits_string_iff {s : String} : fits (.string s) w = true ↔ w.Extends (.string s) := by
  rw [fits, matchesText_iff]
  constructor
  · rintro (rfl | ⟨range, written, inside⟩)
    · exact .string s
    · exact .range written inside
  · intro extends_
    cases extends_ with
    | string => exact .inl rfl
    | range written inside => exact .inr ⟨_, written, inside⟩

/-- Whether zero has a sign in the pattern is not seen. -/
theorem fits_number_iff {x : Float} (finite : Number.isFinite x = true) :
    fits (.number (Number.plainZero x)) w = true ↔ w.Extends (.number x) := by
  have plain := Number.beq_plainZero finite
  constructor
  · intro fit
    cases w with
    | number y =>
      refine .number ?_
      rw [Number.beq_comm]
      exact Number.beq_trans plain fit
    | _ => cases fit
  · intro extends_
    cases extends_ with
    | number equal =>
      change (_ == _) = true
      rw [Number.beq_comm]
      exact Number.beq_trans equal plain

end

section
variable {w : Value}

/-- Arrays, where it is known what the documents of the items match. -/
theorem fits_items_iff {items : List Value}
    (below : ∀ part ∈ items, ∀ w, fits (.ofJson part.document) w = true ↔ w.Extends part) :
    fits (.ofJson (Value.array items).document) w = true ↔ w.Extends (.array items) := by
  rw [document, documentItems_eq_map, Pattern.ofJson, Pattern.ofJsonItems_eq_map, List.map_map,
    fits_array_iff]
  constructor
  · rintro ⟨ws, rfl, length, each⟩
    rw [List.length_map] at length
    refine .array length fun i v w left right => ?_
    refine (below v (List.mem_of_getElem? left) w).mp (fitsItems_iff.mp each i _ w ?_ right)
    rw [List.getElem?_map, left]
    rfl
  · intro extends_
    cases extends_ with
    | array length each =>
      refine ⟨_, rfl, by rw [length, List.length_map], fitsItems_iff.mpr ?_⟩
      intro i p w left right
      rw [List.getElem?_map] at left
      obtain ⟨v, there, rfl⟩ := Option.map_eq_some_iff.mp left
      exact (below v (List.mem_of_getElem? there) w).mpr (each i v w there right)

/-- Objects, where it is known what the documents of the values in them match. -/
theorem fits_members_iff {entries : List (String × Value)}
    (below : ∀ e ∈ entries, ∀ w, fits (.ofJson e.2.document) w = true ↔ w.Extends e.2) :
    fits (.ofJson (Value.object entries).document) w = true ↔ w.Extends (.object entries) := by
  rw [document, documentEntries_eq_map, fits_object_iff]
  simp only [List.forall_mem_map, documentEntry]
  constructor
  · rintro ⟨fs, rfl, each⟩
    refine .object (fun e isIn => ?_) fun k v w isIn found => ?_
    · obtain ⟨part, found, -⟩ := each e isIn
      exact List.mem_map.mpr ⟨_, Entries.mem_of_find? found, rfl⟩
    · obtain ⟨part, found', fit⟩ := each _ isIn
      cases found.symm.trans found'
      exact (below (k, v) isIn w).mp fit
  · intro extends_
    cases extends_ with
    | object keys each =>
      refine ⟨_, rfl, fun e isIn => ?_⟩
      obtain ⟨part, found⟩ :=
        Option.isSome_iff_exists.mp (Entries.has_eq_true_iff.mpr (keys e isIn))
      exact ⟨part, found, (below e isIn part).mpr (each e.1 e.2 part isIn found)⟩

end

/-- The document of a value, taken as a pattern, matches what extends the value. -/
theorem fits_document_iff {v : Value} (isDocument : v.IsDocument) (w : Value) :
    fits (.ofJson v.document) w = true ↔ w.Extends v := by
  induction v using part_induction generalizing w with
  | step v ih =>
    have below : ∀ part ∈ v.parts, ∀ w, fits (.ofJson part.document) w = true ↔ w.Extends part :=
      fun part isPart => ih part isPart fun x inside => isDocument x (.of_part isPart inside)
    have kind := isDocument v .whole
    cases v with
    | null => exact fits_null_iff
    | bool b => exact fits_bool_iff
    | string s => exact fits_string_iff
    | number x =>
      change Number.isFinite x = true at kind
      rw [document, if_pos kind]
      exact fits_number_iff kind
    | date | regex | lambda => cases kind
    | array items => exact fits_items_iff below
    | object entries =>
      exact fits_members_iff fun e isIn => below e.2 (mem_parts_of_entry isIn)

end DocExpr.Value
