import DocExpr.Proofs.Inside
import DocExpr.Proofs.Number.Equality
import DocExpr.Value.Document
import DocExpr.Value.Equality

/-! Values as trees: the parts of a value, how deep containers nest in it, and the document that a
value is written as. A value of the kinds that documents have is the value of its document, up to
the sign of zero. -/
namespace DocExpr.Value

/-- The values that a value holds directly. -/
def parts : Value → List Value
  | .array items => items
  | .object entries => entries.map (·.2)
  | _ => []

theorem mem_parts_of_entry {entries : List (String × Value)} {k : String} {part : Value}
    (entry : (k, part) ∈ entries) : part ∈ (Value.object entries).parts :=
  List.mem_map.mpr ⟨(k, part), entry, rfl⟩

/-- An array or an object. -/
def isContainer : Value → Bool
  | .array _ | .object _ => true
  | _ => false

/-- Containers nest at most so deep in the value. -/
def NestsWithin : Nat → Value → Prop
  | 0, v => v.isContainer = false
  | depth + 1, v => ∀ part ∈ v.parts, NestsWithin depth part

mutual
/-- What holds of a value whenever it holds of its parts holds of all values. -/
theorem part_induction {P : Value → Prop} (step : ∀ v, (∀ part ∈ v.parts, P part) → P v) :
    ∀ v, P v
  | .array items => step _ (part_induction_items step items)
  | .object entries => step _ (part_induction_entries step entries)
  | .null | .bool _ | .number _ | .string _ | .date _ | .regex .. | .lambda _ =>
    step _ fun _ isPart => absurd isPart List.not_mem_nil

theorem part_induction_items {P : Value → Prop} (step : ∀ v, (∀ part ∈ v.parts, P part) → P v) :
    ∀ items : List Value, ∀ v ∈ items, P v
  | [] => fun _ isIn => absurd isIn List.not_mem_nil
  | v :: vs => List.forall_mem_cons.mpr ⟨part_induction step v, part_induction_items step vs⟩

theorem part_induction_entries {P : Value → Prop}
    (step : ∀ v, (∀ part ∈ v.parts, P part) → P v) :
    ∀ entries : List (String × Value), ∀ v ∈ entries.map (·.2), P v
  | [] => fun _ isIn => absurd isIn List.not_mem_nil
  | (_, v) :: es =>
    List.forall_mem_cons.mpr ⟨part_induction step v, part_induction_entries step es⟩
end

/-- The kinds of values that a document has. -/
def isDocumentKind : Value → Bool
  | .null | .bool _ | .string _ | .array _ | .object _ => true
  | .number x => Number.isFinite x
  | .date _ | .regex .. | .lambda _ => false

/-- All parts are of the kinds that a document has. -/
def IsDocument (v : Value) : Prop := ∀ part, Inside parts v part → part.isDocumentKind = true

/-- No object in the value has a key twice. -/
def DistinctKeys (v : Value) : Prop :=
  ∀ entries, Inside parts v (.object entries) → (Entries.keys entries).Nodup

/-- Strictly equal at every level, with the keys of all objects in the same order. -/
inductive SameAs : Value → Value → Prop where
  | leaf {v w : Value} (noContainer : v.isContainer = false) (equal : v.strictEq w = true) :
      SameAs v w
  | array {vs ws : List Value} (length : vs.length = ws.length)
      (each : ∀ (i : Nat) v w, vs[i]? = some v → ws[i]? = some w → SameAs v w) :
      SameAs (.array vs) (.array ws)
  | object {es fs : List (String × Value)} (keys : Entries.keys es = Entries.keys fs)
      (each : ∀ (i : Nat) e f, es[i]? = some e → fs[i]? = some f → SameAs e.2 f.2) :
      SameAs (.object es) (.object fs)

mutual
/-- The document of a value: both zeros are zero, dates are texts, and what a document cannot hold
is null. -/
def document : Value → Json
  | .null | .regex .. | .lambda _ => .null
  | .bool b => .bool b
  | .number x => if Number.isFinite x then .number (.float (Number.plainZero x)) else .null
  | .string s => .string s
  | .array items => .array (documentItems items)
  | .object entries => .object (documentEntries entries)
  | .date d => .string d.isoText

/-- The documents of items. -/
def documentItems : List Value → List Json
  | [] => []
  | v :: vs => document v :: documentItems vs

/-- The documents of entries. -/
def documentEntries : List (String × Value) → List (String × Json)
  | [] => []
  | (k, v) :: es => (k, document v) :: documentEntries es
end

theorem ofJsonItems_eq_map (js : List Json) : ofJsonItems js = js.map ofJson := by
  induction js with
  | nil => rfl
  | cons j js ih => rw [ofJsonItems, ih, List.map_cons]

/-- A member with the value of its tree. -/
def ofJsonMember (m : String × Json) : String × Value := (m.1, ofJson m.2)

theorem ofJsonMembers_eq_map (ms : List (String × Json)) :
    ofJsonMembers ms = ms.map ofJsonMember := by
  induction ms with
  | nil => rfl
  | cons m ms ih => rw [ofJsonMembers, ih, List.map_cons, ofJsonMember]

theorem documentItems_eq_map (items : List Value) :
    documentItems items = items.map document := by
  induction items with
  | nil => rfl
  | cons v vs ih => rw [documentItems, ih, List.map_cons]

/-- An entry with the document of its value. -/
def documentEntry (e : String × Value) : String × Json := (e.1, document e.2)

theorem documentEntries_eq_map (entries : List (String × Value)) :
    documentEntries entries = entries.map documentEntry := by
  induction entries with
  | nil => rfl
  | cons e es ih => rw [documentEntries, ih, List.map_cons, documentEntry]

theorem strictEqItems_of_each {vs ws : List Value} (length : vs.length = ws.length)
    (each : ∀ (i : Nat) v w, vs[i]? = some v → ws[i]? = some w → v.strictEq w = true) :
    strictEqItems vs ws = true := by
  induction vs generalizing ws with
  | nil =>
    cases ws with
    | nil => rfl
    | cons w ws => cases length
  | cons v vs ih =>
    cases ws with
    | nil => cases length
    | cons w ws =>
      have first := each 0 v w rfl rfl
      have others := ih (Nat.succ.inj length) fun i v w left right => each (i + 1) v w left right
      rw [strictEqItems, first, others]
      rfl

theorem strictEqEntries_of_each {es fs : List (String × Value)}
    (each : ∀ e ∈ es, ∃ w, Entries.find? fs e.1 = some w ∧ e.2.strictEq w = true) :
    strictEqEntries es fs = true := by
  induction es with
  | nil => rfl
  | cons e es ih =>
    obtain ⟨w, found, equal⟩ := each e List.mem_cons_self
    have others := ih fun e isIn => each e (List.mem_cons_of_mem _ isIn)
    simp only [strictEqEntries, found, equal, others, Bool.and_self]

end DocExpr.Value

namespace DocExpr.Entries
variable {α : Type}

/-- A key that occurs once has the value that it stands with. -/
theorem find?_of_mem {entries : Entries α} (distinct : entries.keys.Nodup) {key : String}
    {value : α} (isIn : (key, value) ∈ entries) : entries.find? key = some value := by
  induction entries with
  | nil => cases isIn
  | cons e rest ih =>
    obtain ⟨absent, distinct⟩ := List.nodup_cons.mp distinct
    rw [find?_cons]
    rcases List.mem_cons.mp isIn with rfl | isIn
    · rw [if_pos rfl]
    · have there : key ∈ keys rest := List.mem_map.mpr ⟨_, isIn, rfl⟩
      have other : key ≠ e.1 := by
        rintro rfl
        exact absent there
      rw [if_neg other]
      exact ih distinct isIn

theorem mem_of_find? {entries : Entries α} {key : String} {value : α}
    (found : entries.find? key = some value) : (key, value) ∈ entries := by
  induction entries with
  | nil => cases found
  | cons e rest ih =>
    rw [find?_cons] at found
    split at found
    · next same =>
      cases found
      rw [same]
      exact List.mem_cons_self
    · exact List.mem_cons_of_mem e (ih found)

theorem insert_of_absent {entries : Entries α} {key : String} (absent : key ∉ entries.keys)
    (value : α) : entries.insert key value = entries ++ [(key, value)] := by
  induction entries with
  | nil => rfl
  | cons e rest ih =>
    have other : e.1 ≠ key := fun same => absent (same ▸ List.mem_cons_self)
    have absent' : key ∉ keys rest := fun there => absent (List.mem_cons_of_mem _ there)
    rw [insert, if_neg other, ih absent', List.cons_append]

theorem insertAll_of_nodup {done more : Entries α} (distinct : (keys (done ++ more)).Nodup) :
    insertAll done more = done ++ more := by
  induction more generalizing done with
  | nil => exact (List.append_nil done).symm
  | cons e more ih =>
    have fresh : e.1 ∉ keys done := by
      rw [keys, List.map_append, List.nodup_append] at distinct
      intro there
      exact distinct.2.2 e.1 there e.1 List.mem_cons_self rfl
    have distinct' : (keys (done ++ [e] ++ more)).Nodup := by
      rwa [List.append_assoc, List.singleton_append]
    change insertAll (insert done e.1 e.2) more = _
    rw [insert_of_absent fresh, ih distinct', List.append_assoc, List.singleton_append]

theorem ofPairs_of_nodup {entries : Entries α} (distinct : entries.keys.Nodup) :
    ofPairs entries = entries := insertAll_of_nodup distinct

end DocExpr.Entries

namespace DocExpr.Value

theorem DistinctKeys.part {v part : Value} (distinct : v.DistinctKeys) (isPart : part ∈ v.parts) :
    part.DistinctKeys :=
  fun entries inside => distinct entries (.of_part isPart inside)

theorem DistinctKeys.of_parts {v : Value}
    (here : ∀ entries, v = .object entries → (Entries.keys entries).Nodup)
    (below : ∀ part ∈ v.parts, part.DistinctKeys) : v.DistinctKeys := by
  intro entries inside
  rcases inside.cases_part with same | ⟨part, isPart, inside⟩
  · exact here entries same.symm
  · exact below part isPart entries inside

theorem SameAs.strictEq {v w : Value} (same : v.SameAs w) (distinct : v.DistinctKeys) :
    v.strictEq w = true := by
  induction same with
  | leaf noContainer equal => exact equal
  | array length each ih =>
    refine strictEqItems_of_each length fun i v w left right => ih i v w left right ?_
    exact distinct.part (List.mem_of_getElem? left)
  | @object es fs keys each ih =>
    have length : es.length = fs.length := by
      have := congrArg List.length keys
      rwa [Entries.keys, Entries.keys, List.length_map, List.length_map] at this
    have distinct' : (Entries.keys fs).Nodup := keys ▸ distinct es .whole
    have each' : ∀ e ∈ es, ∃ w, Entries.find? fs e.1 = some w ∧ e.2.strictEq w = true := by
      intro e isIn
      obtain ⟨i, left⟩ := List.mem_iff_getElem?.mp isIn
      have right : (Entries.keys fs)[i]? = some e.1 := by
        rw [← keys, Entries.keys, List.getElem?_map, left]
        rfl
      rw [Entries.keys, List.getElem?_map] at right
      obtain ⟨f, right, key⟩ := Option.map_eq_some_iff.mp right
      have isIn' : (e.1, f.2) ∈ fs := key ▸ List.mem_of_getElem? right
      have isPart : e.2 ∈ (Value.object es).parts := List.mem_map.mpr ⟨e, isIn, rfl⟩
      exact ⟨f.2, Entries.find?_of_mem distinct' isIn', ih i e f left right (distinct.part isPart)⟩
    rw [Value.strictEq, strictEqEntries_of_each each', length]
    simp

/-- A value of the kinds that a document has is the value of its document. -/
theorem sameAs_document {v : Value} (isDocument : v.IsDocument) (distinct : v.DistinctKeys) :
    v.SameAs (ofJson v.document) := by
  induction v using part_induction with
  | step v ih =>
    have below : ∀ part ∈ v.parts, part.SameAs (ofJson part.document) := by
      intro part isPart
      exact ih part isPart (fun x inside => isDocument x (.of_part isPart inside))
        (distinct.part isPart)
    have kind := isDocument v .whole
    cases v with
    | null => exact .leaf rfl rfl
    | bool b => exact .leaf rfl (beq_self_eq_true b)
    | string s => exact .leaf rfl (beq_self_eq_true s)
    | date | regex | lambda => cases kind
    | number x =>
      change Number.isFinite x = true at kind
      rw [document, if_pos kind]
      exact .leaf rfl (Number.beq_plainZero kind)
    | array items =>
      rw [document, ofJson, documentItems_eq_map, ofJsonItems_eq_map, List.map_map]
      refine .array (by rw [List.length_map]) fun i v w left right => ?_
      rw [List.getElem?_map, left] at right
      cases right
      exact below v (List.mem_of_getElem? left)
    | object entries =>
      have keys : Entries.keys ((entries.map documentEntry).map ofJsonMember) =
          Entries.keys entries := by
        rw [Entries.keys, List.map_map, List.map_map]
        rfl
      have distinct' : (Entries.keys ((entries.map documentEntry).map ofJsonMember)).Nodup := by
        rw [keys]
        exact distinct entries .whole
      rw [document, ofJson, documentEntries_eq_map, ofJsonMembers_eq_map,
        Entries.ofPairs_of_nodup distinct']
      refine .object keys.symm fun i e f left right => ?_
      rw [List.map_map, List.getElem?_map, left] at right
      cases right
      exact below e.2 (List.mem_map.mpr ⟨e, List.mem_of_getElem? left, rfl⟩)

end DocExpr.Value
