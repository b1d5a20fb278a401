import DocExpr.Library.Dispatch
import DocExpr.Proofs.Value.Structure

/-! The functions of the library that put a text together without a look at the limit on the length
of strings. None is marked in vain: each of them outgrows a limit that all it is given keeps to. -/
namespace DocExpr

namespace Value
variable {limit : Nat}

/-- If the value is a string, it has at most so many bytes. -/
def TextWithin (limit : Nat) : Value → Prop
  | .string s => s.utf8ByteSize ≤ limit
  | _ => True

/-- The strings that stand in the value have at most so many bytes. -/
def StringsWithin (limit : Nat) (v : Value) : Prop :=
  ∀ s, Inside parts v (.string s) → s.utf8ByteSize ≤ limit

theorem StringsWithin.text {v : Value} (within : v.StringsWithin limit) : v.TextWithin limit := by
  cases v with
  | string s => exact within s .whole
  | _ => trivial

theorem stringsWithin_of_parts {v : Value} (here : v.TextWithin limit)
    (below : ∀ part ∈ v.parts, part.StringsWithin limit) : v.StringsWithin limit := by
  intro s inside
  rcases inside.cases_part with rfl | ⟨part, isPart, inside⟩
  · exact here
  · exact below part isPart s inside

theorem stringsWithin_array {items : List Value} (each : ∀ v ∈ items, v.StringsWithin limit) :
    (Value.array items).StringsWithin limit :=
  stringsWithin_of_parts trivial each

theorem stringsWithin_leaf {v : Value} (here : v.TextWithin limit) (leaf : v.parts = []) :
    v.StringsWithin limit :=
  stringsWithin_of_parts here (by simp [leaf])

theorem stringsWithin_string {s : String} (short : s.utf8ByteSize ≤ limit) :
    (Value.string s).StringsWithin limit :=
  stringsWithin_leaf short rfl

/-- No string that is given has more bytes than some limit, and the result is one that has. -/
def Outgrows (given : List Value) (result : Value) : Prop :=
  ∃ limit s, result = .string s ∧ (∀ v ∈ given, v.StringsWithin limit) ∧ limit < s.utf8ByteSize

/-- A string that becomes longer, where nothing else that is given has a character. -/
theorem outgrows_text {s t : String} (longer : s.utf8ByteSize < t.utf8ByteSize)
    {others : List Value} (empty : ∀ v ∈ others, v = .null ∨ v = .string "") :
    Outgrows (.string s :: others) (.string t) := by
  refine ⟨s.utf8ByteSize, t, rfl, List.forall_mem_cons.mpr ⟨?_, fun v isIn => ?_⟩, longer⟩
  · exact stringsWithin_string (Nat.le_refl _)
  · rcases empty v isIn with rfl | rfl
    · exact stringsWithin_leaf trivial rfl
    · exact stringsWithin_string (Nat.zero_le _)

theorem outgrows_nothing {t : String} (some : 0 < t.utf8ByteSize) {given : List Value}
    (none : ∀ v ∈ given, v.StringsWithin 0) : Outgrows given (.string t) :=
  ⟨0, t, rfl, none, some⟩

theorem null_within : Value.null.StringsWithin limit := stringsWithin_leaf trivial rfl

end Value

namespace Library
open Value (Outgrows outgrows_nothing outgrows_text)

/-- The method puts a string together without a look at the limit. Where the limit is the largest
number of 64 bits the look at it tells nothing. -/
def TextMethod.isUnchecked (limit : Nat) : TextMethod → Bool
  | .camelCase | .capitalize | .kebabCase | .lowerFirst | .replace | .replaceAll | .snakeCase
  | .sprintf | .toLowerCase | .toUpperCase | .upperFirst => true
  | .repeated => Nat.pow 2 64 - 1 ≤ limit
  | _ => false

theorem TextMethod.outgrows {m : TextMethod} (unchecked : m.isUnchecked 0 = true) :
    ∃ s args w, (∀ host root, m.run host root s args = pure w) ∧
      Outgrows (.string s :: args) w := by
  cases m with
  | camelCase | lowerFirst | toLowerCase =>
    exact ⟨"Ⱥ", [], _, fun _ _ => rfl, outgrows_text (by decide) (by simp)⟩
  | capitalize | toUpperCase | upperFirst =>
    exact ⟨"ŉ", [], _, fun _ _ => rfl, outgrows_text (by decide) (by simp)⟩
  | kebabCase | snakeCase =>
    exact ⟨"aB", [], _, fun _ _ => rfl, outgrows_text (by decide) (by simp)⟩
  | replace | replaceAll =>
    exact ⟨"", [.string "", .null], _, fun _ _ => rfl,
      outgrows_text (by decide) (by simp)⟩
  | sprintf => exact ⟨"%s", [.null], _, fun _ _ => rfl, outgrows_text (by decide) (by simp)⟩
  | _ => cases unchecked

/-- The method joins texts without a look at the limit. -/
def ArrayMethod.isUnchecked : ArrayMethod → Bool
  | .join | .toText => true
  | _ => false

theorem ArrayMethod.outgrows {m : ArrayMethod} (unchecked : m.isUnchecked = true) :
    ∃ items args w, (∀ host root, m.run host root items args = pure w) ∧
      Outgrows (.array items :: args) w := by
  cases m with
  | join | toText =>
    have nulls : (Value.array [.null, .null]).StringsWithin 0 :=
      Value.stringsWithin_array (by simpa using Value.null_within)
    exact ⟨[.null, .null], [], _, fun _ _ => rfl,
      outgrows_nothing (by decide) (List.forall_mem_singleton.mpr nulls)⟩
  | _ => cases unchecked

theorem NumberMethod.outgrows (m : NumberMethod) :
    ∃ x args w, m.run x args = .ok w ∧ Outgrows (.number x :: args) w := by
  have leaf : ∀ v ∈ [Value.number 0.0], v.StringsWithin 0 :=
    List.forall_mem_singleton.mpr (Value.stringsWithin_leaf trivial rfl)
  cases m with
  | toFixed =>
    have places : Number.clampInt (-1) ((100 : Nat) + 1) 0.0 = 0 := by decide +kernel
    have digits : digitsArg "toFixed" [] 0 100 = .ok 0 := by
      unfold digitsArg
      rw [numberArg, List.getElem?_nil, places]
      rfl
    refine ⟨0.0, [], .string (Library.toFixed 0.0 0), ?_,
      outgrows_nothing (by decide +kernel) leaf⟩
    simp only [run, digits]
    rfl
  | toExponential =>
    exact ⟨0.0, [], .string (Library.toExponential 0.0 none), rfl,
      outgrows_nothing (by decide) leaf⟩
  | toPrecision | toText =>
    exact ⟨0.0, [], .string (Number.toText 0.0), rfl,
      outgrows_nothing (by decide) leaf⟩

/-- The method writes the date without a look at the limit. -/
def DateMethod.isUnchecked : DateMethod → Bool
  | .isoText | .localText _ => true
  | _ => false

theorem DateMethod.outgrows {m : DateMethod} (unchecked : m.isUnchecked = true) :
    ∃ d args w, (∀ name, m.run name d args = .ok w) ∧ Outgrows (.date d :: args) w := by
  let d : Calendar.Date := ⟨⟨0, 0, 0⟩, .localDate⟩
  have leaf : ∀ limit, (Value.date d).StringsWithin limit :=
    fun limit => Value.stringsWithin_leaf trivial rfl
  cases m with
  | isoText =>
    refine ⟨d, [], .string d.isoText, fun name => rfl, 0, _, rfl, ?_, by decide⟩
    simpa using leaf 0
  | localText pattern =>
    have year : (match d.formatWith "y" 0 with
      | .ok s => decide (1 < s.utf8ByteSize)
      | .error _ => false) = true := by decide
    split at year
    next s written =>
      refine ⟨d, [.string "y"], .string s, fun name => ?_, 1, s, rfl, ?_, of_decide_eq_true year⟩
      · simp only [run, Library.localText, arg, List.getD_cons_zero, Option.getD_some, pure_bind,
          written, dateResult]
        rfl
      · simpa using ⟨leaf 1, Value.stringsWithin_string (by decide)⟩
    next => cases year
  | _ => cases unchecked

/-- The function writes a text without a look at the limit. -/
def SpaceFunction.isUnchecked : SpaceFunction → Bool
  | .json .stringify | .math .randomIdentifier => true
  | _ => false

theorem SpaceFunction.outgrows {f : SpaceFunction} (unchecked : f.isUnchecked = true) :
    ∃ ambient args w, f.run ambient args = .ok w ∧ Outgrows args w := by
  have null : ∀ v ∈ [Value.null], v.StringsWithin 0 :=
    List.forall_mem_singleton.mpr Value.null_within
  refine ⟨.still 0, [.null], ?_⟩
  match f with
  | .json .stringify | .math .randomIdentifier =>
    exact ⟨_, rfl, outgrows_nothing (by decide) null⟩

/-- The function codes a text without a look at the limit. What is no string has to be written
before it can be decoded. -/
def GlobalFunction.isUnchecked (args : List Value) : GlobalFunction → Bool
  | .encodeComponent => true
  | .decodeComponent =>
    match arg args 0 with
    | .string _ => false
    | _ => true
  | _ => false

theorem GlobalFunction.outgrows {f : GlobalFunction} (unchecked : f.isUnchecked [.null] = true) :
    ∃ w, (∀ host root, f.run host root [.null] = pure w) ∧ Outgrows [.null] w := by
  have null : ∀ v ∈ [Value.null], v.StringsWithin 0 :=
    List.forall_mem_singleton.mpr Value.null_within
  cases f with
  | encodeComponent => exact ⟨_, fun _ _ => rfl, outgrows_nothing (by decide +kernel) null⟩
  | decodeComponent =>
    have decoded : Text.Percent.decode? (textArg [.null] 0) = some "null" := by decide +kernel
    refine ⟨.string "null", fun host root => ?_, outgrows_nothing (by decide) null⟩
    simp only [run, decoded]
  | _ => cases unchecked

/-- The method of that name writes or puts together a text without a look at the limit. Values
other than strings are written by `toString`, and numbers by all their methods. -/
def isUncheckedMethod (limit : Nat) (receiver : Value) (name : String) : Bool :=
  match receiver with
  | .string _ => (TextMethod.catalog.find? name).any (·.1.isUnchecked limit)
  | .number _ => true
  | .array _ => name == "toString" || (ArrayMethod.catalog.find? name).any (·.1.isUnchecked)
  | .date _ => name == "toString" || (DateMethod.catalog.find? name).any (·.1.isUnchecked)
  | _ => name == "toString"

end Library
end DocExpr
