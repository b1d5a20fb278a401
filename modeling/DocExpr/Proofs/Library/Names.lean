import DocExpr.Library.Dispatch

/-! The names of methods, read for themselves. A call finds its method in a catalog, which lists it
beside its name and its arity. A name also tells its method without any catalog; those of dates do
so in two parts, the second of which names a unit, a field or a part of the date. Each name in a
catalog tells the method that stands beside it, and but for two getters no other name tells any. -/
namespace DocExpr.Library
open DocExpr.Calendar (Field)

section
variable {α : Type} {c : Catalog α} {name : String}

/-- The names in a catalog. -/
def Catalog.names (c : Catalog α) : List String := c.map (·.1)

theorem Catalog.has_iff : c.has name = true ↔ name ∈ c.names := by
  unfold Catalog.has Catalog.find? Catalog.names
  rw [List.lookup_isSome_iff, List.mem_map]
  exact exists_congr fun e => and_congr_right fun _ => by rw [beq_iff_eq, eq_comm]

theorem Catalog.mem_of_find? {f : α} {arity : Arity} (found : c.find? name = some (f, arity)) :
    (name, f, arity) ∈ c := by
  obtain ⟨front, back, rfl, -⟩ := List.lookup_eq_some_iff.mp found
  exact List.mem_append_right front List.mem_cons_self

/-- The names in a catalog, each with its arity. -/
def Catalog.signatures (c : Catalog α) : List (String × Arity) :=
  c.map fun (name, _, arity) => (name, arity)

theorem Catalog.mem_signatures : name ∈ c.signatures.map (·.1) ↔ c.has name = true := by
  rw [has_iff, names, signatures, List.map_map]
  rfl

theorem Catalog.lookup_signatures {β : Type} (run : α → β) :
    c.signatures.lookup name = ((c.find? name).map fun (f, arity) => (arity, run f)).map (·.1) := by
  induction c with
  | nil => rfl
  | cons e c ih =>
    unfold signatures find? at *
    rw [List.map_cons, List.lookup_cons, List.lookup_cons, ih]
    split
    · rfl
    · rfl

/-- Each name of the catalog tells the function that stands beside it. -/
def Catalog.Tells (c : Catalog α) (named? : String → Option α) : Prop :=
  ∀ e ∈ c, named? e.1 = some e.2.1

instance [DecidableEq α] (named? : String → Option α) : Decidable (c.Tells named?) :=
  inferInstanceAs (Decidable (∀ e ∈ c, named? e.1 = some e.2.1))

/-- What runs under a name that is found in the catalog is the function that the name tells. -/
theorem Catalog.Tells.of_found {named? : String → Option α} (tells : c.Tells named?) {β : Type}
    (run : α → β) {arity : Arity} {ran : β}
    (found : (c.find? name).map (fun (f, arity) => (arity, run f)) = some (arity, ran)) :
    ∃ f, (name, f, arity) ∈ c ∧ named? name = some f ∧ run f = ran := by
  obtain ⟨⟨f, _⟩, own, same⟩ := Option.map_eq_some_iff.mp found
  cases same
  have listed := mem_of_find? own
  exact ⟨f, listed, tells _ listed, rfl⟩

end

/-- The names of the methods of all kinds of values. -/
def methodNames : List String :=
  TextMethod.catalog.names ++ NumberMethod.catalog.names ++ ArrayMethod.catalog.names ++
    ObjectMethod.catalog.names ++ DateMethod.catalog.names

theorem isMethodName_iff {name : String} : isMethodName name = true ↔ name ∈ methodNames := by
  simp only [isMethodName, methodNames, Bool.or_eq_true, Catalog.has_iff, List.mem_append]

/-- The methods of a value's own kind, each with its arity. -/
def signatures (receiver : Value) : List (String × Arity) :=
  match receiver with
  | .string _ => TextMethod.catalog.signatures
  | .number _ => NumberMethod.catalog.signatures
  | .array _ => ArrayMethod.catalog.signatures
  | .object _ => ObjectMethod.catalog.signatures
  | .date _ => DateMethod.catalog.signatures
  | _ => []

/-- The method of strings with a name. -/
def TextMethod.named? (name : String) : Option TextMethod :=
  match name with
  | "camelCase" => some .camelCase
  | "capitalize" => some .capitalize
  | "kebabCase" => some .kebabCase
  | "snakeCase" => some .snakeCase
  | "lowerFirst" => some .lowerFirst
  | "upperFirst" => some .upperFirst
  | "toLowerCase" => some .toLowerCase
  | "toUpperCase" => some .toUpperCase
  | "trim" => some .trim
  | "trimLeft" => some .trimLeft
  | "trimRight" => some .trimRight
  | "length" => some .length
  | "charAt" => some .charAt
  | "charCodeAt" => some .charCodeAt
  | "concat" => some .concat
  | "contains" => some .contains
  | "startsWith" => some .startsWith
  | "endsWith" => some .endsWith
  | "indexOf" => some .indexOf
  | "lastIndexOf" => some .lastIndexOf
  | "localeCompare" => some .localeCompare
  | "repeat" => some .repeated
  | "slice" => some .slice
  | "substring" => some .substring
  | "substr" => some .substr
  | "split" => some .split
  | "match" => some .matchRegex
  | "search" => some .search
  | "replace" => some .replace
  | "replaceAll" => some .replaceAll
  | "sprintf" => some .sprintf
  | _ => none

/-- The method of numbers with a name. -/
def NumberMethod.named? (name : String) : Option NumberMethod :=
  match name with
  | "toFixed" => some .toFixed
  | "toExponential" => some .toExponential
  | "toPrecision" => some .toPrecision
  | "toString" => some .toText
  | _ => none

/-- The method of arrays with a name. -/
def ArrayMethod.named? (name : String) : Option ArrayMethod :=
  match name with
  | "length" => some .length
  | "toString" => some .toText
  | "join" => some .join
  | "concat" => some .concat
  | "includes" => some .includes
  | "indexOf" => some .indexOf
  | "lastIndexOf" => some .lastIndexOf
  | "filter" => some .filter
  | "find" => some .find
  | "findIndex" => some .findIndex
  | "map" => some .map
  | "reduce" => some .reduce
  | "reduceRight" => some .reduceRight
  | "toObject" => some .toObject
  | "pop" => some .pop
  | "shift" => some .shift
  | "push" => some .push
  | "unshift" => some .unshift
  | "reverse" => some .reverse
  | "slice" => some .slice
  | "splice" => some .splice
  | "sort" => some .sort
  | _ => none

/-- The method of objects with a name. -/
def ObjectMethod.named? (name : String) : Option ObjectMethod :=
  match name with
  | "keys" => some .keys
  | "values" => some .values
  | "entries" => some .entries
  | "isEmpty" => some .isEmpty
  | "hasOwnProperty" => some .hasOwnProperty
  | "hasPath" => some .hasPath
  | "get" => some .get
  | "getFirst" => some .getFirst
  | "filter" => some .filter
  | "mapKeys" => some .mapKeys
  | "mapValues" => some .mapValues
  | "extend" => some .extend
  | "merge" => some .merge
  | _ => none

/-- What stands behind `lead` in a name. -/
def nameBehind? (lead name : String) : Option String :=
  (Text.dropPrefix? lead.toList name.toList).map String.ofList

/-- The unit of a shift with a name: so many milliseconds, or so many months. -/
def DateUnit.named? (name : String) : Option DateUnit :=
  match name with
  | "" | "Millis" => some ⟨name, false, 1⟩
  | "Seconds" => some ⟨name, false, second⟩
  | "Minutes" => some ⟨name, false, minute⟩
  | "Hours" => some ⟨name, false, hour⟩
  | "Days" => some ⟨name, false, day⟩
  | "Weeks" => some ⟨name, false, 7 * day⟩
  | "Months" => some ⟨name, true, 1⟩
  | "Years" => some ⟨name, true, 12⟩
  | _ => none
where
  second : Int := 1000
  minute : Int := 60 * second
  hour : Int := 60 * minute
  day : Int := 24 * hour

/-- The part of a date with a name. -/
def DatePart.named? (name : String) : Option DatePart :=
  match name with
  | "Date" => some .dayOfMonth
  | "Day" => some .dayOfWeek
  | "FullYear" => some .year
  | "Hours" => some .hours
  | "Milliseconds" => some .milliseconds
  | "Minutes" => some .minutes
  | "Month" => some .month
  | "Seconds" => some .seconds
  | "Time" => some .time
  | "TimezoneOffset" => some .zoneOffset
  | _ => none

/-- The method with a name that writes a date. -/
def DateMethod.writing? (name : String) : Option DateMethod :=
  match name with
  | "toString" | "toISOString" | "toJSON" => some .isoText
  | "toLocaleString" | "toLocaleDateTimeString" => some (.localText "yyyy-MM-dd'T'HH:mm:ss.SSS")
  | "toLocaleDateString" => some (.localText "yyyy-MM-dd")
  | "toLocaleTimeString" => some (.localText "HH:mm:ss.SSS")
  | _ => none

/-- The method of dates with a name. -/
def DateMethod.named? (name : String) : Option DateMethod :=
  match nameBehind? "plus" name with
  | some unit => (DateUnit.named? unit).map .plus
  | none =>
    match nameBehind? "minus" name with
    | some unit => (DateUnit.named? unit).map .minus
    | none =>
      match nameBehind? "with" name with
      | some field => (Field.ofName? field).map .set
      | none =>
        -- `getUTCDate` reads the part `Date`, not a part `UTCDate`.
        match (nameBehind? "getUTC" name).or (nameBehind? "get" name) with
        | some part => (DatePart.named? part).map .get
        | none => DateMethod.writing? name

section
variable {lead front rest name : String}

theorem nameBehind?_eq_some_iff : nameBehind? lead name = some rest ↔ name = lead ++ rest := by
  rw [nameBehind?, Option.map_eq_some_iff, ← String.toList_inj, String.toList_append]
  constructor
  · rintro ⟨cs, behind, rfl⟩
    rw [Text.dropPrefix?_eq_some_iff.mp behind, String.toList_ofList]
  · intro whole
    exact ⟨rest.toList, Text.dropPrefix?_eq_some_iff.mpr whole, String.ofList_toList⟩

theorem nameBehind?_append (lead rest : String) : nameBehind? lead (lead ++ rest) = some rest :=
  nameBehind?_eq_some_iff.mpr rfl

/-- Nothing stands behind what begins with another letter. -/
theorem nameBehind?_other {c d : Char} {cs ds : List Char} (begins : lead.toList = c :: cs)
    (begins' : front.toList = d :: ds) (differ : c ≠ d) (rest : String) :
    nameBehind? lead (front ++ rest) = none := by
  rw [nameBehind?, String.toList_append, begins, begins', List.cons_append, Text.dropPrefix?,
    if_neg differ, Option.map_none]

theorem DateMethod.named?_plus (unit : String) :
    named? ("plus" ++ unit) = (DateUnit.named? unit).map .plus := by
  rw [named?, nameBehind?_append]

theorem DateMethod.named?_minus (unit : String) :
    named? ("minus" ++ unit) = (DateUnit.named? unit).map .minus := by
  have noPlus : nameBehind? "plus" ("minus" ++ unit) = none :=
    nameBehind?_other rfl rfl (by decide) unit
  rw [named?, noPlus, nameBehind?_append]

theorem DateMethod.named?_with (field : String) :
    named? ("with" ++ field) = (Field.ofName? field).map .set := by
  have noPlus : nameBehind? "plus" ("with" ++ field) = none :=
    nameBehind?_other rfl rfl (by decide) field
  have noMinus : nameBehind? "minus" ("with" ++ field) = none :=
    nameBehind?_other rfl rfl (by decide) field
  rw [named?, noPlus, noMinus, nameBehind?_append]

theorem DateMethod.named?_get (part : String) :
    named? ("get" ++ part) =
      (DatePart.named? ((nameBehind? "UTC" part).getD part)).map .get := by
  have noPlus : nameBehind? "plus" ("get" ++ part) = none :=
    nameBehind?_other rfl rfl (by decide) part
  have noMinus : nameBehind? "minus" ("get" ++ part) = none :=
    nameBehind?_other rfl rfl (by decide) part
  have noWith : nameBehind? "with" ("get" ++ part) = none :=
    nameBehind?_other rfl rfl (by decide) part
  have utc : nameBehind? "getUTC" ("get" ++ part) = nameBehind? "UTC" part := by
    rw [nameBehind?, String.toList_append]
    rfl
  rw [named?, noPlus, noMinus, noWith, utc, nameBehind?_append]
  cases nameBehind? "UTC" part with
  | none => rfl
  | some part => rfl

end

theorem TextMethod.catalog_tells : TextMethod.catalog.Tells TextMethod.named? := by decide

theorem NumberMethod.catalog_tells : NumberMethod.catalog.Tells NumberMethod.named? := by decide

theorem ArrayMethod.catalog_tells : ArrayMethod.catalog.Tells ArrayMethod.named? := by decide

theorem ObjectMethod.catalog_tells : ObjectMethod.catalog.Tells ObjectMethod.named? := by decide

theorem getters_tell : (getters "get").Tells DateMethod.named? ∧
    (getters "getUTC").Tells DateMethod.named? := by
  have told : ∀ p ∈ DatePart.names,
      nameBehind? "UTC" p.1 = none ∧ DatePart.named? p.1 = some p.2 := by decide
  refine ⟨List.forall_mem_map.mpr fun p isPart => ?_, List.forall_mem_map.mpr fun p isPart => ?_⟩
  · obtain ⟨plain, named⟩ := told p isPart
    refine (DateMethod.named?_get p.1).trans ?_
    rw [plain, Option.getD_none, named, Option.map_some]
  · obtain ⟨-, named⟩ := told p isPart
    have whole : "getUTC" ++ p.1 = "get" ++ ("UTC" ++ p.1) := by
      rw [← String.append_assoc]
      rfl
    refine (congrArg DateMethod.named? whole).trans ((DateMethod.named?_get _).trans ?_)
    rw [nameBehind?_append, Option.getD_some, named, Option.map_some]

theorem shifts_tell : (shifts "minus" .minus).Tells DateMethod.named? ∧
    (shifts "plus" .plus).Tells DateMethod.named? := by
  have told : ∀ u ∈ DateUnit.all, DateUnit.named? u.name = some u := by decide
  refine ⟨List.forall_mem_map.mpr fun u isUnit => ?_, List.forall_mem_map.mpr fun u isUnit => ?_⟩
  · refine (DateMethod.named?_minus u.name).trans ?_
    rw [told u isUnit, Option.map_some]
  · refine (DateMethod.named?_plus u.name).trans ?_
    rw [told u isUnit, Option.map_some]

theorem setters_tell : setters.Tells DateMethod.named? := by
  have told : ∀ f ∈ Field.all, Field.ofName? f.name = some f := by decide
  refine List.forall_mem_map.mpr fun f isField => ?_
  refine (DateMethod.named?_with f.name).trans ?_
  rw [told f isField, Option.map_some]

theorem DateMethod.catalog_tells : DateMethod.catalog.Tells DateMethod.named? := by
  have texts : dateTexts.Tells DateMethod.named? := by decide
  intro e listed
  simp only [catalog, List.mem_append] at listed
  rcases listed with ((((plain | utc) | minus) | plus) | set) | text
  · exact getters_tell.1 e plain
  · exact getters_tell.2 e utc
  · exact shifts_tell.1 e minus
  · exact shifts_tell.2 e plus
  · exact setters_tell e set
  · exact texts e text

section
variable {name : String}

theorem TextMethod.listed {m : TextMethod} (told : TextMethod.named? name = some m) :
    TextMethod.catalog.has name = true := by
  unfold TextMethod.named? at told
  split at told
  all_goals first | rfl | contradiction

theorem NumberMethod.listed {m : NumberMethod} (told : NumberMethod.named? name = some m) :
    NumberMethod.catalog.has name = true := by
  unfold NumberMethod.named? at told
  split at told
  all_goals first | rfl | contradiction

theorem ArrayMethod.listed {m : ArrayMethod} (told : ArrayMethod.named? name = some m) :
    ArrayMethod.catalog.has name = true := by
  unfold ArrayMethod.named? at told
  split at told
  all_goals first | rfl | contradiction

theorem ObjectMethod.listed {m : ObjectMethod} (told : ObjectMethod.named? name = some m) :
    ObjectMethod.catalog.has name = true := by
  unfold ObjectMethod.named? at told
  split at told
  all_goals first | rfl | contradiction

theorem DateUnit.listed {u : DateUnit} (told : DateUnit.named? name = some u) :
    u ∈ DateUnit.all ∧ u.name = name := by
  unfold DateUnit.named? at told
  split at told
  all_goals first | contradiction | (cases told; decide)

/-- Two parts have no place in the catalog of parts. -/
theorem DatePart.listed {p : DatePart} (told : DatePart.named? name = some p) :
    (name, p) ∈ DatePart.names ∨ name ∈ ["Time", "TimezoneOffset"] := by
  unfold DatePart.named? at told
  split at told
  all_goals first | contradiction | (cases told; decide)

theorem DateMethod.writing_listed {m : DateMethod} (told : DateMethod.writing? name = some m) :
    DateMethod.catalog.has name = true := by
  unfold DateMethod.writing? at told
  split at told
  all_goals first | rfl | contradiction

/-- The names that tell a method of dates and are in no catalog: the time and the offset of the zone
are the same everywhere, and are listed without `UTC` only. -/
def unlistedGetters : List String := ["getUTCTime", "getUTCTimezoneOffset"]

theorem getter_listed {part : String} {p : DatePart} (told : DatePart.named? part = some p) :
    DateMethod.catalog.has ("get" ++ part) = true ∧
      (DateMethod.catalog.has ("getUTC" ++ part) = true ∨ "getUTC" ++ part ∈ unlistedGetters) := by
  have inNames : ∀ e ∈ DatePart.names, DateMethod.catalog.has ("get" ++ e.1) = true ∧
      DateMethod.catalog.has ("getUTC" ++ e.1) = true := by decide
  have others : ∀ part ∈ ["Time", "TimezoneOffset"],
      DateMethod.catalog.has ("get" ++ part) = true ∧ "getUTC" ++ part ∈ unlistedGetters := by
    decide
  obtain named | other := DatePart.listed told
  · exact ⟨(inNames _ named).1, .inl (inNames _ named).2⟩
  · exact ⟨(others part other).1, .inr (others part other).2⟩

theorem DateMethod.listed {m : DateMethod} (told : DateMethod.named? name = some m) :
    DateMethod.catalog.has name = true ∨ name ∈ unlistedGetters := by
  have shifted : ∀ u ∈ DateUnit.all, DateMethod.catalog.has ("plus" ++ u.name) = true ∧
      DateMethod.catalog.has ("minus" ++ u.name) = true := by decide
  have set : ∀ f ∈ Field.all, DateMethod.catalog.has ("with" ++ f.name) = true := by decide
  unfold DateMethod.named? at told
  split at told
  next unit lead =>
    obtain ⟨u, toldUnit, -⟩ := Option.map_eq_some_iff.mp told
    obtain ⟨isUnit, rfl⟩ := DateUnit.listed toldUnit
    rw [nameBehind?_eq_some_iff.mp lead]
    exact .inl (shifted u isUnit).1
  split at told
  next unit lead =>
    obtain ⟨u, toldUnit, -⟩ := Option.map_eq_some_iff.mp told
    obtain ⟨isUnit, rfl⟩ := DateUnit.listed toldUnit
    rw [nameBehind?_eq_some_iff.mp lead]
    exact .inl (shifted u isUnit).2
  split at told
  next field lead =>
    obtain ⟨f, toldField, -⟩ := Option.map_eq_some_iff.mp told
    unfold Field.ofName? at toldField
    have named := List.find?_some toldField
    rw [nameBehind?_eq_some_iff.mp lead, ← eq_of_beq named]
    exact .inl (set f (List.mem_of_find?_eq_some toldField))
  split at told
  next part lead =>
    obtain ⟨p, toldPart, -⟩ := Option.map_eq_some_iff.mp told
    obtain utc | ⟨-, plain⟩ := Option.or_eq_some_iff.mp lead
    · rw [nameBehind?_eq_some_iff.mp utc]
      exact (getter_listed toldPart).2
    · rw [nameBehind?_eq_some_iff.mp plain]
      exact .inl (getter_listed toldPart).1
  next => exact .inl (DateMethod.writing_listed told)

end

end DocExpr.Library
