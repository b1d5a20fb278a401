import DocExpr.Library.Dispatch
import DocExpr.Proofs.Library.TextLength
import DocExpr.Proofs.Number.DecimalLiteral
import DocExpr.Proofs.Path.Position

/-! Dotted texts as names of positions. With each key in quotes and brackets, just as it is, and
each index in brackets, a dotted text is read as the steps of its position, whatever stands in the
keys but a closing bracket: brackets reach to the first of those, in quotes or not. The methods of
objects that take such a text find the value there. -/
namespace DocExpr
open DocExpr.Expr (Segment)

namespace Place

/-- A step in its brackets, the key in quotes and otherwise as it is. -/
def bare : Place → List Char
  | .key name => '[' :: '\'' :: (name.toList ++ ['\'', ']'])
  | .item i => '[' :: (Number.digitChars i ++ [']'])

/-- An index that a signed 64-bit integer holds. -/
def isIndex : Place → Prop
  | .key _ => True
  | .item i => i < 2 ^ 63

/-- No bracket in the key closes those around it. -/
def isClosed : Place → Prop
  | .key name => ']' ∉ name.toList
  | .item _ => True

end Place

/-- The dotted text of a position. -/
def dottedText (places : List Place) : String := String.ofList (places.flatMap Place.bare)

namespace Number

theorem wholeNumber?_digitChars (n : Nat) : wholeNumber? (digitChars n) = some n := by
  have text := WholeText.mk .none (digits_digitChars n)
  rw [natOfDigits_digitChars] at text
  exact wholeNumber?_eq_some_iff.mpr text

end Number

namespace Path

/-- Brackets reach to the first closing one. -/
theorem dottedFrom_brackets {front : List Char} (open_ : ']' ∉ front) (inner rest : List Char) :
    dottedFrom [] (some inner) (front ++ ']' :: rest) =
      bracketed (inner.reverse ++ front) :: dottedFrom [] none rest := by
  induction front generalizing inner with
  | nil => rw [List.nil_append, dottedFrom, if_pos rfl, List.append_nil]
  | cons c front ih =>
    have other : c ≠ ']' := fun same => open_ (same ▸ List.mem_cons_self)
    have later : ']' ∉ front := fun isIn => open_ (List.mem_cons_of_mem c isIn)
    rw [List.cons_append, dottedFrom, if_neg other, ih later, List.reverse_cons,
      List.append_assoc, List.singleton_append]

theorem dottedFrom_front {front : List Char} (open_ : ']' ∉ front) (rest : List Char) :
    dottedFrom [] none ('[' :: (front ++ ']' :: rest)) =
      bracketed front :: dottedFrom [] none rest := by
  rw [dottedFrom, if_neg (by decide), if_pos rfl, dottedFrom_brackets open_]
  rfl

theorem trim_quoted (cs : List Char) :
    Text.trim ('\'' :: (cs ++ ['\''])) = '\'' :: (cs ++ ['\'']) := by
  have left : Text.trimLeft ('\'' :: (cs ++ ['\''])) = ('\'' :: cs) ++ ['\''] := rfl
  rw [Text.trim, left, Text.trimRight, List.reverse_append, List.reverse_singleton,
    List.singleton_append, List.dropWhile_cons_of_neg (by decide), List.reverse_cons,
    List.reverse_reverse]
  rfl

/-- What stands in quotes is a key as it is. -/
theorem bracketed_quoted (cs : List Char) :
    bracketed ('\'' :: (cs ++ ['\''])) = .field (String.ofList cs) := by
  have unquoted : unquoted? '\'' ('\'' :: (cs ++ ['\''])) = some cs := by
    unfold unquoted?
    rw [Text.dropPrefix?_eq_some_iff.mpr (List.singleton_append).symm]
    exact Text.dropSuffix?_eq_some_iff.mpr rfl
  unfold bracketed
  rw [trim_quoted]
  dsimp only
  rw [unquoted]
  rfl

theorem bracketed_digitChars {i : Nat} (small : i < 2 ^ 63) :
    bracketed (Number.digitChars i) = .index i := by
  have digits := Number.digits_digitChars i
  have noQuote {quote : Char} (other : Number.isDigit quote = false) :
      unquoted? quote (Number.digitChars i) = none := by
    obtain ⟨c, cs, written, digit⟩ := digits.cons
    have differs : quote ≠ c := by
      rintro rfl
      rw [digit] at other
      cases other
    rw [unquoted?, written, Text.dropPrefix?, if_neg differs]
    rfl
  have within : Number.minInt64 ≤ (i : Int) ∧ (i : Int) ≤ Number.maxInt64 := by
    change -2 ^ 63 ≤ (i : Int) ∧ (i : Int) ≤ 2 ^ 63 - 1
    omega
  unfold bracketed
  rw [Text.trim_eq_self fun c isIn => Number.isBlank_of_isDigit (digits.all c isIn)]
  dsimp only
  rw [noQuote rfl, noQuote rfl, Number.wholeNumber?_digitChars]
  exact if_pos within

/-- The name of a field in brackets is made of what stands in them. -/
theorem mem_of_bracketed {inner : List Char} {name : String} (h : bracketed inner = .field name) :
    ∀ c ∈ name.toList, c ∈ inner := by
  have trimmed : ∀ c ∈ Text.trim inner, c ∈ inner := fun c => (Text.trim_sublist inner).mem
  have unquoted {quote : Char} {key : List Char}
      (found : unquoted? quote (Text.trim inner) = some key) : ∀ c ∈ key, c ∈ inner := by
    obtain ⟨rest, front, back⟩ := Option.bind_eq_some_iff.mp found
    have split := Text.dropPrefix?_eq_some_iff.mp front
    rw [Text.dropSuffix?_eq_some_iff.mp back] at split
    intro c isIn
    refine trimmed c ?_
    rw [split]
    exact List.mem_append_right _ (List.mem_append_left _ isIn)
  unfold bracketed at h
  dsimp only at h
  split at h
  next key found =>
    cases h
    rw [String.toList_ofList]
    rcases Option.or_eq_some_iff.mp found with single | ⟨-, double⟩
    · exact unquoted single
    · exact unquoted double
  next =>
    split at h
    · split at h
      · cases h
      · cases h
        rwa [String.toList_ofList]
    · cases h
      rwa [String.toList_ofList]

theorem dottedFrom_bare {p : Place} (small : p.isIndex) (closed : p.isClosed) (rest : List Char) :
    dottedFrom [] none (p.bare ++ rest) = p.segment :: dottedFrom [] none rest := by
  cases p with
  | key name =>
    have inside : ']' ∉ name.toList := closed
    have open_ : ']' ∉ '\'' :: (name.toList ++ ['\'']) := by simpa using inside
    have read := dottedFrom_front open_ rest
    rw [bracketed_quoted, String.ofList_toList] at read
    simpa [Place.bare, Place.segment] using read
  | item i =>
    have open_ : ']' ∉ Number.digitChars i := fun isIn =>
      absurd ((Number.digits_digitChars i).all _ isIn) (by decide)
    have read := dottedFrom_front open_ rest
    rw [bracketed_digitChars small] at read
    simpa [Place.bare, Place.segment] using read

/-- A key with a closing bracket is broken off there. -/
theorem dottedFrom_bare_ne {p : Place} (broken : ¬ p.isClosed) (rest : List Char)
    (segments : List Segment) : dottedFrom [] none (p.bare ++ rest) ≠ p.segment :: segments := by
  cases p with
  | key name =>
    have isIn : ']' ∈ name.toList := Classical.not_not.mp broken
    obtain ⟨front, back, split, open_⟩ := List.eq_append_cons_of_mem isIn
    have open' : ']' ∉ '\'' :: front := by simpa using open_
    have read := dottedFrom_front open' (back ++ '\'' :: ']' :: rest)
    have text : (Place.key name).bare ++ rest =
        '[' :: ('\'' :: front ++ ']' :: (back ++ '\'' :: ']' :: rest)) := by
      simp [Place.bare, split]
    rw [text, read, Place.segment]
    intro same
    exact open' (mem_of_bracketed (List.cons.inj same).1 ']' isIn)
  | item i => exact absurd trivial broken

theorem parseDotted_dottedText {places : List Place} (small : ∀ p ∈ places, p.isIndex) :
    parseDotted (dottedText places) = places.map Place.segment ↔
      ∀ p ∈ places, p.isClosed := by
  rw [parseDotted, dottedText, String.toList_ofList]
  induction places with
  | nil => exact iff_of_true rfl fun _ isIn => absurd isIn List.not_mem_nil
  | cons p places ih =>
    obtain ⟨here, beyond⟩ := List.forall_mem_cons.mp small
    rw [List.flatMap_cons, List.map_cons, List.forall_mem_cons]
    by_cases closed : p.isClosed
    · rw [dottedFrom_bare here closed, List.cons_eq_cons, ih beyond]
      simp [closed]
    · exact iff_of_false (dottedFrom_bare_ne closed _ _) fun both => closed both.1

theorem lookupExact?_at {d v : Value} {places : List Place} (at_ : d.At places v)
    (distinct : d.DistinctKeys) : lookupExact? d (places.map Place.segment) = some v := by
  induction at_ with
  | here => rfl
  | @key entries k part v places entry below ih =>
    have here : exactStep? (.object entries) (.field k) = some part :=
      Entries.find?_of_mem (distinct entries .whole) entry
    rw [List.map_cons, lookupExact?, Place.segment, here]
    exact ih (distinct.part (Value.mem_parts_of_entry entry))
  | @item items i part v places found below ih =>
    have here : exactStep? (.array items) (.index i) = some part := by
      rw [exactStep?, element?, if_neg (by omega)]
      exact found
    rw [List.map_cons, lookupExact?, Place.segment, here]
    exact ih (distinct.part (List.mem_of_getElem? found))

end Path

/-- A dotted text that names each step of a position in brackets is read as these steps if and only
if no key holds a closing bracket, and then the methods of objects find the value at the position by
it. -/
theorem dotted_text_followed {places : List Place} (small : ∀ p ∈ places, p.isIndex) :
    (Path.parseDotted (dottedText places) = places.map Place.segment ↔
      ∀ p ∈ places, p.isClosed) ∧
    ((∀ p ∈ places, p.isClosed) → ∀ entries v, (Value.object entries).At places v →
      (Value.object entries).DistinctKeys → ∀ host root,
        Library.callMethod host root (.object entries) "get" [.string (dottedText places)] =
          pure v ∧
        Library.callMethod host root (.object entries) "hasPath" [.string (dottedText places)] =
          pure (.bool true)) := by
  have read := Path.parseDotted_dottedText small
  refine ⟨read, fun closed entries v at_ distinct host root => ?_⟩
  have argument : Library.pathArg (Library.arg [.string (dottedText places)] 0) =
      places.map Place.segment := read.mpr closed
  have found := Path.lookupExact?_at at_ distinct
  rw [← argument] at found
  constructor
  · change (pure ((Path.lookupExact? _ (Library.pathArg _)).getD _) : EvalM Value) = _
    rw [found]
    rfl
  · change (pure (Value.bool (Path.lookupExact? _ (Library.pathArg _)).isSome) : EvalM Value) = _
    rw [found]
    rfl

/-- An object under an empty key, in an array, with a key that has a point, an opening bracket and
quotes. -/
def Value.oddKeys : Value := .object [("", .array [.object [("a.b[ '\"", .null)]])]

theorem Value.oddKeys_distinct : oddKeys.DistinctKeys := by
  refine .of_parts ?_ (List.forall_mem_singleton.mpr (.of_parts ?_
    (List.forall_mem_singleton.mpr (.of_parts ?_
      (List.forall_mem_singleton.mpr (.of_parts ?_ ?_))))))
  all_goals
    rintro _ ⟨⟩
    try decide

/-- A key may be empty, and a bracket, a point and quotes may stand in one. -/
theorem odd_keys_followed :
    Value.oddKeys.At [.key "", .item 0, .key "a.b[ '\""] .null ∧
      Path.parseDotted "[''][0]['a.b[ '\"']" =
        [.field "", .index 0, .field "a.b[ '\""] ∧
      ∀ host root,
        Library.callMethod host root .oddKeys "get" [.string "[''][0]['a.b[ '\"']"] =
          pure .null ∧
        Library.callMethod host root .oddKeys "hasPath" [.string "[''][0]['a.b[ '\"']"] =
          pure (.bool true) := by
  have at_ : Value.oddKeys.At [.key "", .item 0, .key "a.b[ '\""] .null :=
    .key List.mem_cons_self (.item rfl (.key List.mem_cons_self (.here _)))
  have text : dottedText [.key "", .item 0, .key "a.b[ '\""] = "[''][0]['a.b[ '\"']" := by decide
  have small : ∀ p ∈ [Place.key "", .item 0, .key "a.b[ '\""], p.isIndex := by
    simp [Place.isIndex]
  have closed : ∀ p ∈ [Place.key "", .item 0, .key "a.b[ '\""], p.isClosed := by
    simp [Place.isClosed]
  obtain ⟨read, followed⟩ := dotted_text_followed small
  rw [← text]
  exact ⟨at_, read.mpr closed, followed closed _ _ at_ Value.oddKeys_distinct⟩

/-- Quotes do not keep a closing bracket from ending the key. -/
theorem bracket_breaks_key :
    (Value.object [("a]b", .bool true)]).At [.key "a]b"] (.bool true) ∧
      dottedText [.key "a]b"] = "['a]b']" ∧
      Path.parseDotted "['a]b']" = [.field "'a", .field "b']"] ∧
      ∀ host root,
        Library.callMethod host root (.object [("a]b", .bool true)]) "get"
          [.string "['a]b']"] = pure .null ∧
        Library.callMethod host root (.object [("a]b", .bool true)]) "hasPath"
          [.string "['a]b']"] = pure (.bool false) :=
  ⟨.key List.mem_cons_self (.here _), rfl, rfl, fun _ _ => ⟨rfl, rfl⟩⟩

end DocExpr
