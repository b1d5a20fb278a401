import DocExpr.Proofs.Evaluation.Run
import DocExpr.Proofs.Value.WholePart

/-! Cutting arrays and strings at a position. A slice up to a position and one from there on are the
whole, since both hold the position between the ends in the same way. A splice takes out a block
behind a position and puts other items in its place; putting the block back where it was is a
splice again, at the same position with a count as large as what was put in. -/
namespace DocExpr.Library
open Number (integer)

section
variable (k : Value)

theorem relativeIndex_zero (length : Nat) : Number.relativeIndex 0.0 length = 0 := by
  rw [Number.relativeIndex_eq, Number.integer_zero]
  exact Number.Extended.relative_whole (Nat.zero_le length)

theorem clampIndex_zero (length : Nat) : Number.clampIndex 0.0 length = 0 := by
  rw [Number.clampIndex_eq, Number.integer_zero]
  exact Number.Extended.clamped_whole (Nat.zero_le length)

theorem between_zero (cs : List Char) (stop : Nat) : between cs 0 stop = cs.take stop := rfl

theorem between_length (cs : List Char) (start : Nat) :
    between cs start cs.length = cs.drop start :=
  List.take_of_length_le (Nat.le_of_eq List.length_drop)

theorem sliceItems_front (items : List Value) :
    sliceItems items [.number 0.0, k] =
      items.take (Number.relativeIndex k.toNumber items.length) := by
  change (items.drop (Number.relativeIndex 0.0 items.length)).take
    (Number.relativeIndex k.toNumber items.length - Number.relativeIndex 0.0 items.length) = _
  rw [relativeIndex_zero]
  rfl

theorem sliceItems_back (items : List Value) :
    sliceItems items [k] = items.drop (Number.relativeIndex k.toNumber items.length) :=
  List.take_of_length_le (Nat.le_of_eq List.length_drop)

theorem sliceText_front (cs : List Char) :
    sliceText cs [.number 0.0, k] = cs.take (Number.relativeIndex k.toNumber cs.length) := by
  change between cs (Number.relativeIndex 0.0 cs.length)
    (Number.relativeIndex k.toNumber cs.length) = _
  rw [relativeIndex_zero, between_zero]

theorem sliceText_back (cs : List Char) :
    sliceText cs [k] = cs.drop (Number.relativeIndex k.toNumber cs.length) :=
  between_length cs _

theorem substringText_front (cs : List Char) :
    substringText cs [.number 0.0, k] = cs.take (Number.clampIndex k.toNumber cs.length) := by
  change between cs (min (Number.clampIndex 0.0 cs.length) (Number.clampIndex k.toNumber cs.length))
    (max (Number.clampIndex 0.0 cs.length) (Number.clampIndex k.toNumber cs.length)) = _
  rw [clampIndex_zero, Nat.zero_min, Nat.zero_max, between_zero]

theorem substringText_back (cs : List Char) :
    substringText cs [k] = cs.drop (Number.clampIndex k.toNumber cs.length) := by
  have within := Number.clampIndex_le k.toNumber cs.length
  change between cs (min (Number.clampIndex k.toNumber cs.length) cs.length)
    (max (Number.clampIndex k.toNumber cs.length) cs.length) = _
  rw [Nat.min_eq_left within, Nat.max_eq_right within, between_length]

theorem ofChars_take_append_drop (s : String) (n : Nat) :
    String.ofList (s.toList.take n) ++ String.ofList (s.toList.drop n) = s := by
  rw [← String.ofList_append, List.take_append_drop, String.ofList_toList]

end

/-- The items with a block taken out at a position and others put in its place. -/
def exchanged (items : List Value) (start count : Nat) (inserted : List Value) : List Value :=
  items.take start ++ inserted ++ items.drop (start + count)

section
variable {items inserted : List Value} {start count : Nat}

theorem length_exchanged (within : start + count ≤ items.length) :
    (exchanged items start count inserted).length = items.length - count + inserted.length := by
  simp only [exchanged, List.length_append, List.length_take, List.length_drop]
  omega

/-- What was put in stands where the block stood, so the block can be put back. -/
theorem exchanged_exchanged (within : start + count ≤ items.length) :
    exchanged (exchanged items start count inserted) start inserted.length
      ((items.drop start).take count) = items := by
  have front : (items.take start).length = start := List.length_take_of_le (by omega)
  have before : (exchanged items start count inserted).take start = items.take start := by
    rw [exchanged, List.append_assoc, List.take_left' front]
  have behind : (exchanged items start count inserted).drop (start + inserted.length) =
      items.drop (start + count) := by
    rw [exchanged, List.drop_left']
    rw [List.length_append, front]
  rw [exchanged, before, behind, List.append_assoc, ← List.drop_drop, List.take_append_drop,
    List.take_append_drop]

theorem spliceItems_eq (items : List Value) (p d : Value) (inserted : List Value) :
    spliceItems items (p :: d :: inserted) =
      exchanged items ((integer p.toNumber).relative items.length)
        ((integer d.toNumber).clamped (items.length - (integer p.toNumber).relative items.length))
        inserted := by
  rw [← Number.relativeIndex_eq, ← Number.clampIndex_eq]
  rfl

/-- A slice between two positions inside the array, given by numbers for them. -/
theorem sliceItems_inside {x y : Value} (starts : integer x.toNumber = .whole start)
    (stops : integer y.toNumber = .whole (start + count : Nat))
    (within : start + count ≤ items.length) :
    sliceItems items [x, y] = (items.drop start).take count := by
  have lower : Number.relativeIndex x.toNumber items.length = start := by
    rw [Number.relativeIndex_eq, starts, Number.Extended.relative_whole (by omega)]
  have upper : Number.relativeIndex y.toNumber items.length = start + count := by
    rw [Number.relativeIndex_eq, stops, Number.Extended.relative_whole within]
  change (items.drop (Number.relativeIndex x.toNumber items.length)).take
    (Number.relativeIndex y.toNumber items.length -
      Number.relativeIndex x.toNumber items.length) = _
  rw [lower, upper, Nat.add_sub_cancel_left]

/-- A splice inside the array, given by numbers for the position and the count. -/
theorem spliceItems_inside {x z : Value} (starts : integer x.toNumber = .whole start)
    (counts : integer z.toNumber = .whole count) (within : start + count ≤ items.length) :
    spliceItems items (x :: z :: inserted) = exchanged items start count inserted := by
  rw [spliceItems_eq, starts, Number.Extended.relative_whole (by omega), counts,
    Number.Extended.clamped_whole (by omega)]

end

/-- What is cut at a position comes to the whole again, and what a splice took out can be put back,
for every array, string, position, count and list of items. -/
theorem cuts_lose_nothing (host : Host) (root : Value) (items : List Value) (s : String)
    (k p d : Value) (inserted : List Value) :
    let onItems := fun items name args => callMethod host root (.array items) name args
    let onText := fun name args => callMethod host root (.string s) name args
    let q := (integer p.toNumber).relative items.length
    let r := (integer d.toNumber).clamped (items.length - q)
    (∃ front back, onItems items "slice" [.number 0.0, k] = pure (.array front) ∧
      onItems items "slice" [k] = pure (.array back) ∧ front ++ back = items) ∧
    (∃ front back, onText "slice" [.number 0.0, k] = pure (.string front) ∧
      onText "slice" [k] = pure (.string back) ∧ front ++ back = s) ∧
    (∃ front back, onText "substring" [.number 0.0, k] = pure (.string front) ∧
      onText "substring" [k] = pure (.string back) ∧ front ++ back = s) ∧
    ∃ spliced, onItems items "splice" (p :: d :: inserted) = pure (.array spliced) ∧
      spliced.length = items.length - r + inserted.length ∧
      ∀ start stop count : Value, integer start.toNumber = .whole q →
        integer stop.toNumber = .whole (q + r : Nat) →
        integer count.toNumber = .whole inserted.length →
        ∃ removed, onItems items "slice" [start, stop] = pure (.array removed) ∧
          onItems spliced "splice" (start :: count :: removed) = pure (.array items) := by
  intro onItems onText q r
  have splices (items : List Value) (args : List Value) :
      onItems items "splice" args = pure (.array (spliceItems items args)) := rfl
  have within : q + r ≤ items.length := by
    have start : q ≤ items.length := Number.Extended.relative_le _ _
    have count : r ≤ items.length - q := Number.Extended.clamped_le _ _
    omega
  refine ⟨⟨_, _, rfl, rfl, ?_⟩, ⟨_, _, rfl, rfl, ?_⟩, ⟨_, _, rfl, rfl, ?_⟩,
    exchanged items q r inserted, ?_, length_exchanged within, ?_⟩
  · rw [sliceItems_front, sliceItems_back, List.take_append_drop]
  · rw [sliceText_front, sliceText_back, ofChars_take_append_drop]
  · rw [substringText_front, substringText_back, ofChars_take_append_drop]
  · rw [splices, spliceItems_eq]
  · intro start stop count starts stops counts
    refine ⟨(items.drop q).take r, ?_, ?_⟩
    · have sliced : onItems items "slice" [start, stop] =
          pure (.array (sliceItems items [start, stop])) := rfl
      rw [sliced, sliceItems_inside starts stops within]
    · have room : q + inserted.length ≤ (exchanged items q r inserted).length := by
        rw [length_exchanged within]
        omega
      rw [splices, spliceItems_inside starts counts room, exchanged_exchanged within]

/-- An item in the middle is taken out for two others, and put back for them. -/
theorem one_for_two :
    integer 1.0 = .whole 1 ∧ integer 2.0 = .whole 2 ∧ ∀ host root,
      callMethod host root (.array [.bool true, .null, .bool false]) "splice"
          [.number (-2.0), .number 1.5, .string "a", .string "b"] =
        pure (.array [.bool true, .string "a", .string "b", .bool false]) ∧
      callMethod host root (.array [.bool true, .string "a", .string "b", .bool false]) "splice"
          [.number 1.0, .number 2.0, .null] = pure (.array [.bool true, .null, .bool false]) := by
  have one : integer 1.0 = .whole 1 := by decide
  have two : integer 2.0 = .whole 2 := by decide
  have first : (integer (Value.number (-2.0)).toNumber).relative 3 = 1 := by decide
  have cut : (integer (Value.number 1.5).toNumber).clamped 2 = 1 := by decide
  refine ⟨one, two, fun host root => ⟨rfl, ?_⟩⟩
  obtain ⟨-, -, -, spliced, called, -, back⟩ := cuts_lose_nothing host root
    [.bool true, .null, .bool false] "" .null (.number (-2.0)) (.number 1.5)
    [.string "a", .string "b"]
  simp only [List.length_cons, List.length_nil, Nat.reduceAdd, first, Nat.reduceSub, cut] at back
  obtain ⟨removed, sliced, restored⟩ := back (.number 1.0) (.number 2.0) (.number 2.0) one two two
  have put : spliced = [.bool true, .string "a", .string "b", .bool false] :=
    (Value.array.inj (EvalM.pure_injective called)).symm
  have block : removed = [.null] := (Value.array.inj (EvalM.pure_injective sliced)).symm
  rwa [put, block] at restored

end DocExpr.Library
