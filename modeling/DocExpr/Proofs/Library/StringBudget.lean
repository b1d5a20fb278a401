import DocExpr.Library.Dispatch
import DocExpr.Operator
import DocExpr.Proofs.Library.TextLength
import DocExpr.Proofs.Value.WholePart

/-! The budget of strings. The operator `+`, `concat` and `repeat` look at the length of what they
are to put together before they do so. The first two count as they go along; the third multiplies,
with numbers that are held at the largest one of 64 bits, so what matters is that a product that was
held still lies beyond the limit. That fails for the largest limit only, and there is no room then
for the text. -/
namespace DocExpr.Library
open DocExpr.Expr (BinaryOp addValues joinsText)

/-- The answer to a request for a text: the text if the limit allows it, and else that a text is too
long. That may be seen before the text is put together to its end. -/
def Budgeted (limit : Nat) (s : String) (answer : Except EvalError Value) : Prop :=
  if s.utf8ByteSize ≤ limit then answer = .ok (.string s)
  else ∃ length, limit < length ∧ length ≤ s.utf8ByteSize ∧
    answer = .error (.limit (.stringLength length limit))

variable {limit : Nat}

theorem checkLength_short {length : Nat} (short : length ≤ limit) :
    checkLength length limit = .ok () := if_neg (by omega)

theorem checkLength_long {length : Nat} (long : limit < length) :
    checkLength length limit = .error (.limit (.stringLength length limit)) := if_pos long

/-- A text whose length is looked at as it is. -/
theorem budgeted_check (limit : Nat) (s : String) :
    Budgeted limit s (do
      checkLength s.utf8ByteSize limit
      return .string s) := by
  unfold Budgeted
  split
  next short =>
    rw [checkLength_short short]
    rfl
  next long =>
    have long := Nat.lt_of_not_le long
    rw [checkLength_long long]
    exact ⟨_, long, Nat.le_refl _, rfl⟩

theorem budgeted_add {left right : Value} (joins : joinsText left = true ∨ joinsText right = true) :
    Budgeted limit (left.display ++ right.display) (BinaryOp.add.apply limit left right) := by
  have checked := budgeted_check limit (left.display ++ right.display)
  rw [String.utf8ByteSize_append] at checked
  change Budgeted limit _ (addValues limit left right)
  rwa [addValues, if_pos (Bool.or_eq_true_iff.mpr joins)]

/-- The texts of values one after the other. -/
def displays (vs : List Value) : String := String.join (vs.map Value.display)

theorem append_displays_cons (s : String) (v : Value) (vs : List Value) :
    s ++ displays (v :: vs) = s ++ v.display ++ displays vs := by
  rw [displays, List.map_cons, String.join_cons, String.append_assoc, displays]

theorem size_append_displays (s : String) (v : Value) (vs : List Value) :
    (s ++ displays (v :: vs)).utf8ByteSize =
      s.utf8ByteSize + v.display.utf8ByteSize + (displays vs).utf8ByteSize := by
  rw [append_displays_cons, String.utf8ByteSize_append, String.utf8ByteSize_append]

theorem appendAll_fits {s : String} {vs : List Value}
    (short : (s ++ displays vs).utf8ByteSize ≤ limit) :
    appendAll limit s vs = .ok (s ++ displays vs) := by
  induction vs generalizing s with
  | nil => exact congrArg Except.ok String.append_empty.symm
  | cons v vs ih =>
    have total := size_append_displays s v vs
    have first : s.utf8ByteSize + v.display.utf8ByteSize ≤ limit := by omega
    rw [append_displays_cons] at short ⊢
    simp only [appendAll, checkLength_short first]
    exact ih short

/-- Some of the running totals is beyond the limit if the last one is. -/
theorem appendAll_exceeds {s : String} {vs : List Value} (some : vs ≠ [])
    (long : limit < (s ++ displays vs).utf8ByteSize) :
    ∃ length, limit < length ∧ length ≤ (s ++ displays vs).utf8ByteSize ∧
      appendAll limit s vs = .error (.limit (.stringLength length limit)) := by
  induction vs generalizing s with
  | nil => exact absurd rfl some
  | cons v vs ih =>
    have total := size_append_displays s v vs
    by_cases first : s.utf8ByteSize + v.display.utf8ByteSize ≤ limit
    · have others : vs ≠ [] := by
        rintro rfl
        have none : (displays []).utf8ByteSize = 0 := rfl
        omega
      rw [append_displays_cons] at long ⊢
      simp only [appendAll, checkLength_short first]
      exact ih others long
    · have first := Nat.lt_of_not_le first
      refine ⟨_, first, by omega, ?_⟩
      simp only [appendAll, checkLength_long first]
      rfl

theorem budgeted_appendAll {args : List Value} (some : args ≠ []) (s : String) :
    Budgeted limit (s ++ displays args) ((appendAll limit s args).map .string) := by
  unfold Budgeted
  split
  next short =>
    rw [appendAll_fits short]
    rfl
  next long =>
    obtain ⟨length, beyond, atMost, failed⟩ := appendAll_exceeds some (Nat.lt_of_not_le long)
    rw [failed]
    exact ⟨length, beyond, atMost, rfl⟩

theorem callMethod_concat (host : Host) (root : Value) (s : String) (args : List Value) :
    callMethod host root (.string s) "concat" args =
      lift ((appendAll host.maxStringLength s args).map .string) := by
  have admitted : (Arity.atLeast 0).check "concat" args.length = .ok () :=
    if_pos (by simp [Arity.admits, Arity.atLeast])
  change (do
    lift ((Arity.atLeast 0).check "concat" args.length)
    return Value.string (← lift (appendAll host.maxStringLength s args))) = _
  rw [admitted]
  cases appendAll host.maxStringLength s args with
  | ok t => rfl
  | error e => rfl

/-- A text a number of times over. -/
def repetition (s : String) (n : Nat) : String := String.join (List.replicate n s)

theorem size_repetition (s : String) (n : Nat) :
    (repetition s n).utf8ByteSize = s.utf8ByteSize * n := by
  induction n with
  | zero => rfl
  | succ n ih =>
    rw [repetition, List.replicate_succ, String.join_cons, String.utf8ByteSize_append,
      ← repetition, ih, Nat.mul_succ, Nat.add_comm]

theorem repetition_empty (n : Nat) : repetition "" n = "" := by
  have size := size_repetition "" n
  rw [String.utf8ByteSize_empty, Nat.zero_mul] at size
  exact String.utf8ByteSize_eq_zero_iff.mp size

theorem appendTimes_eq (piece s : String) (n : Nat) :
    appendTimes piece n s = s ++ repetition piece n := by
  induction n generalizing s with
  | zero => exact String.append_empty.symm
  | succ n ih =>
    rw [appendTimes, ih, repetition, repetition, List.replicate_succ, String.join_cons,
      String.append_assoc]

theorem repeated_eq (s : String) (n : Nat) :
    (if s.isEmpty then s else appendTimes s n "") = repetition s n := by
  split
  next empty => rw [String.isEmpty_iff.mp empty, repetition_empty]
  next => rw [appendTimes_eq, String.empty_append]

/-- The number asks for that many times: it is that number once its fraction is cut off. What is no
number asks for none. -/
structure AsksFor (x : Float) (n : Nat) : Prop where
  bounded : Number.isInfinite x = false
  whole : Number.wholePart x = n

theorem AsksFor.not_refused {x : Float} {n : Nat} (asks : AsksFor x n) :
    ¬ (Number.trunc x < 0.0 ∨ Number.isInfinite (Number.trunc x) = true) := by
  rw [Number.trunc_negative_iff asks.bounded, Number.isInfinite_trunc, asks.bounded, asks.whole]
  simp

theorem AsksFor.toNat64 {x : Float} {n : Nat} (asks : AsksFor x n) :
    Number.toNat64 (Number.trunc x) = min n (2 ^ 64 - 1) := by
  have held := Number.clampInt_of_bounded asks.bounded (Int.le_refl 0)
    (by decide : (0 : Int) ≤ 2 ^ 64 - 1)
  have high : Int.pow 2 64 - 1 = 2 ^ 64 - 1 := rfl
  rw [Number.toNat64, Number.clampInt_trunc, high, held, asks.whole]
  omega

/-- A product with a factor that is held is held where the whole product is. -/
theorem min_mul_min (size n most : Nat) : min (size * min n most) most = min (size * n) most := by
  by_cases none : size = 0
  · rw [none, Nat.zero_mul, Nat.zero_mul]
  · rcases Nat.le_total n most with low | high
    · rw [Nat.min_eq_left low]
    · have held : most ≤ size * most := Nat.le_mul_of_pos_left most (Nat.pos_of_ne_zero none)
      have whole : size * most ≤ size * n := Nat.mul_le_mul_left size high
      rw [Nat.min_eq_right high]
      omega

/-- The limit lets the repeated text through, and there is no room for it. -/
def Oversized (limit : Nat) (s : String) (n : Nat) : Prop :=
  roomiest < s.utf8ByteSize * n ∧ (s.utf8ByteSize * n ≤ limit ∨ 2 ^ 64 - 1 ≤ limit)

section
variable {x : Float} {n : Nat} (asks : AsksFor x n) (s : String)
include asks

theorem repeatText_eq :
    repeatText limit s x = (do
      checkLength (min (s.utf8ByteSize * n) (2 ^ 64 - 1)) limit
      if roomiest < s.utf8ByteSize * min n (2 ^ 64 - 1) then
        typeError (.noRoom (s.utf8ByteSize * min n (2 ^ 64 - 1)))
      else return .string (repetition s (min n (2 ^ 64 - 1)))) := by
  unfold repeatText
  simp only [if_neg asks.not_refused, asks.toNat64, repeated_eq, Nat.pow_eq, min_mul_min]

/-- Where there is room for the text nothing is held. -/
theorem repeatText_roomy (roomy : s.utf8ByteSize * n ≤ roomiest) :
    repeatText limit s x = (do
      checkLength (repetition s n).utf8ByteSize limit
      return .string (repetition s n)) := by
  have most : roomiest = 2 ^ 63 - 1 := rfl
  have less : s.utf8ByteSize * min n (2 ^ 64 - 1) ≤ s.utf8ByteSize * n :=
    Nat.mul_le_mul_left _ (Nat.min_le_left n _)
  have all : repetition s (min n (2 ^ 64 - 1)) = repetition s n := by
    by_cases none : s.utf8ByteSize = 0
    · rw [String.utf8ByteSize_eq_zero_iff.mp none, repetition_empty, repetition_empty]
    · have times : n ≤ s.utf8ByteSize * n := Nat.le_mul_of_pos_left n (Nat.pos_of_ne_zero none)
      rw [Nat.min_eq_left (by omega)]
  rw [repeatText_eq asks, all, size_repetition, Nat.min_eq_left (by omega),
    if_neg (Nat.not_lt.mpr (less.trans roomy))]

theorem budgeted_repeat (fits : ¬ Oversized limit s n) :
    Budgeted limit (repetition s n) (repeatText limit s x) := by
  by_cases roomy : s.utf8ByteSize * n ≤ roomiest
  · rw [repeatText_roomy asks s roomy]
    exact budgeted_check _ _
  · have size := size_repetition s n
    have long : limit < s.utf8ByteSize * n ∧ limit < 2 ^ 64 - 1 := by
      unfold Oversized at fits
      omega
    rw [repeatText_eq asks, checkLength_long (Nat.lt_min.mpr long), Budgeted, if_neg (by omega)]
    exact ⟨_, Nat.lt_min.mpr long, by omega, rfl⟩

theorem repeatText_oversized (oversized : Oversized limit s n) :
    ∃ length, repeatText limit s x = .error (.badType (.noRoom length)) := by
  obtain ⟨large, allowed⟩ := oversized
  have most : roomiest = 2 ^ 63 - 1 := rfl
  have held := min_mul_min s.utf8ByteSize n (2 ^ 64 - 1)
  have noRoom : roomiest < s.utf8ByteSize * min n (2 ^ 64 - 1) := by omega
  rw [repeatText_eq asks, checkLength_short (by omega)]
  simp only [if_pos noRoom]
  exact ⟨_, rfl⟩

end

/-- The operator `+` with a text or a date on either side, `concat` with an argument, and `repeat`
with a number that asks for some times answer with exactly the text that is asked for, if its length
is within the limit of the host, and else that it is too long. Only where the limit lets a text
through for which there is no room, `repeat` breaks off. -/
theorem string_budget (host : Host) (root : Value) :
    (∀ left right : Value, joinsText left = true ∨ joinsText right = true →
      Budgeted host.maxStringLength (left.display ++ right.display)
        (BinaryOp.add.apply host.maxStringLength left right)) ∧
    (∀ (s : String) (args : List Value), args ≠ [] →
      ∃ answer, callMethod host root (.string s) "concat" args = lift answer ∧
        Budgeted host.maxStringLength (s ++ displays args) answer) ∧
    ∀ (s : String) (v : Value) (n : Nat), AsksFor v.toNumber n →
      ∃ answer, callMethod host root (.string s) "repeat" [v] = lift answer ∧
        (¬ Oversized host.maxStringLength s n →
          Budgeted host.maxStringLength (repetition s n) answer) ∧
        (Oversized host.maxStringLength s n →
          ∃ length, answer = .error (.badType (.noRoom length))) := by
  refine ⟨fun left right joins => budgeted_add joins, fun s args some => ?_, fun s v n asks => ?_⟩
  · exact ⟨_, callMethod_concat host root s args, budgeted_appendAll some s⟩
  · exact ⟨_, rfl, budgeted_repeat asks s, repeatText_oversized asks s⟩

/-- Four bytes are within a limit of four and six are not. The fraction of the number is cut
off. -/
theorem six_bytes_refused :
    AsksFor (Value.number 2.5).toNumber 2 ∧ AsksFor (Value.number 3.0).toNumber 3 ∧
      ∀ host root, host.maxStringLength = 4 →
        callMethod host root (.string "ab") "repeat" [.number 2.5] =
          lift (.ok (.string "abab")) ∧
        ∃ length, 4 < length ∧ callMethod host root (.string "ab") "repeat" [.number 3.0] =
          lift (.error (.limit (.stringLength length 4))) := by
  have two : AsksFor (Value.number 2.5).toNumber 2 := ⟨by decide, by decide⟩
  have three : AsksFor (Value.number 3.0).toNumber 3 := ⟨by decide, by decide⟩
  refine ⟨two, three, fun host root four => ?_⟩
  obtain ⟨-, -, repeats⟩ := string_budget host root
  have roomy (n : Nat) (few : n < 4) : ¬ Oversized host.maxStringLength "ab" n := by
    have size : "ab".utf8ByteSize = 2 := by decide
    have most : roomiest = 2 ^ 63 - 1 := rfl
    rw [Oversized, size]
    omega
  constructor
  · obtain ⟨answer, same, budgeted, -⟩ := repeats "ab" (.number 2.5) 2 two
    have short := budgeted (roomy 2 (by decide))
    rw [four, Budgeted, if_pos (by decide)] at short
    rw [same, short]
    rfl
  · obtain ⟨answer, same, budgeted, -⟩ := repeats "ab" (.number 3.0) 3 three
    have long := budgeted (roomy 3 (by decide))
    rw [four, Budgeted, if_neg (by decide)] at long
    obtain ⟨length, beyond, -, refused⟩ := long
    exact ⟨length, beyond, by rw [same, refused]⟩

theorem not_budgeted_noRoom (s : String) (length : Nat) :
    ¬ Budgeted limit s (.error (.badType (.noRoom length))) := by
  unfold Budgeted
  split
  · intro same
    cases same
  · rintro ⟨_, -, -, same⟩
    cases same

/-- Twice `2 ^ 63` bytes are held at the largest limit, which lets them through. -/
theorem largest_limit_breaks_off :
    AsksFor 9223372036854775808.0 (2 ^ 63) ∧ 2 ^ 64 - 1 < "ab".utf8ByteSize * 2 ^ 63 ∧
      repeatText (2 ^ 64 - 1) "ab" 9223372036854775808.0 =
        .error (.badType (.noRoom (2 ^ 64))) ∧
      ¬ Budgeted (2 ^ 64 - 1) (repetition "ab" (2 ^ 63))
        (repeatText (2 ^ 64 - 1) "ab" 9223372036854775808.0) := by
  have asks : AsksFor 9223372036854775808.0 (2 ^ 63) := ⟨by decide, by decide⟩
  have brokeOff : repeatText (2 ^ 64 - 1) "ab" 9223372036854775808.0 =
      .error (.badType (.noRoom (2 ^ 64))) := by rfl
  refine ⟨asks, by decide, brokeOff, ?_⟩
  rw [brokeOff]
  exact not_budgeted_noRoom _ _

end DocExpr.Library
