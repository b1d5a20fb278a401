import DocExpr.Library.Text
import DocExpr.Proofs.Regex.Search
import DocExpr.Proofs.Text.Separation

/-! Searching for a text as it stands. The program of a text takes its characters one after the
other, and at every position of a search its ways are those that started where the needle agrees
with the text so far, the earliest first. So a search finds the first occurrence, and replacing the
matches of the program is replacing the occurrences of the text. -/
namespace DocExpr.Regex
open Text (OccursAt Finds Separated)

/-- The tree of a text: its characters one after the other. -/
def literalTree (needle : List Char) : Tree := .ofParts (needle.map fun c => .set (.literal c))

/-- The program of a text. -/
def literalProgram (needle : List Char) : Program := .ofTree (literalTree needle) []

/-- The program takes the characters of a needle one after the other, and notes where. -/
structure Program.Takes (p : Program) (needle : List Char) : Prop where
  opens : p.code[0]? = some (.save 0)
  takes : ∀ k c, needle[k]? = some c → p.code[k + 1]? = some (.take (.literal c))
  closes : p.code[needle.length + 1]? = some (.save 1)
  accepts : p.code[needle.length + 2]? = some .accept
  size : p.code.size = needle.length + 3
  groups : p.groups = 1

theorem literalTree_code (needle : List Char) :
    (literalTree needle).code = needle.map fun c => .take (.literal c) := by
  have codes : (Tree.codes (needle.map fun c => .set (.literal c))).flatten =
      needle.map fun c => .take (.literal c) := by
    induction needle with
    | nil => rfl
    | cons c cs ih =>
      rw [List.map_cons, Tree.codes, List.flatten_cons, ih]
      rfl
  match needle with
  | [] => rfl
  | [_] => rfl
  | _ :: _ :: _ => exact codes

theorem savedSlots_append (code more : List Instr) :
    savedSlots (code ++ more) = savedSlots code ++ savedSlots more := List.filterMap_append

theorem literalProgram_takes (needle : List Char) : (literalProgram needle).Takes needle := by
  have saved : savedSlots (needle.map fun c => .take (.literal c)) = [] := by
    rw [savedSlots, List.filterMap_map]
    exact List.filterMap_eq_nil_iff.mpr fun _ _ => rfl
  have code (i : Nat) : (literalProgram needle).code[i]? =
      (framed (needle.map fun c => .take (.literal c)))[i]? := by
    rw [← literalTree_code]
    exact List.getElem?_toArray
  refine ⟨code 0, fun k c found => ?_, ?_, ?_, ?_, ?_⟩
  · have inside := (List.getElem?_eq_some_iff.mp found).1
    rw [code, framed, List.getElem?_cons_succ, List.getElem?_append_left (by rwa [List.length_map]),
      List.getElem?_map, found]
    rfl
  · rw [code, framed, List.getElem?_cons_succ, List.getElem?_append_right (by simp),
      List.length_map, Nat.sub_self]
    rfl
  · rw [code, framed, List.getElem?_cons_succ, List.getElem?_append_right (by simp),
      List.length_map, Nat.add_sub_cancel_left]
    rfl
  · have size := congrArg List.length (congrArg framed (literalTree_code needle))
    exact size.trans (by simp [framed])
  · have slots := congrArg savedSlots (congrArg framed (literalTree_code needle))
    have slots' : savedSlots (framed (needle.map fun c => .take (.literal c))) = [0, 1] := by
      change 0 :: savedSlots _ = _
      rw [savedSlots_append, saved]
      rfl
    change (savedSlots (framed _)).foldl max 0 / 2 + 1 = 1
    rw [slots, slots']
    rfl

/-- The way that started at a place and has come to a position: in front of the next character of
the needle, or with all of them behind it. -/
def wayFrom (needle : List Char) (position a : Nat) : Thread :=
  if position - a < needle.length then ⟨position - a + 1, #[some a, none]⟩
  else ⟨needle.length + 2, #[some a, some position]⟩

/-- The ways at a position are those from these places, and what they have not reached is still to
be reached by ways from later ones. -/
structure Frontier.Holds (needle : List Char) (position : Nat) (starts : List Nat)
    (front : Frontier) : Prop where
  threads : front.threads.toList = starts.map (wayFrom needle position)
  fresh : ∀ i < needle.length + 3, (∀ a ∈ starts, i ≤ position - a) →
    front.seen[i]? = some false

theorem holds_empty (needle : List Char) (position : Nat) :
    (Frontier.empty (needle.length + 3)).Holds needle position [] := by
  refine ⟨rfl, fun i inside _ => ?_⟩
  rw [Frontier.empty, Array.getElem?_replicate, if_pos inside]

section
variable {p : Program} {needle : List Char} (takes : p.Takes needle) (before after : Option Char)
  {position a : Nat} {starts : List Nat} {front : Frontier}
include takes

/-- A way is followed up to the next character, or through the end of the program. -/
theorem follow_wayFrom {k : Nat} (passed : position - a = k) (began : k ≤ needle.length)
    (here : front.seen[k + 1]? = some false)
    (last : k = needle.length → front.seen[k + 2]? = some false) (fuel : Nat) :
    let front' := follow p before after position (fuel + 2) ⟨k + 1, #[some a, none]⟩ front
    front'.threads.toList = front.threads.toList ++ [wayFrom needle position a] ∧
      ∀ i ≤ k, front'.seen[i]? = front.seen[i]? := by
  have unseen {i : Nat} {seen : Array Bool} (fresh : seen[i]? = some false) :
      ¬ seen.getD i true = true := by
    rw [Array.getD_eq_getD_getElem?, fresh]
    exact Bool.false_ne_true
  rcases Nat.lt_or_eq_of_le began with inside | rfl
  · have code := takes.takes k _ (List.getElem?_eq_getElem inside)
    rw [follow, if_neg (unseen here)]
    simp only [code]
    refine ⟨?_, fun i upto => ?_⟩
    · rw [Array.toList_push, wayFrom, passed, if_pos inside]
    · exact Array.getElem?_setIfInBounds_ne (by omega)
  · have next : (front.seen.setIfInBounds (needle.length + 1) true)[needle.length + 2]? =
        some false := by
      rw [Array.getElem?_setIfInBounds_ne (by omega)]
      exact last rfl
    rw [follow, if_neg (unseen here)]
    simp only [takes.closes]
    rw [follow, if_neg (unseen next)]
    simp only [takes.accepts]
    refine ⟨?_, fun i upto => ?_⟩
    · rw [Array.toList_push, wayFrom, passed, if_neg (Nat.lt_irrefl _)]
      rfl
    · rw [Array.getElem?_setIfInBounds_ne (by omega), Array.getElem?_setIfInBounds_ne (by omega)]

/-- One more way, from a later place. -/
theorem Frontier.Holds.push (holds : front.Holds needle position starts)
    (later : ∀ b ∈ starts, b < a ∧ position - b ≤ needle.length) (reached : a ≤ position)
    (began : position - a ≤ needle.length) (fuel : Nat) :
    (follow p before after position (fuel + 2) ⟨position - a + 1, #[some a, none]⟩ front).Holds
      needle position (starts ++ [a]) := by
  have here := holds.fresh (position - a + 1) (by omega) fun b isIn => by
    have := later b isIn
    omega
  have last (full : position - a = needle.length) :=
    holds.fresh (position - a + 2) (by omega) fun b isIn => by
      have := later b isIn
      omega
  obtain ⟨threads, seen⟩ := follow_wayFrom takes before after rfl began here last fuel
  refine ⟨?_, fun i inside upto => ?_⟩
  · rw [threads, holds.threads, List.map_append, List.map_singleton]
  · rw [seen i (upto a (by simp))]
    exact holds.fresh i inside fun b isIn => upto b (List.mem_append_left _ isIn)

/-- A new way at the position. -/
theorem follow_entry (holds : front.Holds needle position starts)
    (later : ∀ b ∈ starts, b < position ∧ position - b ≤ needle.length) (fuel : Nat) :
    (follow p before after position (fuel + 3) ⟨0, #[none, none]⟩ front).threads.toList =
      (starts ++ [position]).map (wayFrom needle position) := by
  have unseen : ¬ front.seen.getD 0 true = true := by
    rw [Array.getD_eq_getD_getElem?, holds.fresh 0 (by omega) fun _ _ => Nat.zero_le _]
    exact Bool.false_ne_true
  have fresh (i : Nat) (inside : i + 1 < needle.length + 3)
      (upto : ∀ b ∈ starts, i + 1 ≤ position - b) :
      (front.seen.setIfInBounds 0 true)[i + 1]? = some false := by
    rw [Array.getElem?_setIfInBounds_ne (by omega)]
    exact holds.fresh _ inside upto
  have here := fresh 0 (by omega) fun b isIn => by
    have := later b isIn
    omega
  have last (full : 0 = needle.length) := fresh 1 (by omega) fun b isIn => by
    have := later b isIn
    omega
  rw [follow, if_neg unseen]
  simp only [takes.opens]
  rw [List.map_append, ← holds.threads]
  exact (@follow_wayFrom p needle takes before after position position
    ⟨front.seen.setIfInBounds 0 true, front.threads⟩ 0 (Nat.sub_self position) (Nat.zero_le _)
    here last fuel).1

/-- The character at the position takes a way on, or the way ends. -/
theorem step_wayFrom (text : Array Char) (reached : a ≤ position)
    (waits : position - a < needle.length) (threads : List Thread) :
    step p text position (wayFrom needle position a :: threads) front =
      step p text position threads
        (if text[position]? == needle[position - a]? then
          follow p text[position]? text[position + 1]? (position + 1) (needle.length + 4)
            ⟨position + 1 - a + 1, #[some a, none]⟩ front
        else front) := by
  have found := List.getElem?_eq_getElem waits
  have way : wayFrom needle position a = ⟨position - a + 1, #[some a, none]⟩ := if_pos waits
  have behind : position + 1 - a = position - a + 1 := by omega
  rw [way, step, takes.takes _ _ found, found, behind]
  cases text[position]? with
  | none => rfl
  | some c =>
    have has : (CharSet.literal needle[position - a]).has c =
        (some c == some needle[position - a]) := rfl
    dsimp only
    rw [has, takes.size]

/-- The ways that still wait for a character go on where it is the right one. -/
theorem step_takes (text : Array Char) (done : List Nat)
    (ascending : (done ++ starts).Pairwise (· < ·))
    (inside : ∀ a ∈ done ++ starts, a ≤ position ∧ position - a < needle.length)
    (holds : front.Holds needle (position + 1) done) :
    let after := step p text position (starts.map (wayFrom needle position)) front
    after.1.Holds needle (position + 1)
        (done ++ starts.filter fun a => text[position]? == needle[position - a]?) ∧
      after.2 = none := by
  -- on the ways left; `done` are those that went on, all from places further in front
  induction starts generalizing done front with
  | nil =>
    rw [List.filter_nil, List.append_nil]
    exact ⟨holds, rfl⟩
  | cons a starts ih =>
    obtain ⟨reached, waits⟩ := inside a (by simp)
    rw [List.map_cons, step_wayFrom takes text reached waits, List.filter_cons]
    split
    next right =>
      have front : ∀ b ∈ done, b < a ∧ position + 1 - b ≤ needle.length := fun b isIn => by
        have := inside b (List.mem_append_left _ isIn)
        have := (List.pairwise_append.mp ascending).2.2 b isIn a List.mem_cons_self
        omega
      rw [List.append_cons] at ascending inside ⊢
      exact ih _ ascending inside
        (holds.push takes _ _ front (by omega) (by omega) (needle.length + 2))
    next other =>
      have fewer : (done ++ starts).Sublist (done ++ a :: starts) :=
        (List.sublist_cons_self a _).append_left _
      exact ih _ (ascending.sublist fewer) (fun b isIn => inside b (fewer.subset isIn)) holds

end

/-- From a place up to a position the text agrees with the needle. -/
def Begun (needle : List Char) (text : Array Char) (position a : Nat) : Prop :=
  position - a ≤ needle.length ∧ ∀ k < position - a, text[a + k]? = needle[k]?

section
variable {needle : List Char} {text : Array Char} {position a : Nat}

theorem begun_here : Begun needle text position position := by
  rw [Begun, Nat.sub_self]
  exact ⟨Nat.zero_le _, fun k before => absurd before (Nat.not_lt_zero k)⟩

theorem begun_succ (reached : a ≤ position) : Begun needle text (position + 1) a ↔
    Begun needle text position a ∧ position - a < needle.length ∧
      text[position]? = needle[position - a]? := by
  have behind : position + 1 - a = position - a + 1 := by omega
  have last : a + (position - a) = position := by omega
  rw [Begun, Begun, behind]
  constructor
  · rintro ⟨short, agrees⟩
    refine ⟨⟨by omega, fun k before => agrees k (by omega)⟩, short, ?_⟩
    have here := agrees (position - a) (Nat.lt_succ_self _)
    rwa [last] at here
  · rintro ⟨⟨-, agrees⟩, waits, here⟩
    refine ⟨waits, fun k before => ?_⟩
    rcases Nat.lt_succ_iff_lt_or_eq.mp before with before | rfl
    · exact agrees k before
    · rwa [last]

/-- What has begun and is through with the needle is an occurrence. -/
theorem begun_full (within : a + needle.length ≤ text.size) :
    Begun needle text (a + needle.length) a ↔ OccursAt needle text.toList a := by
  have inside : a ≤ text.toList.length := Nat.le_of_add_right_le within
  rw [Begun, Nat.add_sub_cancel_left, Text.occursAt_iff_startsWith inside, Text.startsWith,
    List.isPrefixOf_iff_prefix, List.prefix_iff_getElem?]
  constructor
  · rintro ⟨-, agrees⟩ k inside
    rw [List.getElem?_drop, Array.getElem?_toList, agrees k inside,
      List.getElem?_eq_getElem inside]
  · refine fun same => ⟨Nat.le_refl _, fun k inside => ?_⟩
    have here := same k inside
    rwa [List.getElem?_drop, Array.getElem?_toList, ← List.getElem?_eq_getElem inside] at here

end

/-- What a search knows at a position where it has found nothing: its ways are those that have begun
in front of the position, and no occurrence has been passed. -/
structure Searching (needle : List Char) (text : Array Char) (start position : Nat)
    (starts : List Nat) (front : Frontier) : Prop where
  holds : front.Holds needle position starts
  ascending : starts.Pairwise (· < ·)
  begun : ∀ a, a ∈ starts ↔ (start ≤ a ∧ a < position) ∧ Begun needle text position a
  ahead : ∀ a, start ≤ a → OccursAt needle text.toList a → position ≤ a + needle.length

section
variable {p : Program} {needle : List Char} (takes : p.Takes needle) {text : Array Char}
  {start position : Nat} {starts : List Nat} {front : Frontier}

/-- With the way that starts at the position, the ways are all that have begun. -/
theorem Searching.begun_with (searching : Searching needle text start position starts front)
    (behind : start ≤ position) (a : Nat) : a ∈ starts ++ [position] ↔
      (start ≤ a ∧ a ≤ position) ∧ Begun needle text position a := by
  rw [List.mem_append, List.mem_singleton, searching.begun]
  constructor
  · rintro (⟨⟨later, before⟩, begun⟩ | rfl)
    · exact ⟨⟨later, Nat.le_of_lt before⟩, begun⟩
    · exact ⟨⟨behind, Nat.le_refl a⟩, begun_here⟩
  · rintro ⟨⟨later, upto⟩, begun⟩
    rcases Nat.lt_or_eq_of_le upto with before | here
    · exact .inl ⟨⟨later, before⟩, begun⟩
    · exact .inr here

theorem Searching.ascending_with
    (searching : Searching needle text start position starts front) :
    (starts ++ [position]).Pairwise (· < ·) := by
  refine List.pairwise_append.mpr ⟨searching.ascending, List.pairwise_singleton _ _, ?_⟩
  intro b isIn c isLast
  rw [List.mem_singleton.mp isLast]
  exact ((searching.begun b).mp isIn).1.2

theorem searchLoop_found (fuel : Nat) (best : Slots) :
    searchLoop p text fuel position (.empty p.code.size) (some best) = some best := by
  cases fuel with
  | zero => rfl
  | succ fuel => rfl

include takes

/-- The first of the ways that is through with the needle ends the search. -/
theorem step_full {a : Nat} (full : position - a = needle.length) (threads : List Thread) :
    step p text position (wayFrom needle position a :: threads) front =
      (front, some #[some a, some position]) := by
  have way : wayFrom needle position a = ⟨needle.length + 2, #[some a, some position]⟩ :=
    if_neg (by omega)
  rw [way, step, takes.accepts]

/-- One round of a search that has found nothing: a way starts at the position, and then the
character there takes all ways on. -/
theorem searchLoop_round (fuel : Nat)
    (searching : Searching needle text start position starts front) :
    let after := step p text position ((starts ++ [position]).map (wayFrom needle position))
      (.empty p.code.size)
    searchLoop p text (fuel + 1) position front none =
      searchLoop p text fuel (position + 1) after.1 after.2 := by
  have earlier : ∀ b ∈ starts, b < position ∧ position - b ≤ needle.length := fun b isIn =>
    ⟨((searching.begun b).mp isIn).1.2, ((searching.begun b).mp isIn).2.1⟩
  have threads := follow_entry takes (if position = 0 then none else text[position - 1]?)
    text[position]? searching.holds earlier (needle.length + 1)
  rw [← threads, searchLoop]
  simp only [Option.isNone_none, if_true, Option.isSome_none, Bool.and_false, Bool.false_eq_true,
    if_false, takes.groups, takes.size, Option.or_none]
  rfl

/-- If one of the ways is through with the needle, the first one is, and it is what is found. -/
theorem Searching.found (searching : Searching needle text start position starts front)
    (within : position ≤ text.size) (behind : start ≤ position)
    (full : ∃ a ∈ starts ++ [position], position - a = needle.length) :
    ∃ a, IsLeast {a | start ≤ a ∧ OccursAt needle text.toList a} a ∧
      (step p text position ((starts ++ [position]).map (wayFrom needle position))
        (.empty p.code.size)) = (.empty p.code.size, some #[some a, some (a + needle.length)]) := by
  have ascending := searching.ascending_with
  have begun := searching.begun_with behind
  obtain ⟨a, isIn, full⟩ := full
  obtain ⟨x, xs, ways⟩ : ∃ x xs, starts ++ [position] = x :: xs :=
    List.exists_cons_of_ne_nil (List.append_ne_nil_of_right_ne_nil _ (List.cons_ne_nil _ _))
  rw [ways] at ascending begun isIn ⊢
  obtain ⟨⟨later, reached⟩, started⟩ := (begun x).mp List.mem_cons_self
  have first : x ≤ a := by
    rcases List.mem_cons.mp isIn with rfl | isIn
    · exact Nat.le_refl _
    · exact Nat.le_of_lt (List.rel_of_pairwise_cons ascending isIn)
  have upto := ((begun a).mp isIn).1.2
  have short := started.1
  have ends : x + needle.length = position := by omega
  refine ⟨x, ⟨⟨later, ?_⟩, ?_⟩, ?_⟩
  · rw [← ends] at started
    exact (begun_full (by omega)).mp started
  · rintro b ⟨later, occurs⟩
    have := searching.ahead b later occurs
    omega
  · rw [List.map_cons, step_full takes (by omega), ends]

/-- Otherwise the search goes on behind the character. -/
theorem Searching.next (searching : Searching needle text start position starts front)
    (behind : start ≤ position) (within : position ≤ text.size)
    (open_ : ¬ ∃ a ∈ starts ++ [position], position - a = needle.length) :
    let after := step p text position ((starts ++ [position]).map (wayFrom needle position))
      (.empty p.code.size)
    (∃ starts', Searching needle text start (position + 1) starts' after.1) ∧ after.2 = none := by
  have begun := searching.begun_with behind
  have waits : ∀ a ∈ starts ++ [position], a ≤ position ∧ position - a < needle.length :=
    fun a isIn => by
      obtain ⟨⟨-, upto⟩, short, -⟩ := (begun a).mp isIn
      exact ⟨upto, Nat.lt_of_le_of_ne short fun full => open_ ⟨a, isIn, full⟩⟩
  have empty := holds_empty needle (position + 1)
  rw [← takes.size] at empty
  have ascending : ([] ++ (starts ++ [position])).Pairwise (· < ·) := searching.ascending_with
  obtain ⟨holds, nothing⟩ := step_takes takes text [] ascending waits empty
  refine ⟨⟨_, holds, searching.ascending_with.filter _, fun a => ?_, fun a later occurs => ?_⟩,
    nothing⟩
  · rw [List.nil_append, List.mem_filter, begun, beq_iff_eq]
    constructor
    · rintro ⟨⟨⟨later, upto⟩, started⟩, here⟩
      have := waits a ((begun a).mpr ⟨⟨later, upto⟩, started⟩)
      exact ⟨⟨later, Nat.lt_succ_of_le upto⟩, (begun_succ upto).mpr ⟨started, this.2, here⟩⟩
    · rintro ⟨⟨later, upto⟩, started⟩
      have upto := Nat.le_of_lt_succ upto
      obtain ⟨started, -, here⟩ := (begun_succ upto).mp started
      exact ⟨⟨⟨later, upto⟩, started⟩, here⟩
  · refine Nat.lt_of_le_of_ne (searching.ahead a later occurs) fun ends => open_ ⟨a, ?_, by omega⟩
    refine (begun a).mpr ⟨⟨later, by omega⟩, ?_⟩
    rw [ends] at within ⊢
    exact (begun_full within).mpr occurs

theorem searchLoop_takes (fuel : Nat) (rounds : position + fuel = text.size + 1)
    (behind : start ≤ position) (searching : Searching needle text start position starts front) :
    ∃ r, Finds IsLeast {a | start ≤ a ∧ OccursAt needle text.toList a} r ∧
      searchLoop p text fuel position front none =
        r.map fun a => #[some a, some (a + needle.length)] := by
  -- on the rounds left; behind the last one an occurrence would have to end outside the text
  induction fuel generalizing position starts front with
  | zero =>
    refine ⟨none, Set.eq_empty_of_forall_notMem ?_, rfl⟩
    rintro a ⟨later, occurs⟩
    have passed := searching.ahead a later occurs
    have inside : a + needle.length ≤ text.size := occurs.inside
    omega
  | succ fuel ih =>
    rw [searchLoop_round takes fuel searching]
    by_cases full : ∃ a ∈ starts ++ [position], position - a = needle.length
    · obtain ⟨a, least, ends⟩ := searching.found takes (by omega) behind full
      refine ⟨some a, least, ?_⟩
      rw [ends]
      exact searchLoop_found fuel _
    · obtain ⟨⟨starts', later⟩, nothing⟩ := searching.next takes behind (by omega) full
      rw [nothing]
      exact ih (by omega) (Nat.le_succ_of_le behind) later

/-- A search finds the first occurrence from its start on. -/
theorem find?_takes (within : start ≤ text.size) :
    ∃ r, Finds IsLeast {a | start ≤ a ∧ OccursAt needle text.toList a} r ∧
      p.find? text start = r.map fun a => ⟨[some (a, a + needle.length)]⟩ := by
  have searching : Searching needle text start start [] (.empty p.code.size) := by
    rw [takes.size]
    refine ⟨holds_empty needle start, .nil, fun a => ?_, fun a later _ => by omega⟩
    refine ⟨fun isIn => absurd isIn List.not_mem_nil, fun ⟨⟨later, before⟩, _⟩ => ?_⟩
    exact absurd before (Nat.not_lt_of_le later)
  obtain ⟨r, finds, ends⟩ := searchLoop_takes takes (text.size - start + 1) (by omega)
    (Nat.le_refl start) searching
  refine ⟨r, finds, ?_⟩
  rw [Program.find?, if_neg (by omega), ends, Option.map_map, takes.groups]
  rfl

end

end DocExpr.Regex
