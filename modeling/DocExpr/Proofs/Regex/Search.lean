import DocExpr.Regex.Search

/-! What a search returns. The code of a tree leads to places inside itself or to its end, and
accepts nowhere, so the code of a whole regex is entered through the instruction that notes its
start, and accepts only behind the one that notes its end. So a match starts where the search did or
later, does not end before it starts, and lies inside the text, and the matches of a text follow one
another. -/
namespace DocExpr.Regex

/-- The instruction leads only so far back and so far ahead, and does not accept. -/
def Instr.LeadsWithin (low high : Int) : Instr → Prop
  | .take _ | .save _ | .require _ => low ≤ 1 ∧ 1 ≤ high
  | .split d e => (low ≤ d ∧ d ≤ high) ∧ low ≤ e ∧ e ≤ high
  | .jump d => low ≤ d ∧ d ≤ high
  | .accept => False

/-- All instructions lead to places from `low` to `high`, counted from the first one. -/
def Within (low high : Int) : List Instr → Prop
  | [] => True
  | instr :: code => instr.LeadsWithin low high ∧ Within (low - 1) (high - 1) code

/-- The code leads to its own instructions or to its end. -/
abbrev Closed (code : List Instr) : Prop := Within 0 code.length code

section
variable {low high low' high' : Int} {instr : Instr} {code more : List Instr}

theorem Instr.LeadsWithin.mono (within : instr.LeadsWithin low high) (lower : low' ≤ low)
    (higher : high ≤ high') : instr.LeadsWithin low' high' := by
  cases instr with
  | split d e =>
    obtain ⟨⟨_, _⟩, _, _⟩ := within
    exact ⟨⟨by omega, by omega⟩, by omega, by omega⟩
  | accept => exact within
  | _ =>
    obtain ⟨_, _⟩ := within
    exact ⟨by omega, by omega⟩

theorem Within.mono (within : Within low high code) (lower : low' ≤ low) (higher : high ≤ high') :
    Within low' high' code := by
  induction code generalizing low high low' high' with
  | nil => trivial
  | cons instr code ih =>
    exact ⟨within.1.mono lower higher, ih within.2 (by omega) (by omega)⟩

theorem within_append : Within low high (code ++ more) ↔
    Within low high code ∧ Within (low - code.length) (high - code.length) more := by
  induction code generalizing low high with
  | nil => simp [Within]
  | cons instr code ih =>
    have there : low - 1 - code.length = low - (instr :: code).length := by
      rw [List.length_cons]
      omega
    have there' : high - 1 - code.length = high - (instr :: code).length := by
      rw [List.length_cons]
      omega
    rw [List.cons_append, Within, Within, ih, there, there', and_assoc]

theorem Within.get (within : Within low high code) {i : Nat} (found : code[i]? = some instr) :
    instr.LeadsWithin (low - i) (high - i) := by
  induction code generalizing low high i with
  | nil => cases found
  | cons other code ih =>
    cases i with
    | zero =>
      cases found
      exact within.1.mono (by omega) (by omega)
    | succ i => exact (ih within.2 found).mono (by omega) (by omega)

theorem Closed.append (first : Closed code) (second : Closed more) : Closed (code ++ more) := by
  rw [Closed, List.length_append, within_append]
  exact ⟨first.mono (Int.le_refl 0) (by omega), second.mono (by omega) (by omega)⟩

theorem closed_flatten {codes : List (List Instr)} (each : ∀ code ∈ codes, Closed code) :
    Closed codes.flatten := by
  induction codes with
  | nil => trivial
  | cons code codes ih =>
    obtain ⟨here, later⟩ := List.forall_mem_cons.mp each
    rw [List.flatten_cons]
    exact here.append (ih later)

end

theorem branch_within (greedy : Bool) {into past low high : Int}
    (inside : low ≤ into ∧ into ≤ high) (inside' : low ≤ past ∧ past ≤ high) :
    (Instr.branch greedy into past).LeadsWithin low high := by
  unfold Instr.branch
  split
  · exact ⟨inside, inside'⟩
  · exact ⟨inside', inside⟩

section
variable {body : List Instr} (closed : Closed body) (greedy : Bool)
include closed

theorem plusCode_closed : Closed (plusCode greedy body) := by
  rw [plusCode, Closed, List.length_append, List.length_singleton, within_append]
  refine ⟨closed.mono (Int.le_refl 0) (by omega), ?_, trivial⟩
  exact branch_within greedy ⟨by omega, by omega⟩ ⟨by omega, by omega⟩

theorem optionalCode_closed : Closed (optionalCode greedy body) := by
  rw [optionalCode, Closed, List.length_cons]
  refine ⟨?_, closed.mono (by omega) (by omega)⟩
  exact branch_within greedy ⟨by omega, by omega⟩ ⟨by omega, by omega⟩

theorem starCode_closed (nullable : Bool) : Closed (starCode greedy nullable body) := by
  unfold starCode
  split
  · exact optionalCode_closed (plusCode_closed closed greedy) greedy
  · rw [Closed, List.cons_append, List.length_cons, List.length_append, List.length_singleton]
    refine ⟨branch_within greedy ⟨by omega, by omega⟩ ⟨by omega, by omega⟩, ?_⟩
    rw [within_append]
    exact ⟨closed.mono (by omega) (by omega), ⟨by omega, by omega⟩, trivial⟩

theorem atMostCode_closed (times : Nat) : Closed (atMostCode greedy body times) := by
  induction times with
  | zero => trivial
  | succ times ih => exact optionalCode_closed (closed.append ih) greedy

theorem repeated_closed (times : Nat) : Closed (List.replicate times body).flatten :=
  closed_flatten fun _ isIn => (List.eq_of_mem_replicate isIn).symm ▸ closed

theorem loopCode_closed (nullable : Bool) (least : Nat) (most : Option Nat) :
    Closed (loopCode greedy nullable body least most) := by
  unfold loopCode
  split
  · exact (repeated_closed closed _).append (atMostCode_closed closed greedy _)
  · split
    · exact starCode_closed closed greedy nullable
    · exact (repeated_closed closed _).append (plusCode_closed closed greedy)

end

theorem choiceCode_closed {codes : List (List Instr)} (each : ∀ code ∈ codes, Closed code) :
    Closed (choiceCode codes) := by
  induction codes with
  | nil => trivial
  | cons code codes ih =>
    obtain ⟨here, later⟩ := List.forall_mem_cons.mp each
    cases codes with
    | nil => exact here
    | cons next codes =>
      have rest := ih later
      change Closed (.split 1 (code.length + 2) :: code ++
        .jump ((choiceCode (next :: codes)).length + 1) :: choiceCode (next :: codes))
      generalize choiceCode (next :: codes) = others at rest ⊢
      rw [Closed, List.cons_append, List.length_cons, List.length_append, List.length_cons]
      refine ⟨⟨⟨by omega, by omega⟩, by omega, by omega⟩, ?_⟩
      rw [within_append]
      exact ⟨here.mono (by omega) (by omega), ⟨by omega, by omega⟩,
        rest.mono (by omega) (by omega)⟩

mutual
theorem Tree.code_closed : (t : Tree) → Closed t.code
  | .empty => trivial
  | .set _ | .assertion _ => ⟨⟨Int.zero_le_ofNat 1, Int.le_refl 1⟩, trivial⟩
  | .group none body => code_closed body
  | .group (some i) body => by
    have inner := code_closed body
    rw [Tree.code, Closed, List.cons_append, List.length_cons, List.length_append,
      List.length_singleton]
    refine ⟨⟨by omega, by omega⟩, ?_⟩
    rw [within_append]
    exact ⟨inner.mono (by omega) (by omega), ⟨by omega, by omega⟩, trivial⟩
  | .sequence parts => closed_flatten (codes_closed parts)
  | .choice parts => choiceCode_closed (codes_closed parts)
  | .loop body least most greedy => loopCode_closed (code_closed body) greedy _ _ _

theorem Tree.codes_closed : (ts : List Tree) → ∀ code ∈ Tree.codes ts, Closed code
  | [] => fun _ isIn => absurd isIn List.not_mem_nil
  | t :: ts => List.forall_mem_cons.mpr ⟨code_closed t, codes_closed ts⟩
end

/-- The places that an instruction leads to. -/
def Instr.leads (at_ : Nat) : Instr → List Nat
  | .take _ | .save _ | .require _ => [at_ + 1]
  | .split d e => [target at_ d, target at_ e]
  | .jump d => [target at_ d]
  | .accept => []

/-- The code of the program starts by noting the start, and what leads to its end has noted the
end. -/
structure Program.Framed (p : Program) : Prop where
  opens : p.code[0]? = some (.save 0)
  closes : ∀ i (instr : Instr) j, p.code[i]? = some instr → j ∈ instr.leads i →
    p.code[j]? = some .accept → instr = .save 1
  grouped : 0 < p.groups

theorem target_le {i : Nat} {d : Int} {length : Nat} (low : -i ≤ d) (high : d ≤ length - i) :
    target (i + 1) d ≤ length + 1 := by
  unfold target
  omega

/-- Inside the frame nothing leads behind the end of the code. -/
theorem leads_le {code : List Instr} (closed : Closed code) {i j : Nat} {instr : Instr}
    (found : code[i]? = some instr) (leads : j ∈ instr.leads (i + 1)) : j ≤ code.length + 1 := by
  have within := closed.get found
  rw [Int.zero_sub] at within
  have inside := (List.getElem?_eq_some_iff.mp found).1
  cases instr with
  | split d e =>
    rcases List.mem_cons.mp leads with rfl | leads
    · exact target_le within.1.1 within.1.2
    · rw [List.mem_singleton.mp leads]
      exact target_le within.2.1 within.2.2
  | jump d =>
    rw [List.mem_singleton.mp leads]
    exact target_le within.1 within.2
  | accept => exact within.elim
  | _ =>
    rw [List.mem_singleton.mp leads]
    omega

/-- The code of a tree with the instructions around it. -/
def framed (code : List Instr) : List Instr := .save 0 :: (code ++ [.save 1, .accept])

theorem framed_succ {code : List Instr} {i : Nat} {instr : Instr}
    (found : (framed code)[i + 1]? = some instr) :
    code[i]? = some instr ∨ i = code.length ∧ instr = .save 1 ∨
      i = code.length + 1 ∧ instr = .accept := by
  change (code ++ [.save 1, .accept])[i]? = some instr at found
  rcases Nat.lt_trichotomy i code.length with before | here | behind
  · rw [List.getElem?_append_left before] at found
    exact .inl found
  · rw [here, List.getElem?_append_right (Nat.le_refl _), Nat.sub_self] at found
    cases found
    exact .inr (.inl ⟨here, rfl⟩)
  · rw [List.getElem?_append_right (Nat.le_of_lt behind)] at found
    obtain ⟨k, rfl⟩ := Nat.exists_eq_add_of_lt behind
    rw [Nat.add_assoc, Nat.add_sub_cancel_left] at found
    cases k with
    | zero =>
      cases found
      exact .inr (.inr ⟨rfl, rfl⟩)
    | succ k => cases found

/-- Only the last instruction accepts. -/
theorem framed_accept {code : List Instr} (closed : Closed code) {j : Nat}
    (found : (framed code)[j]? = some .accept) : j = code.length + 2 := by
  cases j with
  | zero => cases found
  | succ j =>
    rcases framed_succ found with inner | ⟨-, other⟩ | ⟨rfl, -⟩
    · exact (closed.get inner).elim
    · cases other
    · rfl

theorem Program.framed_ofTree (tree : Tree) (names : List (String × Nat)) :
    (Program.ofTree tree names).Framed := by
  have closed := tree.code_closed
  have code (i : Nat) : (Program.ofTree tree names).code[i]? = (framed tree.code)[i]? :=
    List.getElem?_toArray
  refine ⟨code 0, fun i instr j found leads accepts => ?_, Nat.succ_pos _⟩
  rw [code] at found accepts
  have last := framed_accept closed accepts
  cases i with
  | zero =>
    cases found
    have := List.mem_singleton.mp leads
    omega
  | succ i =>
    rcases framed_succ found with inner | ⟨-, ends⟩ | ⟨-, rfl⟩
    · have := leads_le closed inner leads
      omega
    · exact ends
    · cases leads

/-- A way that has come to a position: inside the program it has noted where it started, from `low`
on, and where the program accepts it has noted the position as its end. -/
structure Way (p : Program) (low position : Nat) (t : Thread) : Prop where
  room : 2 ≤ t.slots.size
  started : t.at_ ≠ 0 → ∃ a, t.slots[0]? = some (some a) ∧ low ≤ a ∧ a ≤ position
  ended : p.code[t.at_]? = some .accept → t.slots[1]? = some (some position)

/-- The slots describe a match that starts at `low` or later and ends at `high` or before. -/
def Notes (low high : Nat) (slots : Slots) : Prop :=
  ∃ a b, slots[0]? = some (some a) ∧ slots[1]? = some (some b) ∧ low ≤ a ∧ a ≤ b ∧ b ≤ high

section
variable {p : Program} (framed : p.Framed) {low position : Nat} {t : Thread} {instr : Instr}
include framed

/-- Whatever does not note a position leads a way on, to the same position or a later one. -/
theorem Way.go (way : Way p low position t) (found : p.code[t.at_]? = some instr)
    (other : ∀ slot, instr ≠ .save slot) {j : Nat} (leads : j ∈ instr.leads t.at_) {later : Nat}
    (behind : position ≤ later) : Way p low later ⟨j, t.slots⟩ := by
  refine ⟨way.room, fun _ => ?_, fun accepts => ?_⟩
  · have inside : t.at_ ≠ 0 := by
      intro first
      rw [first, framed.opens] at found
      exact other 0 (Option.some.inj found).symm
    obtain ⟨a, noted, lower, upper⟩ := way.started inside
    exact ⟨a, noted, lower, Nat.le_trans upper behind⟩
  · exact absurd (framed.closes _ _ _ found leads accepts) (other 1)

theorem Way.save (way : Way p low position t) {slot : Nat}
    (found : p.code[t.at_]? = some (.save slot)) (reached : low ≤ position) :
    Way p low position ⟨t.at_ + 1, t.slots.setIfInBounds slot (some position)⟩ := by
  have room := way.room
  refine ⟨by rwa [Array.size_setIfInBounds], fun _ => ?_, fun accepts => ?_⟩
  · by_cases start : slot = 0
    · refine ⟨position, ?_, reached, Nat.le_refl position⟩
      rw [start, Array.getElem?_setIfInBounds_self_of_lt (by omega)]
    · have inside : t.at_ ≠ 0 := by
        intro first
        rw [first, framed.opens] at found
        cases found
        exact start rfl
      obtain ⟨a, noted, bounds⟩ := way.started inside
      exact ⟨a, by rwa [Array.getElem?_setIfInBounds_ne start], bounds⟩
  · cases framed.closes _ _ _ found (List.mem_singleton.mpr rfl) accepts
    exact Array.getElem?_setIfInBounds_self_of_lt (by omega)

/-- A way that accepts describes a match up to its position. -/
theorem Way.notes (way : Way p low position t) (accepts : p.code[t.at_]? = some .accept) :
    Notes low position t.slots := by
  have inside : t.at_ ≠ 0 := by
    intro first
    rw [first, framed.opens] at accepts
    cases accepts
  obtain ⟨a, noted, lower, upper⟩ := way.started inside
  exact ⟨a, position, noted, way.ended accepts, lower, upper, Nat.le_refl position⟩

theorem follow_ways (before after : Option Char) (reached : low ≤ position) (fuel : Nat)
    {t : Thread} {front : Frontier} (way : Way p low position t)
    (ways : ∀ t' ∈ front.threads, Way p low position t') :
    ∀ t' ∈ (follow p before after position fuel t front).threads, Way p low position t' := by
  -- on the fuel; each instruction leads the way on, and what is pushed is the way itself
  induction fuel generalizing t front with
  | zero => exact ways
  | succ fuel ih =>
    rw [follow]
    split
    · exact ways
    · have pushed : ∀ t' ∈ front.threads.push t, Way p low position t' := fun t' isIn =>
        (Array.mem_push.mp isIn).elim (ways t') fun same => same ▸ way
      dsimp only
      split
      next => exact ways
      next d found =>
        exact ih (way.go framed found nofun (List.mem_singleton.mpr rfl) (Nat.le_refl _)) ways
      next d e found =>
        have first := way.go framed found nofun List.mem_cons_self (Nat.le_refl _)
        have second := way.go framed found nofun (List.mem_cons_of_mem _ List.mem_cons_self)
          (Nat.le_refl _)
        exact ih second (ih first ways)
      next slot found => exact ih (way.save framed found reached) ways
      next a found =>
        split
        · exact ih (way.go framed found nofun (List.mem_singleton.mpr rfl) (Nat.le_refl _)) ways
        · exact ways
      next => exact pushed
      next => exact pushed

theorem step_ways (text : Array Char) (within : position ≤ text.size) (reached : low ≤ position)
    {threads : List Thread} {front : Frontier} (ways : ∀ t ∈ threads, Way p low position t)
    (next : ∀ t ∈ front.threads, Way p low (position + 1) t) :
    (∀ t ∈ (step p text position threads front).1.threads, Way p low (position + 1) t) ∧
      ∀ slots, (step p text position threads front).2 = some slots → Notes low text.size slots := by
  induction threads generalizing front with
  | nil => exact ⟨next, nofun⟩
  | cons t threads ih =>
    obtain ⟨way, ways⟩ := List.forall_mem_cons.mp ways
    rw [step]
    split
    next accepts =>
      refine ⟨next, fun slots found => ?_⟩
      cases found
      obtain ⟨a, b, start, stop, lower, order, upper⟩ := way.notes framed accepts
      exact ⟨a, b, start, stop, lower, order, Nat.le_trans upper within⟩
    next s c found here =>
      refine ih ways ?_
      split
      · have taken := way.go framed found nofun (List.mem_singleton.mpr rfl)
          (Nat.le_succ position)
        exact follow_ways framed _ _ (Nat.le_succ_of_le reached) _ taken next
      · exact next
    next => exact ih ways next

theorem Way.entry : Way p low position ⟨0, Array.replicate (2 * p.groups) none⟩ := by
  refine ⟨?_, fun inside => absurd rfl inside, fun accepts => ?_⟩
  · have := framed.grouped
    rw [Array.size_replicate]
    omega
  · rw [framed.opens] at accepts
    cases accepts

theorem searchLoop_notes (text : Array Char) (fuel : Nat) {front : Frontier}
    {best : Option Slots} (reached : low ≤ position) (room : position + fuel ≤ text.size + 1)
    (ways : ∀ t ∈ front.threads, Way p low position t)
    (noted : ∀ slots, best = some slots → Notes low text.size slots) :
    ∀ slots, searchLoop p text fuel position front best = some slots →
      Notes low text.size slots := by
  induction fuel generalizing position front best with
  | zero => exact noted
  | succ fuel ih =>
    rw [searchLoop]
    generalize entered : (if best.isNone then follow p
      (if position = 0 then none else text[position - 1]?) text[position]? position
      (p.code.size + 1) ⟨0, Array.replicate (2 * p.groups) none⟩ front else front) = front'
    have ways' : ∀ t ∈ front'.threads, Way p low position t := by
      rw [← entered]
      split
      · exact follow_ways framed _ _ reached _ (Way.entry framed) ways
      · exact ways
    dsimp only
    split
    · exact noted
    · have noWays : ∀ t ∈ (Frontier.empty p.code.size).threads, Way p low (position + 1) t :=
        fun t isIn => absurd isIn (Array.not_mem_empty t)
      obtain ⟨next, found⟩ := step_ways framed text (by omega) reached
        (fun t isIn => ways' t (Array.mem_toList_iff.mp isIn)) noWays
      refine ih (by omega) (by omega) next fun slots taken => ?_
      rcases Option.or_eq_some_iff.mp taken with new | ⟨-, old⟩
      · exact found slots new
      · exact noted slots old

end

/-- The match is a part of what stands between two positions, and its first group is all of it. -/
structure Match.Lies (low high : Nat) (m : Match) : Prop where
  whole : m.groups.head? = some (some (m.start, m.stop))
  starts : low ≤ m.start
  order : m.start ≤ m.stop
  ends : m.stop ≤ high

theorem Match.Lies.mono {low low' high : Nat} {m : Match} (lies : m.Lies low high)
    (lower : low' ≤ low) : m.Lies low' high :=
  { lies with starts := Nat.le_trans lower lies.starts }

theorem Match.ofSlots_lies {groups low high : Nat} {slots : Slots} (grouped : 0 < groups)
    (noted : Notes low high slots) : (Match.ofSlots groups slots).Lies low high := by
  obtain ⟨a, b, start, stop, lower, order, upper⟩ := noted
  obtain ⟨groups, rfl⟩ := Nat.exists_eq_add_of_lt grouped
  have whole : (Match.ofSlots (0 + groups + 1) slots).groups.head? = some (some (a, b)) := by
    rw [Match.ofSlots, List.range_succ_eq_map, List.map_cons, List.head?_cons,
      Array.getD_eq_getD_getElem?, Array.getD_eq_getD_getElem?, start, stop]
    rfl
  have starts : (Match.ofSlots (0 + groups + 1) slots).start = a := by rw [Match.start, whole]; rfl
  have stops : (Match.ofSlots (0 + groups + 1) slots).stop = b := by rw [Match.stop, whole]; rfl
  exact ⟨by rw [whole, starts, stops], by rwa [starts], by rwa [starts, stops], by rwa [stops]⟩

section
variable {p : Program} (framed : p.Framed) {text : Array Char} {start : Nat} {m : Match}
include framed

theorem Program.find?_lies (found : p.find? text start = some m) : m.Lies start text.size := by
  unfold Program.find? at found
  split at found
  · cases found
  · obtain ⟨slots, noted, rfl⟩ := Option.map_eq_some_iff.mp found
    refine Match.ofSlots_lies framed.grouped ?_
    refine searchLoop_notes framed text _ (Nat.le_refl start) (by omega) ?_ ?_ slots noted
    · exact fun t isIn => absurd isIn (Array.not_mem_empty t)
    · exact fun _ taken => nomatch taken

theorem Program.findNext?_lies {last : Option Nat} (found : p.findNext? text start last = some m) :
    m.Lies start text.size := by
  unfold Program.findNext? at found
  split at found
  next first here =>
    split at found
    · exact (find?_lies framed found).mono (Nat.le_succ start)
    · cases found
      exact find?_lies framed here
  next => cases found

end

/-- The matches follow one another from a position on. -/
inductive InOrder (high : Nat) : Nat → List Match → Prop where
  | nil (start : Nat) (within : start ≤ high) : InOrder high start []
  | cons {start : Nat} {m : Match} {ms : List Match} (lies : m.Lies start high)
    (later : InOrder high m.stop ms) : InOrder high start (m :: ms)

theorem InOrder.lies {high start : Nat} {m : Match} {ms : List Match}
    (ordered : InOrder high start ms) (isIn : m ∈ ms) : m.Lies 0 high := by
  induction ordered with
  | nil => cases isIn
  | cons lies later ih =>
    rcases List.mem_cons.mp isIn with rfl | isIn
    · exact lies.mono (Nat.zero_le _)
    · exact ih isIn

theorem matchesLoop_inOrder {p : Program} (framed : p.Framed) (text : Array Char) (fuel : Nat)
    {start : Nat} (within : start ≤ text.size) (last : Option Nat) :
    InOrder text.size start (matchesLoop p text fuel start last) := by
  induction fuel generalizing start last with
  | zero => exact .nil start within
  | succ fuel ih =>
    rw [matchesLoop]
    split
    next m found =>
      have lies := p.findNext?_lies framed found
      exact .cons lies (ih lies.ends _)
    next => exact .nil start within

theorem slice_eq (text : Array Char) (start stop : Nat) :
    slice text start stop = (text.toList.drop start).take (stop - start) := by
  rw [slice, Array.toList_extract, List.extract_eq_take_drop]

theorem slice_append (text : Array Char) {a b c : Nat} (order : a ≤ b) (order' : b ≤ c) :
    slice text a b ++ slice text b c = slice text a c := by
  obtain ⟨i, rfl⟩ := Nat.exists_eq_add_of_le order
  obtain ⟨j, rfl⟩ := Nat.exists_eq_add_of_le order'
  rw [slice_eq, slice_eq, slice_eq, Nat.add_sub_cancel_left, Nat.add_sub_cancel_left,
    Nat.add_assoc, Nat.add_sub_cancel_left, ← List.drop_drop, List.take_add]

theorem slice_upto (text : Array Char) (stop : Nat) :
    slice text 0 stop = text.toList.take stop := by
  rw [slice_eq, List.drop_zero, Nat.sub_zero]

theorem slice_from (text : Array Char) (start : Nat) :
    slice text start text.size = text.toList.drop start := by
  have all : (text.toList.drop start).length ≤ text.size - start :=
    Nat.le_of_eq List.length_drop
  rw [slice_eq, List.take_of_length_le all]

/-- What the first group matched is what the whole regex matched. -/
theorem Match.Lies.texts_eq {low high : Nat} {m : Match} (lies : m.Lies low high)
    (text : Array Char) : ∃ others, m.texts text = some (m.text text) :: others := by
  obtain ⟨others, groups⟩ := List.head?_eq_some_iff.mp lies.whole
  rw [Match.texts, groups]
  exact ⟨_, rfl⟩

/-- Matches replaced by what they match leave the text as it was. -/
theorem replaceFrom_texts {text : Array Char} {start : Nat} {ms : List Match}
    (ordered : InOrder text.size start ms) :
    replaceFrom text (·.text text) start ms = slice text start text.size := by
  induction ordered with
  | nil => rfl
  | cons lies later ih =>
    have rest := Nat.le_trans lies.order lies.ends
    rw [replaceFrom, ih, Match.text, slice_append text lies.starts lies.order,
      slice_append text (Nat.le_trans lies.starts lies.order) lies.ends]

end DocExpr.Regex
