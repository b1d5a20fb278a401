import DocExpr.Proofs.Regex.Literal
import Mathlib.Data.String.Basic

/-! A text with backslashes in front of what means something reads as its characters, one after the
other, and compiles to the program of the text, unless that is too large for a regex. -/
namespace DocExpr.Regex

/-- A computation that succeeds hands its result and its state on. -/
theorem Read.bind_eq {α β : Type} {x : Read α} {s s' : Reading} {a : α}
    (here : x s = some (a, s')) (f : α → Read β) : (x >>= f) s = f a s' := by
  change (x s).bind (fun result => f result.1 result.2) = _
  rw [here]
  rfl

section
variable {c : Char} {rest : List Char}

theorem skip?_other {d : Char} (other : rest.head? ≠ some d) :
    skip? (String.ofList [d]) { rest } = some (false, { rest }) := by
  have nothing : Text.dropPrefix? (String.ofList [d]).toList rest = none := by
    rw [String.toList_ofList]
    cases rest with
    | nil => rfl
    | cons c cs =>
      rw [Text.dropPrefix?, if_neg]
      rintro rfl
      exact other rfl
  have state : (get : Read Reading) { rest } = some ({ rest }, { rest }) := rfl
  rw [skip?, Read.bind_eq state]
  simp only [nothing]
  rfl

/-- No loop starts with a character that means nothing, nor with a backslash. -/
theorem loopOperator?_none (first : ∀ c ∈ rest.head?, isMeta c = true → c = '\\') :
    loopOperator? { rest } = some (none, { rest }) := by
  have other {d : Char} (isMeta_d : isMeta d = true) (differs : d ≠ '\\') : rest.head? ≠ some d :=
    fun same => differs (first d same isMeta_d)
  have star : skip? "*" { rest } = _ := skip?_other (other (d := '*') (by decide) (by decide))
  have plus : skip? "+" { rest } = _ := skip?_other (other (d := '+') (by decide) (by decide))
  have question : skip? "?" { rest } = _ := skip?_other (other (d := '?') (by decide) (by decide))
  have brace : skip? "\x7b" { rest } = _ :=
    skip?_other (other (d := '\x7b') (by decide) (by decide))
  rw [loopOperator?, Read.bind_eq star, if_neg Bool.false_ne_true, Read.bind_eq plus,
    if_neg Bool.false_ne_true, Read.bind_eq question, if_neg Bool.false_ne_true,
    Read.bind_eq brace, if_neg Bool.false_ne_true]
  rfl

theorem get_reading (s : Reading) : (get : Read Reading) s = some (s, s) := rfl

theorem next_cons : next { rest := c :: rest } = some (c, { rest }) := rfl

theorem charTree_plain : charTree c { rest } = some (.set (.literal c), { rest }) := rfl

/-- A character that means nothing stands for itself. -/
theorem atom_plain (plain : isMeta c = false) :
    atom c { rest } = some (.set (.literal c), { rest }) := by
  rw [atom, Read.bind_eq (get_reading _)]
  split
  next => exact absurd plain (by decide)
  next => exact absurd plain (by decide)
  next => exact absurd plain (by decide)
  next => exact absurd plain (by decide)
  next => exact absurd plain (by decide)
  next => exact charTree_plain

/-- What means something is no class. -/
theorem shorthand?_special (special : isMeta c = true) : shorthand? c = none := by
  -- checked along the list: a bounded quantifier could be decided over all characters instead
  have each : ("\\.+*?()|[]\x7b\x7d^$#&-~".toList.all fun d => (shorthand? d).isNone) = true := by
    decide
  exact Option.isNone_iff_eq_none.mp (List.all_eq_true.mp each c (List.contains_iff_mem.mp special))

/-- A character with a backslash in front stands for itself, if it means something. -/
theorem atom_escaped (special : isMeta c = true) :
    atom '\\' { rest := c :: rest } = some (.set (.literal c), { rest }) := by
  have escaped : escape { rest := c :: rest } = some (.char c, { rest }) := by
    rw [escape, Read.bind_eq next_cons, Read.bind_eq (get_reading _)]
    simp only [shorthand?_special special]
    rw [if_pos (by rw [isEscapable, special, Bool.true_or])]
    rfl
  rw [atom, Read.bind_eq (get_reading _)]
  exact (Read.bind_eq escaped _).trans charTree_plain

end

theorem peek?_cons {c : Char} {rest : List Char} :
    peek? { rest := c :: rest } = some (some c, { rest := c :: rest }) := rfl

/-- A character that is no bar, no bracket and no loop is read, and the sequence goes on. -/
theorem sequence_atom {c : Char} {rest after : List Char} {leaf : Tree} (fuel : Nat)
    (done : List Tree) (first : isMeta c = true → c = '\\')
    (read : atom c { rest } = some (leaf, { rest := after })) :
    sequence (fuel + 1) done { rest := c :: rest } =
      sequence fuel (leaf :: done) { rest := after } := by
  have passed : skipSpace { rest := c :: rest } = some ((), { rest := c :: rest }) := rfl
  have noLoop : loopOperator? { rest := c :: rest } = some (none, { rest := c :: rest }) :=
    loopOperator?_none fun d isHead special => by
      cases isHead
      exact first special
  have goesOn : (next >>= fun _ => atom c >>= fun leaf => sequence fuel (leaf :: done))
      { rest := c :: rest } = sequence fuel (leaf :: done) { rest := after } := by
    rw [Read.bind_eq next_cons, Read.bind_eq read]
  rw [sequence, Read.bind_eq passed, Read.bind_eq noLoop]
  dsimp only
  -- both sides as readers: the cases are told apart by the character, not by the state
  rw [Read.bind_eq peek?_cons, ← goesOn]
  refine congrFun ?_ _
  split
  next same => cases same
  next same =>
    cases same
    exact absurd (first (by decide)) (by decide)
  next same =>
    cases same
    exact absurd (first (by decide)) (by decide)
  next same =>
    cases same
    exact absurd (first (by decide)) (by decide)
  next same =>
    cases same
    rfl

theorem sequence_quoted (needle : List Char) (fuel : Nat) (enough : needle.length < fuel)
    (done : List Tree) : sequence fuel done { rest := quoted needle } =
      some (.ofParts (done.reverse ++ needle.map fun c => .set (.literal c)), { rest := [] }) := by
  induction needle generalizing fuel done with
  | nil =>
    obtain ⟨fuel, rfl⟩ : ∃ m, fuel = m + 1 := ⟨fuel - 1, by omega⟩
    rw [sequence, List.map_nil, List.append_nil]
    rfl
  | cons c cs ih =>
    obtain ⟨fuel, rfl⟩ : ∃ m, fuel = m + 1 := ⟨fuel - 1, by omega⟩
    rw [List.length_cons] at enough
    have rest := ih fuel (by omega) (.set (.literal c) :: done)
    rw [List.reverse_cons, List.append_assoc, List.singleton_append] at rest
    rw [List.map_cons, ← rest]
    cases special : isMeta c with
    | true =>
      have text : quoted (c :: cs) = '\\' :: c :: quoted cs := by
        rw [quoted, List.flatMap_cons, if_pos special]
        rfl
      rw [text]
      exact sequence_atom fuel done (fun _ => rfl) (atom_escaped special)
    | false =>
      have text : quoted (c :: cs) = c :: quoted cs := by
        rw [quoted, List.flatMap_cons, if_neg (by rw [special]; exact Bool.false_ne_true)]
        rfl
      rw [text]
      refine sequence_atom fuel done (fun special' => ?_) (atom_plain special)
      rw [special] at special'
      cases special'

theorem length_le_quoted (needle : List Char) : needle.length ≤ (quoted needle).length := by
  induction needle with
  | nil => exact Nat.le_refl 0
  | cons c cs ih =>
    rw [quoted, List.flatMap_cons, List.length_append, List.length_cons]
    have : 1 ≤ (if isMeta c then ['\\', c] else [c]).length := by split <;> simp
    rw [quoted] at ih
    omega

theorem choices_quoted (needle : List Char) (fuel : Nat) (enough : needle.length < fuel) :
    choices (fuel + 1) [] { rest := quoted needle } =
      some (literalTree needle, { rest := [] }) := by
  rw [choices, Read.bind_eq (sequence_quoted needle fuel enough [])]
  rfl

/-- The most bytes that a text may have to be compiled as a regex. -/
def longestLiteral : Nat := (Tree.sizeLimit - Tree.frameSize - Tree.captureSize) / 32

theorem literalTree_nesting (needle : List Char) :
    (literalTree needle).nesting ≤ Tree.nestingLimit := by
  have flat : Tree.nestingMax (needle.map fun c => .set (.literal c)) = 0 := by
    induction needle with
    | nil => rfl
    | cons c cs ih =>
      rw [List.map_cons, Tree.nestingMax, ih]
      rfl
  match needle with
  | [] => exact Nat.zero_le _
  | [c] => exact Nat.zero_le _
  | c :: d :: ds =>
    change Tree.nestingMax ((c :: d :: ds).map fun c => .set (.literal c)) + 1 ≤ _
    rw [flat]
    decide

theorem literalTree_size (needle : List Char) {set : CharSet → Nat}
    (each : ∀ c, set (.literal c) = 32 * c.utf8Size) (capture : Nat) :
    (literalTree needle).size set capture = max 32 (32 * String.utf8Len needle) := by
  have sum (cs : List Char) : Tree.sizeSum set capture (cs.map fun c => .set (.literal c)) =
      32 * String.utf8Len cs := by
    induction cs with
    | nil => rfl
    | cons c cs ih =>
      rw [List.map_cons, Tree.sizeSum, Tree.size, each, ih, String.utf8Len_cons]
      omega
  match needle with
  | [] => rfl
  | [c] =>
    have pos := c.utf8Size_pos
    change set (.literal c) = _
    rw [each, String.utf8Len_cons, String.utf8Len_nil]
    omega
  | c :: d :: ds =>
    have pos := c.utf8Size_pos
    change Tree.sizeSum set capture ((c :: d :: ds).map fun c => .set (.literal c)) = _
    rw [sum, String.utf8Len_cons]
    omega

theorem literalTree_fits (needle : List Char) :
    (literalTree needle).programSize ≤ Tree.sizeLimit ↔
      String.utf8Len needle ≤ longestLiteral := by
  rw [Tree.programSize, literalTree_size needle fun _ => rfl, literalTree_size needle fun _ => rfl]
  unfold longestLiteral Tree.sizeLimit Tree.frameSize Tree.captureSize
  omega

/-- The regex of a text is compiled to the program of the text, if the text is not too long. -/
theorem compile?_quoted (needle : List Char) :
    compile? (String.ofList (quoted needle)) "" =
      if String.utf8Len needle ≤ longestLiteral then some (literalProgram needle) else none := by
  have read : readTree? (quoted needle) =
      if String.utf8Len needle ≤ longestLiteral then some (literalTree needle, []) else none := by
    have enough := length_le_quoted needle
    have choices : (choices (3 * (quoted needle).length + 3) []).run { rest := quoted needle } =
        some (literalTree needle, { rest := [] }) := choices_quoted needle _ (by omega)
    have nests := literalTree_nesting needle
    have fits := literalTree_fits needle
    rw [readTree?, choices]
    simp only [Option.bind_eq_bind, Option.bind_some, List.isEmpty_nil, Bool.true_and, nests,
      decide_true, decide_eq_true_eq, fits]
  have bare : withFlags (quoted needle) "".toList = quoted needle := rfl
  rw [compile?, String.toList_ofList, bare, read]
  split <;> rfl

end DocExpr.Regex
