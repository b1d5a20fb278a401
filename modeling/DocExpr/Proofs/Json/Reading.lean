import DocExpr.Proofs.Json.Grammar
import DocExpr.Proofs.Json.Numeral
import DocExpr.Proofs.Value.Structure

/-! The reader of documents takes exactly what the grammar spells: what it takes is a spelling of
the tree that it gives, and it takes every spelling of a tree, as a tree of the same value. -/
namespace DocExpr.Json
open DocExpr.Number (Stops)

theorem skipSpace_blank {ws : List Char} (blank : Blank ws) (cs : List Char) :
    skipSpace (ws ++ cs) = skipSpace cs := List.dropWhile_append_of_pos blank

theorem skipSpace_cons {c : Char} (solid : isSpace c = false) (cs : List Char) :
    skipSpace (c :: cs) = c :: cs := List.dropWhile_cons_of_neg (by simp [solid])

theorem exists_blank (cs : List Char) : ∃ ws, cs = ws ++ skipSpace cs ∧ Blank ws :=
  ⟨cs.takeWhile isSpace, List.takeWhile_append_dropWhile.symm,
    fun c isIn => List.all_eq_true.mp List.all_takeWhile c isIn⟩

theorem Blank.append {xs ys : List Char} (front : Blank xs) (back : Blank ys) :
    Blank (xs ++ ys) :=
  fun c isIn => (List.mem_append.mp isIn).elim (front c) (back c)

theorem stops_blank {ws rest : List Char} (blank : Blank ws) (stops : Stops rest) :
    Stops (ws ++ rest) := by
  cases ws with
  | nil => exact stops
  | cons c ws => exact .cons (partOfNumeral_of_isSpace (blank c List.mem_cons_self)) _

theorem stringRest_content {cs xs : List Char} (content : Content true cs xs)
    (done rest : List Char) :
    stringRest done (cs ++ '"' :: rest) = some (String.ofList (done.reverse ++ xs), rest) := by
  induction content generalizing done with
  | done => rw [List.nil_append, stringRest, List.append_nil]
  | @piece cs more xs x first others ih =>
    have later := ih (x :: done)
    rw [List.reverse_cons, List.append_assoc, List.singleton_append] at later
    rw [← later]
    cases first with
    | plain printable noQuote noEscape =>
      have allowed : ¬ (x.toNat < 0x20 ∨ x = '\\') := not_or.mpr ⟨Nat.not_lt.mpr printable, noEscape⟩
      rw [List.append_assoc, List.singleton_append, stringRest, if_neg allowed]
      all_goals
        intros
        first
          | exact noQuote ‹_›
          | exact noEscape ‹_›
    | @short c x stands =>
      simp only [List.cons_append, List.nil_append]
      rw [stringRest, stands]
      rintro a b c d rest rfl
      cases stands
    | unit number whole =>
      simp only [List.cons_append, List.nil_append]
      rw [stringRest, number]
      exact if_pos whole
    | pair allowed first isHigh second isLow =>
      simp only [List.cons_append, List.nil_append]
      rw [stringRest, first]
      dsimp only
      rw [if_neg (by omega), if_neg (by omega)]
      simp only [second, isLow, and_self, if_true]

/-- What is behind the opening quote of a string. -/
def Closes (done cs : List Char) (s : String) (rest : List Char) : Prop :=
  ∃ text xs, cs = text ++ '"' :: rest ∧ Content true text xs ∧
    s = String.ofList (done.reverse ++ xs)

theorem Closes.piece {done cs more rest : List Char} {x : Char} {s : String}
    (first : Piece true cs x) (closes : Closes (x :: done) more s rest) :
    Closes done (cs ++ more) s rest := by
  obtain ⟨text, xs, rfl, content, rfl⟩ := closes
  refine ⟨cs ++ text, x :: xs, (List.append_assoc ..).symm, .piece first content, ?_⟩
  rw [List.reverse_cons, List.append_assoc, List.singleton_append]

theorem stringRest_closes {done cs rest : List Char} {s : String}
    (h : stringRest done cs = some (s, rest)) : Closes done cs s rest := by
  fun_induction stringRest done cs with
  | case1 => cases h
  | case2 done rest =>
    cases h
    exact ⟨[], [], rfl, .done, by rw [List.append_nil]⟩
  | case4 done a b c d rest n number whole ih => exact .piece (.unit number whole) (ih h)
  | case7 done a b c d n number half high a' b' c' d' rest n' number' low ih =>
    exact .piece (.pair rfl number (by omega) number' low) (ih h)
  | case10 done c rest long x stands ih => exact .piece (.short stands) (ih h)
  | case13 done c rest noQuote _ _ plain ih =>
    obtain ⟨printable, noEscape⟩ := not_or.mp plain
    exact .piece (.plain (Nat.not_lt.mp printable) noQuote noEscape) (ih h)
  | _ => cases h

section
variable {α β : Type} {close : Char} {item : List Char → Option (α × List Char)}
  {spelled : List Char → α → Prop}

/-- What is read is spelled in front, behind white space. -/
def Takes (item : List Char → Option (α × List Char)) (spelled : List Char → α → Prop) : Prop :=
  ∀ {cs x rest}, item cs = some (x, rest) →
    ∃ before text, cs = before ++ (text ++ rest) ∧ Blank before ∧ spelled text x

/-- What is spelled is read, as far as `view` shows. -/
def Accepts (item : List Char → Option (α × List Char)) (spelled : List Char → α → Prop)
    (view : α → β) : Prop :=
  ∀ {before text x} rest, Blank before → spelled text x → Stops rest →
    ∃ x', item (before ++ (text ++ rest)) = some (x', rest) ∧ view x' = view x

/-- The items of a list up to its closing mark; arrays and objects are read alike. -/
def listUntil (close : Char) (item : List Char → Option (α × List Char)) (done : List α) :
    Nat → List Char → Option (List α × List Char)
  | 0, _ => none
  | fuel + 1, cs =>
    match item cs with
    | none => none
    | some (x, cs) =>
      match afterItem close cs with
      | some (true, cs) => some ((x :: done).reverse, cs)
      | some (false, cs) => listUntil close item (x :: done) fuel cs
      | none => none

theorem items_eq (value : List Char → Option (Json × List Char)) (done : List Json) (fuel : Nat)
    (cs : List Char) : items value done fuel cs = listUntil ']' value done fuel cs := by
  induction fuel generalizing done cs with
  | zero => rfl
  | succ fuel ih =>
    simp only [items, listUntil, ih]
    rcases value cs with _ | ⟨x, cs₁⟩
    · rfl
    · rcases afterItem ']' cs₁ with _ | ⟨_ | _, cs₂⟩ <;> rfl

theorem members_eq (value : List Char → Option (Json × List Char)) (done : List (String × Json))
    (fuel : Nat) (cs : List Char) :
    members value done fuel cs = listUntil '\x7d' (member value) done fuel cs := by
  induction fuel generalizing done cs with
  | zero => rfl
  | succ fuel ih =>
    simp only [members, listUntil, ih]
    rcases member value cs with _ | ⟨x, cs₁⟩
    · rfl
    · rcases afterItem '\x7d' cs₁ with _ | ⟨_ | _, cs₂⟩ <;> rfl

theorem afterItem_takes {cs rest : List Char} {ended : Bool}
    (h : afterItem close cs = some (ended, rest)) :
    ∃ after, Blank after ∧ cs = after ++ (if ended then close else ',') :: rest := by
  obtain ⟨after, whole, blank⟩ := exists_blank cs
  refine ⟨after, blank, ?_⟩
  unfold afterItem at h
  split at h
  next c more found =>
    rw [found] at whole
    split at h
    next isClose =>
      cases h
      rw [whole, isClose]
      rfl
    next =>
      split at h
      next isComma =>
        cases h
        rw [whole, isComma]
        rfl
      next => cases h
  next => cases h

theorem listUntil_takes (takes : Takes item spelled) {done : List α} {fuel : Nat}
    {cs rest : List Char} {xs : List α} (h : listUntil close item done fuel cs = some (xs, rest)) :
    ∃ text new, cs = text ++ close :: rest ∧ Listed (Padded spelled) text new ∧
      xs = done.reverse ++ new := by
  induction fuel generalizing done cs with
  | zero => cases h
  | succ fuel ih =>
    rw [listUntil] at h
    split at h
    · cases h
    next x cs₁ read =>
      obtain ⟨before, text, rfl, front, first⟩ := takes read
      split at h
      next cs₂ closed =>
        cases h
        obtain ⟨after, back, rfl⟩ := afterItem_takes closed
        exact ⟨before ++ (text ++ after), [x], by simp, .last (.mk front first back), by simp⟩
      next cs₂ comma =>
        obtain ⟨after, back, rfl⟩ := afterItem_takes comma
        obtain ⟨others, new, rfl, listed, rfl⟩ := ih h
        exact ⟨before ++ (text ++ after) ++ ',' :: others, x :: new, by simp,
          .more (.mk front first back) listed, by simp⟩
      next => cases h

theorem Listed.blank {ws text : List Char} {xs : List α} (blank : Blank ws)
    (listed : Listed (Padded spelled) text xs) : Listed (Padded spelled) (ws ++ text) xs := by
  cases listed with
  | last only =>
    obtain ⟨front, first, back⟩ := only
    rw [← List.append_assoc]
    exact .last (.mk (blank.append front) first back)
  | more only others =>
    obtain ⟨front, first, back⟩ := only
    rw [← List.append_assoc, ← List.append_assoc]
    exact .more (.mk (blank.append front) first back) others

theorem Listed.length {text : List Char} {xs : List α} (listed : Listed spelled text xs) :
    xs.length ≤ text.length + 1 := by
  induction listed with
  | last => exact Nat.le_add_left 1 _
  | more first others ih =>
    simp only [List.length_cons, List.length_append]
    omega

/-- A mark behind an item. -/
theorem stops_mark {mark : Char} (isMark : mark ∈ [',', ']', '\x7d']) (rest : List Char) :
    Stops (mark :: rest) := by
  simp only [List.mem_cons, List.not_mem_nil, or_false] at isMark
  rcases isMark with rfl | rfl | rfl <;> exact .cons rfl rest

theorem afterItem_mark {after : List Char} (blank : Blank after) {mark : Char}
    (solid : isSpace mark = false) (rest : List Char) :
    afterItem close (after ++ mark :: rest) =
      if mark = close then some (true, rest) else if mark = ',' then some (false, rest)
        else none := by
  rw [afterItem, skipSpace_blank blank, skipSpace_cons solid]

theorem listUntil_accepts {view : α → β} (accepts : Accepts item spelled view)
    (closes : close ∈ [']', '\x7d']) {done : List α} {fuel : Nat} {text : List Char} {xs : List α}
    (listed : Listed (Padded spelled) text xs) (rest : List Char) (enough : xs.length ≤ fuel) :
    ∃ new, listUntil close item done fuel (text ++ close :: rest) =
      some (done.reverse ++ new, rest) ∧ new.map view = xs.map view := by
  have isMark : close ∈ [',', ']', '\x7d'] := List.mem_cons_of_mem _ closes
  have solid : isSpace close = false ∧ ',' ≠ close := by
    simp only [List.mem_cons, List.not_mem_nil, or_false] at closes
    rcases closes with rfl | rfl
    · exact ⟨rfl, by decide⟩
    · exact ⟨rfl, by decide⟩
  induction listed generalizing done fuel with
  | last only =>
    obtain ⟨fuel, rfl⟩ : ∃ n, fuel = n + 1 := ⟨fuel - 1, by simp at enough; omega⟩
    obtain ⟨front, first, back⟩ := only
    have stops := stops_blank back (stops_mark isMark rest)
    obtain ⟨x', read, same⟩ := accepts _ front first stops
    refine ⟨[x'], ?_, by simp [same]⟩
    rw [List.append_assoc, List.append_assoc, listUntil, read]
    dsimp only
    rw [afterItem_mark back solid.1, if_pos rfl]
    simp
  | @more cs text x xs only others ih =>
    obtain ⟨fuel, rfl⟩ : ∃ n, fuel = n + 1 := ⟨fuel - 1, by simp at enough; omega⟩
    obtain ⟨front, first, back⟩ := only
    have comma : ',' ∈ [',', ']', '\x7d'] := by decide
    have stops := stops_blank back (stops_mark comma (text ++ close :: rest))
    obtain ⟨x', read, same⟩ := accepts _ front first stops
    obtain ⟨new, later, same'⟩ := @ih (x' :: done) fuel (by simpa using enough)
    refine ⟨x' :: new, ?_, by simp [same, same']⟩
    rw [List.append_assoc, List.append_assoc, List.append_assoc, List.cons_append, listUntil, read]
    dsimp only
    rw [afterItem_mark back rfl, if_neg solid.2, if_pos rfl]
    dsimp only
    rw [later]
    simp

end

/-- How documents are written. -/
def standard : Dialect where
  number cs x := ∃ negative t n,
    cs = Number.signed negative t ∧ unsigned negative t = some (n, []) ∧ n.toFloat = x
  numeral := by
    rintro _ _ ⟨negative, t, n, rfl, read, rfl⟩
    obtain ⟨t', same, numeral, -⟩ := unsigned_reads read
    rw [List.append_nil] at same
    subst same
    exact .mk negative numeral
  pairs := true

theorem skipSpace_takes {cs cs' : List Char} {c : Char} (h : skipSpace cs = c :: cs') :
    ∃ before, cs = before ++ c :: cs' ∧ Blank before := by
  obtain ⟨before, whole, blank⟩ := exists_blank cs
  rw [h] at whole
  exact ⟨before, whole, blank⟩

theorem member_takes {value : List Char → Option (Json × List Char)}
    {part : List Char → Json → Prop} (takes : Takes value part) :
    Takes (member value) (Keyed part true) := by
  intro cs x rest h
  unfold member at h
  split at h
  next cs₁ opened =>
    obtain ⟨before, rfl, front⟩ := skipSpace_takes opened
    split at h
    · cases h
    next key cs₂ quoted =>
      obtain ⟨text, xs, rfl, content, rfl⟩ := stringRest_closes quoted
      split at h
      next cs₃ colon =>
        obtain ⟨gap, rfl, blank⟩ := skipSpace_takes colon
        obtain ⟨⟨j, cs₄⟩, read, same⟩ := Option.map_eq_some_iff.mp h
        cases same
        obtain ⟨before', inner, rfl, front', spelled⟩ := takes read
        rw [List.reverse_nil, List.nil_append]
        have named : Content true text (String.ofList xs).toList := by
          rwa [String.toList_ofList]
        exact ⟨before, _, by simp, front, .mk named blank front' spelled⟩
      next => cases h
  next => cases h

/-- What stands between the marks of a container that is not empty. -/
theorem enclosed_takes {α : Type} {close : Char} {item : List Char → Option (α × List Char)}
    {spelled : List Char → α → Prop} (takes : Takes item spelled) {fuel : Nat}
    {cs rest : List Char} {xs : List α}
    (h : listUntil close item [] fuel (skipSpace cs) = some (xs, rest)) :
    ∃ text, cs = text ++ close :: rest ∧ Listed (Padded spelled) text xs := by
  obtain ⟨gap, whole, blank⟩ := exists_blank cs
  obtain ⟨text, new, inner, listed, rfl⟩ := listUntil_takes takes h
  rw [inner] at whole
  exact ⟨gap ++ text, by rw [whole, List.append_assoc], listed.blank blank⟩

/-- What stands first behind white space decides how a value is read. -/
theorem readValue_succ (depth : Nat) (cs : List Char) :
    readValue (depth + 1) cs =
      match skipSpace cs with
      | 'n' :: 'u' :: 'l' :: 'l' :: cs => some (.null, cs)
      | 't' :: 'r' :: 'u' :: 'e' :: cs => some (.bool true, cs)
      | 'f' :: 'a' :: 'l' :: 's' :: 'e' :: cs => some (.bool false, cs)
      | '"' :: cs => (stringRest [] cs).map fun (s, cs) => (.string s, cs)
      | '-' :: cs => (unsigned true cs).map fun (n, cs) => (.number n, cs)
      | '[' :: cs =>
        if depth = 0 then none
        else match skipSpace cs with
          | ']' :: cs => some (.array [], cs)
          | cs => (items (readValue depth) [] cs.length cs).map fun (vs, cs) => (.array vs, cs)
      | '\x7b' :: cs =>
        if depth = 0 then none
        else match skipSpace cs with
          | '\x7d' :: cs => some (.object [], cs)
          | cs => (members (readValue depth) [] cs.length cs).map fun (ms, cs) => (.object ms, cs)
      | cs => (unsigned false cs).map fun (n, cs) => (.number n, cs) :=
  rfl

/-- One level of reading: a value is no container, or its parts are read on the next level. -/
theorem level_takes {depth : Nat} {part : List Char → Json → Prop}
    (takes : Takes (readValue depth) part) {cs rest : List Char} {j : Json}
    (h : readValue (depth + 1) cs = some (j, rest)) :
    ∃ before text, cs = before ++ (text ++ rest) ∧ Blank before ∧
      (Scalar standard text j ∨ depth ≠ 0 ∧ Spelling standard part text j) := by
  rw [readValue_succ] at h
  split at h
  next found =>
    cases h
    obtain ⟨before, rfl, front⟩ := skipSpace_takes found
    exact ⟨before, _, rfl, front, .inl .null⟩
  next found =>
    cases h
    obtain ⟨before, rfl, front⟩ := skipSpace_takes found
    exact ⟨before, _, rfl, front, .inl .yes⟩
  next found =>
    cases h
    obtain ⟨before, rfl, front⟩ := skipSpace_takes found
    exact ⟨before, _, rfl, front, .inl .no⟩
  next found =>
    obtain ⟨before, rfl, front⟩ := skipSpace_takes found
    obtain ⟨⟨s, cs₁⟩, quoted, same⟩ := Option.map_eq_some_iff.mp h
    cases same
    obtain ⟨text, xs, rfl, content, rfl⟩ := stringRest_closes quoted
    refine ⟨before, _, by simp, front, .inl (@Scalar.string standard text _ ?_)⟩
    rwa [String.toList_ofList]
  next found =>
    obtain ⟨before, rfl, front⟩ := skipSpace_takes found
    obtain ⟨⟨n, cs₁⟩, read, same⟩ := Option.map_eq_some_iff.mp h
    cases same
    obtain ⟨t, rfl, -, again⟩ := unsigned_reads read
    have alone := again [] .nil
    rw [List.append_nil] at alone
    exact ⟨before, '-' :: t, rfl, front, .inl (.number ⟨true, t, n, rfl, alone, rfl⟩)⟩
  next found =>
    obtain ⟨before, rfl, front⟩ := skipSpace_takes found
    split at h
    · cases h
    next deep =>
      split at h
      next closed =>
        cases h
        obtain ⟨gap, rfl, blank⟩ := skipSpace_takes closed
        exact ⟨before, _, by simp, front, .inr ⟨deep, .noItems blank⟩⟩
      next =>
        obtain ⟨⟨js, cs₁⟩, read, same⟩ := Option.map_eq_some_iff.mp h
        cases same
        rw [items_eq] at read
        obtain ⟨text, rfl, listed⟩ := enclosed_takes takes read
        exact ⟨before, _, by simp, front, .inr ⟨deep, .array listed⟩⟩
  next found =>
    obtain ⟨before, rfl, front⟩ := skipSpace_takes found
    split at h
    · cases h
    next deep =>
      split at h
      next closed =>
        cases h
        obtain ⟨gap, rfl, blank⟩ := skipSpace_takes closed
        exact ⟨before, _, by simp, front, .inr ⟨deep, .noMembers blank⟩⟩
      next =>
        obtain ⟨⟨ms, cs₁⟩, read, same⟩ := Option.map_eq_some_iff.mp h
        cases same
        rw [members_eq] at read
        obtain ⟨text, rfl, listed⟩ := enclosed_takes (member_takes takes) read
        exact ⟨before, _, by simp, front, .inr ⟨deep, .object listed⟩⟩
  next =>
    obtain ⟨before, whole, front⟩ := exists_blank cs
    obtain ⟨⟨n, cs₁⟩, read, same⟩ := Option.map_eq_some_iff.mp h
    cases same
    obtain ⟨t, left, -, again⟩ := unsigned_reads read
    have alone := again [] .nil
    rw [List.append_nil] at alone
    rw [left] at whole
    exact ⟨before, t, whole, front, .inl (.number ⟨false, t, n, rfl, alone, rfl⟩)⟩

/-- What is read is spelled by the grammar, and nests no deeper than the reader goes. -/
theorem readValue_takes (depth : Nat) :
    Takes (readValue (depth + 1)) (Spells standard depth) := by
  induction depth with
  | zero =>
    have nothing : Takes (readValue 0) fun _ _ => False := fun h => nomatch h
    intro cs j rest h
    obtain ⟨before, text, rfl, front, scalar | ⟨deep, -⟩⟩ := level_takes nothing h
    · exact ⟨before, text, rfl, front, scalar⟩
    · exact absurd rfl deep
  | succ depth ih =>
    intro cs j rest h
    obtain ⟨before, text, rfl, front, scalar | ⟨-, spelling⟩⟩ := level_takes ih h
    · exact ⟨before, text, rfl, front, scalar.spells _⟩
    · exact ⟨before, text, rfl, front, spelling⟩

/-- A document is spelled by the grammar. -/
theorem spells_of_read? {s : String} {j : Json} (h : read? s = some j) :
    Padded (Spells standard 127) s.toList j := by
  unfold read? at h
  split at h
  next v rest found =>
    split at h
    next ends =>
      cases h
      obtain ⟨before, text, whole, front, spelled⟩ := readValue_takes 127 found
      obtain ⟨after, left, back⟩ := exists_blank rest
      rw [List.isEmpty_iff.mp ends, List.append_nil] at left
      rw [whole, left]
      exact .mk front spelled back
    next => cases h
  next => cases h

/-- Every spelling starts with a character that is no white space and closes nothing. -/
def Solid {α : Type} (spelled : List Char → α → Prop) : Prop :=
  ∀ {text x}, spelled text x →
    ∃ c more, text = c :: more ∧ isSpace c = false ∧ c ∉ [']', '\x7d']

theorem solid_of_isDigit {c : Char} (digit : Number.isDigit c = true) :
    isSpace c = false ∧ c ∉ [']', '\x7d'] := by
  constructor
  · refine Bool.eq_false_iff.mpr fun space => ?_
    have := partOfNumeral_of_isSpace space
    rw [Number.partOfNumeral_of_isDigit digit] at this
    cases this
  · intro isIn
    simp only [List.mem_cons, List.not_mem_nil, or_false] at isIn
    rcases isIn with rfl | rfl <;> cases digit

theorem scalar_solid (dialect : Dialect) : Solid (Scalar dialect) := by
  intro text x scalar
  cases scalar with
  | number spelled =>
    obtain ⟨negative, numeral⟩ := dialect.numeral spelled
    cases negative with
    | true => exact ⟨'-', _, rfl, rfl, by decide⟩
    | false =>
      obtain ⟨c, more, rfl, digit⟩ := numeral.cons
      exact ⟨c, more, rfl, solid_of_isDigit digit⟩
  | _ => exact ⟨_, _, rfl, rfl, by decide⟩

theorem spells_solid (dialect : Dialect) (depth : Nat) : Solid (Spells dialect depth) := by
  intro text x spelled
  cases depth with
  | zero => exact scalar_solid dialect spelled
  | succ depth =>
    cases spelled with
    | scalar scalar => exact scalar_solid dialect scalar
    | _ => exact ⟨_, _, rfl, rfl, by decide⟩

theorem keyed_solid {α : Type} (item : List Char → α → Prop) (pairs : Bool) :
    Solid (Keyed item pairs) := by
  rintro _ _ ⟨named, blank, blank', value⟩
  exact ⟨_, _, rfl, rfl, by decide⟩

section
variable {α β : Type} {close : Char} {item : List Char → Option (α × List Char)}
  {spelled : List Char → α → Prop}

theorem Listed.skip (solid : Solid spelled) {text : List Char} {xs : List α}
    (listed : Listed (Padded spelled) text xs) :
    ∃ gap c more, text = gap ++ c :: more ∧ Blank gap ∧ isSpace c = false ∧
      c ∉ [']', '\x7d'] ∧ Listed (Padded spelled) (c :: more) xs := by
  cases listed with
  | last only =>
    obtain ⟨front, first, back⟩ := only
    obtain ⟨c, more, rfl, noSpace, noClose⟩ := solid first
    exact ⟨_, c, _, rfl, front, noSpace, noClose, .last (.mk .nil first back)⟩
  | more only others =>
    obtain ⟨front, first, back⟩ := only
    obtain ⟨c, more, rfl, noSpace, noClose⟩ := solid first
    refine ⟨_, c, _, ?_, front, noSpace, noClose, .more (.mk .nil first back) others⟩
    simp

theorem enclosed_accepts {view : α → β} (accepts : Accepts item spelled view)
    (solid : Solid spelled) (closes : close ∈ [']', '\x7d']) {text : List Char} {xs : List α}
    (listed : Listed (Padded spelled) text xs) (rest : List Char) :
    ∃ c more new, skipSpace (text ++ close :: rest) = c :: more ∧ c ≠ close ∧
      listUntil close item [] (c :: more).length (c :: more) = some (new, rest) ∧
      new.map view = xs.map view := by
  obtain ⟨gap, c, more, rfl, blank, noSpace, noClose, listed⟩ := listed.skip solid
  have enough : xs.length ≤ (c :: (more ++ close :: rest)).length := by
    have := listed.length
    simp only [List.length_cons, List.length_append] at this ⊢
    omega
  obtain ⟨new, read, same⟩ := @listUntil_accepts _ _ _ _ _ _ accepts closes [] _ _ _ listed rest enough
  refine ⟨c, more ++ close :: rest, new, ?_, ?_, read, same⟩
  · rw [List.append_assoc, skipSpace_blank blank, List.cons_append, skipSpace_cons noSpace]
  · rintro rfl
    exact noClose closes

end

theorem member_accepts {value : List Char → Option (Json × List Char)}
    {part : List Char → Json → Prop} (accepts : Accepts value part Value.ofJson) :
    Accepts (member value) (Keyed part true) Value.ofJsonMember := by
  rintro before _ _ rest front ⟨named, blank, blank', spelled⟩ stops
  obtain ⟨j', read, same⟩ := accepts rest blank' spelled stops
  refine ⟨(_, j'), ?_, Prod.ext rfl same⟩
  have colon : isSpace ':' = false := rfl
  have quote : isSpace '"' = false := rfl
  simp only [member, skipSpace_blank front, skipSpace_blank blank, skipSpace_cons quote,
    skipSpace_cons colon, stringRest_content named, List.cons_append, List.append_assoc, read,
    List.reverse_nil, List.nil_append, String.ofList_toList, Option.map_some]

theorem readValue_skip {depth : Nat} {before : List Char} (blank : Blank before)
    (cs : List Char) : readValue (depth + 1) (before ++ cs) = readValue (depth + 1) cs := by
  rw [readValue_succ, readValue_succ, skipSpace_blank blank]

section
variable (depth : Nat) (cs : List Char)

theorem readValue_quote : readValue (depth + 1) ('"' :: cs) =
    (stringRest [] cs).map fun (s, cs) => (.string s, cs) := rfl

theorem readValue_minus : readValue (depth + 1) ('-' :: cs) =
    (unsigned true cs).map fun (n, cs) => (.number n, cs) := rfl

theorem readValue_square : readValue (depth + 2) ('[' :: cs) =
    match skipSpace cs with
    | ']' :: cs => some (.array [], cs)
    | cs => (items (readValue (depth + 1)) [] cs.length cs).map fun (vs, cs) => (.array vs, cs) :=
  rfl

theorem readValue_brace : readValue (depth + 2) ('\x7b' :: cs) =
    match skipSpace cs with
    | '\x7d' :: cs => some (.object [], cs)
    | cs => (members (readValue (depth + 1)) [] cs.length cs).map fun (ms, cs) => (.object ms, cs) :=
  rfl

end

theorem readValue_digit {depth : Nat} {c : Char} (digit : Number.isDigit c = true)
    (more : List Char) : readValue (depth + 1) (c :: more) =
      (unsigned false (c :: more)).map fun (n, cs) => (.number n, cs) := by
  rw [readValue_succ, skipSpace_cons (solid_of_isDigit digit).1]
  split
  case h_8 => rfl
  all_goals
    rename_i same
    cases same
    cases digit

theorem scalar_accepts (depth : Nat) :
    Accepts (readValue (depth + 1)) (Scalar standard) Value.ofJson := by
  intro before text j rest front scalar stops
  rw [readValue_skip front]
  cases scalar with
  | null | yes | no => exact ⟨_, rfl, rfl⟩
  | string content =>
    refine ⟨_, ?_, rfl⟩
    simp only [List.cons_append, readValue_quote, List.append_assoc, List.nil_append,
      stringRest_content content, List.reverse_nil, String.ofList_toList, Option.map_some]
  | number spelled =>
    obtain ⟨negative, t, n, rfl, read, same⟩ := spelled
    obtain ⟨t', left, numeral, again⟩ := unsigned_reads read
    rw [List.append_nil] at left
    subst left
    refine ⟨.number n, ?_, congrArg Value.number same⟩
    cases negative with
    | true =>
      simp only [Number.signed, if_true, List.cons_append, readValue_minus, again rest stops,
        Option.map_some]
    | false =>
      have found := again rest stops
      obtain ⟨c, more, rfl, digit⟩ := numeral.cons
      have opened := @readValue_digit depth c digit (more ++ rest)
      rw [List.cons_append] at found
      rw [found] at opened
      exact opened

section
variable {depth : Nat} {cs more rest : List Char} {c : Char} (opened : skipSpace cs = c :: more)
include opened

theorem readValue_array (other : c ≠ ']') {js : List Json}
    (read : items (readValue (depth + 1)) [] (c :: more).length (c :: more) = some (js, rest)) :
    readValue (depth + 2) ('[' :: cs) = some (.array js, rest) := by
  rw [readValue_square, opened]
  split
  next same =>
    cases same
    exact absurd rfl other
  next =>
    rw [read]
    rfl

theorem readValue_object (other : c ≠ '\x7d') {ms : List (String × Json)}
    (read : members (readValue (depth + 1)) [] (c :: more).length (c :: more) = some (ms, rest)) :
    readValue (depth + 2) ('\x7b' :: cs) = some (.object ms, rest) := by
  rw [readValue_brace, opened]
  split
  next same =>
    cases same
    exact absurd rfl other
  next =>
    rw [read]
    rfl

end

theorem spelling_accepts {depth : Nat} {part : List Char → Json → Prop} (solid : Solid part)
    (accepts : Accepts (readValue (depth + 1)) part Value.ofJson) :
    Accepts (readValue (depth + 2)) (Spelling standard part) Value.ofJson := by
  intro before text j rest front spelling stops
  rw [readValue_skip front]
  cases spelling with
  | scalar scalar => exact scalar_accepts _ rest .nil scalar stops
  | noItems blank =>
    have close : isSpace ']' = false := rfl
    refine ⟨.array [], ?_, rfl⟩
    simp [readValue_square, skipSpace_blank blank, skipSpace_cons close]
  | noMembers blank =>
    have close : isSpace '\x7d' = false := rfl
    refine ⟨.object [], ?_, rfl⟩
    simp [readValue_brace, skipSpace_blank blank, skipSpace_cons close]
  | array listed =>
    have closes : ']' ∈ [']', '\x7d'] := by decide
    obtain ⟨c, more, new, opened, other, read, same⟩ :=
      enclosed_accepts accepts solid closes listed rest
    rw [← items_eq] at read
    rw [List.cons_append, List.append_assoc, List.singleton_append]
    refine ⟨.array new, readValue_array opened other read, ?_⟩
    rw [Value.ofJson, Value.ofJson, Value.ofJsonItems_eq_map, Value.ofJsonItems_eq_map, same]
  | object listed =>
    have closes : '\x7d' ∈ [']', '\x7d'] := by decide
    obtain ⟨c, more, new, opened, other, read, same⟩ :=
      enclosed_accepts (member_accepts accepts) (keyed_solid part true) closes listed rest
    rw [← members_eq] at read
    rw [List.cons_append, List.append_assoc, List.singleton_append]
    refine ⟨.object new, readValue_object opened other read, ?_⟩
    rw [Value.ofJson, Value.ofJson, Value.ofJsonMembers_eq_map, Value.ofJsonMembers_eq_map, same]

/-- What the grammar spells is read, as far as the value of the tree shows. -/
theorem readValue_accepts (depth : Nat) :
    Accepts (readValue (depth + 1)) (Spells standard depth) Value.ofJson := by
  induction depth with
  | zero => exact scalar_accepts 0
  | succ depth ih => exact spelling_accepts (spells_solid standard depth) ih

theorem readJson?_of_spells {text : List Char} {j : Json}
    (spelled : Padded (Spells standard 127) text j) :
    Value.readJson? (String.ofList text) = some (Value.ofJson j) := by
  obtain ⟨front, inner, back⟩ := spelled
  obtain ⟨j', found, same⟩ := readValue_accepts 127 _ front inner (stops_blank back .nil)
  rw [List.append_nil] at found
  have ends := skipSpace_blank back []
  rw [List.append_nil] at ends
  rw [Value.readJson?, read?, String.toList_ofList, depthLimit, found]
  dsimp only
  rw [ends, ← same]
  rfl

theorem eq_nil_of_blank {cs : List Char} (blank : Blank cs)
    (part : ∀ c ∈ cs, Number.partOfNumeral c = true) : cs = [] := by
  cases cs with
  | nil => rfl
  | cons c cs =>
    have := partOfNumeral_of_isSpace (blank c List.mem_cons_self)
    rw [part c List.mem_cons_self] at this
    cases this

/-- A text that is one numeral is read as its number. -/
theorem number_of_readJson? {s : String} {x : Float} (numeral : Number.SignedNumeral s.toList)
    (h : Value.readJson? s = some (.number x)) : standard.number s.toList x := by
  obtain ⟨j, read, same⟩ := Option.map_eq_some_iff.mp h
  have spelled := spells_of_read? read
  have part := numeral.part
  generalize s.toList = cs at spelled part
  obtain ⟨front, inner, back⟩ := spelled
  obtain ⟨before, rest⟩ := List.forall_mem_append.mp part
  obtain ⟨-, after⟩ := List.forall_mem_append.mp rest
  cases eq_nil_of_blank front before
  cases eq_nil_of_blank back after
  rw [List.nil_append, List.append_nil]
  cases j with
  | number n =>
    cases same
    cases inner with
    | scalar scalar =>
      cases scalar with
      | number spelled => exact spelled
  | _ => cases same

end DocExpr.Json
