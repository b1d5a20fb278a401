import DocExpr.Calendar.Writing
import Mathlib.Data.List.Basic

/-! Date patterns against the items that they are read as. A pattern is spelled out in specifiers,
and these are read again as items. Each run of a letter that names a field comes back as the one
item of the field, whatever stands behind it, and all other text comes back as text. -/
namespace DocExpr.Calendar

/-- The letters that name a field. -/
def fieldLetters : List Char := "yYMdDHhmsSaEZXz".toList

/-- A number field, whose leading zeros are left out for a single letter. -/
def numberItem (field : NumberField) (count : Nat) : Item :=
  if count = 1 then .number field false else .number field true

/-- The item for a run of a letter. -/
def fieldItem? (letter : Char) (count : Nat) : Option Item :=
  match letter with
  | 'y' => some (if count = 2 then .number .yearOfCentury true else .number .year true)
  | 'Y' => some (.number .year true)
  | 'M' =>
    some (if count = 1 then .number .month false else if count = 2 then .number .month true
      else if count = 3 then .monthName false else .monthName true)
  | 'd' => some (numberItem .day count)
  | 'D' => some (numberItem .dayOfYear count)
  | 'H' => some (numberItem .hour count)
  | 'h' => some (numberItem .hourOfHalf count)
  | 'm' => some (numberItem .minute count)
  | 's' => some (numberItem .second count)
  | 'S' => some (if count ≤ 3 then .fraction 3 else if count ≤ 6 then .fraction 6 else .fraction 9)
  | 'a' => some .half
  | 'E' => some (if count ≤ 3 then .weekdayName false else .weekdayName true)
  | 'Z' | 'X' => some (if count = 1 then .offset false else .offset true)
  | 'z' => some .zoneName
  | _ => none

/-- A piece of a pattern: the run of a letter that names a field, or a character of text. -/
inductive Piece where
  | field (letter : Char) (count : Nat)
  | text (c : Char)

/-- The pieces that a pattern consists of, from a place inside quotes or outside. A quote written
twice stands for one, and any other quote opens or closes quoted text. -/
inductive Pieces : Bool → List Char → List Piece → Prop where
  | nil {inside : Bool} : Pieces inside [] []
  | doubled {inside : Bool} {cs : List Char} {ps : List Piece} (later : Pieces inside cs ps) :
      Pieces inside ('\'' :: '\'' :: cs) (.text '\'' :: ps)
  | quote {inside : Bool} {cs : List Char} {ps : List Piece} (single : cs.head? ≠ some '\'')
      (later : Pieces (!inside) cs ps) : Pieces inside ('\'' :: cs) ps
  | quoted {c : Char} {cs : List Char} {ps : List Piece} (other : c ≠ '\'')
      (later : Pieces true cs ps) : Pieces true (c :: cs) (.text c :: ps)
  | plain {c : Char} {cs : List Char} {ps : List Piece} (other : c ≠ '\'')
      (noField : c ∉ fieldLetters) (later : Pieces false cs ps) :
      Pieces false (c :: cs) (.text c :: ps)
  | field {c : Char} {cs : List Char} {ps : List Piece} (letter : c ∈ fieldLetters)
      (later : Pieces false (cs.dropWhile (· == c)) ps) :
      Pieces false (c :: cs) (.field c ((cs.takeWhile (· == c)).length + 1) :: ps)

/-- The items are those of the pieces: one for each field, and between the fields items of text that
have the characters of the text in their order. -/
inductive Reads : List Item → List Piece → Prop where
  | nil : Reads [] []
  | field {letter : Char} {count : Nat} {item : Item} {items : List Item} {ps : List Piece}
      (isItem : fieldItem? letter count = some item) (later : Reads items ps) :
      Reads (item :: items) (.field letter count :: ps)
  | text {cs : List Char} {item : Item} {items : List Item} {ps : List Piece} (some : cs ≠ [])
      (isText : item = .literal cs ∨ item = .space cs) (later : Reads items ps) :
      Reads (item :: items) (cs.map .text ++ ps)

/-- What a piece is written as. -/
def Piece.written (t : Instant) (offset : Int) : Piece → List Char
  | .field letter count => (fieldItem? letter count).elim [] (itemText t offset)
  | .text c => [c]

/-- The specifiers for a piece. -/
def Piece.specifiers : Piece → List Char
  | .field letter count => (specifier? letter count).elim [] String.toList
  | .text c => escapePercent c

theorem specifier?_eq_none {c : Char} (noField : c ∉ fieldLetters) (count : Nat) :
    specifier? c count = none := by
  unfold specifier?
  split <;> first | rfl | exact absurd (by decide) noField

theorem letter_ne_quote {c : Char} (letter : c ∈ fieldLetters) : c ≠ '\'' :=
  fun quote => absurd (quote ▸ letter) (by decide)

/-- The specifier of a field is read as its item, and what stands behind it is left. -/
theorem first_specifier {c : Char} (letter : c ∈ fieldLetters) (count : Nat) :
    ∃ s item, specifier? c count = some s ∧ fieldItem? c count = some item ∧
      s.toList.head? = some '%' ∧ ∀ rest, Item.first (s.toList ++ rest) = (item, rest) := by
  have letters : fieldLetters =
      ['y', 'Y', 'M', 'd', 'D', 'H', 'h', 'm', 's', 'S', 'a', 'E', 'Z', 'X', 'z'] := by decide
  rw [letters] at letter
  simp only [List.mem_cons, List.not_mem_nil, or_false] at letter
  rcases letter with rfl | rfl | rfl | rfl | rfl | rfl | rfl | rfl | rfl | rfl | rfl | rfl | rfl |
    rfl | rfl
  all_goals
    refine ⟨_, _, rfl, rfl, ?_, fun rest => ?_⟩
    all_goals
      try unfold numberItem
      try split_ifs
      all_goals rfl

section
variable {inside : Bool} {c : Char} {cs : List Char}

theorem marks_other (other : c ≠ '\'') :
    marks inside (c :: cs) = (if inside then .quoted c else .plain c) :: marks inside cs := by
  rw [marks.eq_def]
  split
  next same => exact absurd (List.cons.inj same).1 other
  next same => exact absurd (List.cons.inj same).1 other
  next same => cases same; rfl
  next same => cases same

theorem marks_quote (single : cs.head? ≠ some '\'') :
    marks inside ('\'' :: cs) = marks (!inside) cs := by
  rw [marks.eq_def]
  split
  next same => cases same; exact absurd rfl single
  next same => cases same; rfl
  next differs same => cases same; exact (differs rfl).elim
  next same => cases same

theorem marks_replicate (other : c ≠ '\'') (k : Nat) :
    marks false (List.replicate k c ++ cs) = List.replicate k (.plain c) ++ marks false cs := by
  induction k with
  | zero => rfl
  | succ k ih =>
    rw [List.replicate_succ, List.cons_append, marks_other other, ih]
    rfl

/-- Behind a run stands no character of the run, not even where a quote is in between. -/
theorem head?_marks (other : cs.head? ≠ some c) : (marks false cs).head? ≠ some (.plain c) := by
  cases cs with
  | nil => exact nofun
  | cons d cs =>
    by_cases quote : d = '\''
    · subst quote
      cases cs with
      | nil => exact nofun
      | cons e cs =>
        by_cases doubled : e = '\''
        · subst doubled
          exact nofun
        · have single : (e :: cs).head? ≠ some '\'' := fun same => doubled (Option.some.inj same)
          rw [marks_quote single, Bool.not_false, marks_other doubled]
          exact nofun
    · rw [marks_other quote]
      intro same
      exact other (congrArg some (Mark.plain.inj (Option.some.inj same)))

end

section
variable {c : Char} {ms : List Mark}

theorem partsOfMarks_head {d : Char} {count : Nat} {ps : List Part}
    (parts : partsOfMarks ms = .run d count :: ps) : ms.head? = some (.plain d) := by
  cases ms with
  | nil => cases parts
  | cons m ms =>
    cases m with
    | quoted => cases parts
    | plain c =>
      rw [partsOfMarks] at parts
      split at parts
      · split at parts
        next same =>
          cases parts
          rw [same]
          rfl
        · cases parts; rfl
      · cases parts; rfl

theorem partsOfMarks_single (other : ms.head? ≠ some (.plain c)) :
    partsOfMarks (.plain c :: ms) = .run c 1 :: partsOfMarks ms := by
  rw [partsOfMarks]
  split
  next d count ps parts =>
    have head := partsOfMarks_head parts
    have differs : c ≠ d := fun same => other (same ▸ head)
    rw [if_neg differs, parts]
  next => rfl

theorem partsOfMarks_replicate (other : ms.head? ≠ some (.plain c)) (k : Nat) :
    partsOfMarks (List.replicate (k + 1) (.plain c) ++ ms) = .run c (k + 1) :: partsOfMarks ms := by
  induction k with
  | zero => exact partsOfMarks_single other
  | succ k ih =>
    rw [List.replicate_succ, List.cons_append, partsOfMarks, ih]
    dsimp only
    rw [if_pos rfl]

/-- A character that names no field is spelled out by itself, alone or in a run. -/
theorem specifiers_plain (noField : c ∉ fieldLetters) (ms : List Mark) :
    (partsOfMarks (.plain c :: ms)).flatMap Part.specifiers =
      escapePercent c ++ (partsOfMarks ms).flatMap Part.specifiers := by
  have run (count : Nat) :
      (Part.run c count).specifiers = (List.replicate count c).flatMap escapePercent := by
    rw [Part.specifiers, specifier?_eq_none noField]
  have one : (Part.run c 1).specifiers = escapePercent c :=
    (run 1).trans (List.flatMap_singleton _ _)
  rw [partsOfMarks]
  split
  next d count ps parts =>
    rw [parts]
    split
    next same =>
      subst same
      rw [List.flatMap_cons, List.flatMap_cons, run, run, List.replicate_succ, List.flatMap_cons,
        List.append_assoc]
    next => rw [List.flatMap_cons, one]
  next => rw [List.flatMap_cons, one]

end

/-- The specifiers for a pattern are those of its pieces. -/
theorem Pieces.specifiers {inside : Bool} {cs : List Char} {ps : List Piece}
    (pieces : Pieces inside cs ps) :
    (partsOfMarks (marks inside cs)).flatMap Part.specifiers = ps.flatMap Piece.specifiers := by
  induction pieces with
  | nil => rfl
  | doubled later ih => exact congrArg (escapePercent '\'' ++ ·) ih
  | quote single later ih => rw [marks_quote single, ih]
  | quoted other later ih =>
    rw [marks_other other]
    exact congrArg (escapePercent _ ++ ·) ih
  | plain other noField later ih =>
    rw [marks_other other]
    exact (specifiers_plain noField _).trans (congrArg (escapePercent _ ++ ·) ih)
  | @field c cs ps letter later ih =>
    have ordinary := letter_ne_quote letter
    have run : c :: cs = List.replicate ((cs.takeWhile (· == c)).length + 1) c ++
        cs.dropWhile (· == c) := by
      have same : cs.takeWhile (· == c) = List.replicate (cs.takeWhile (· == c)).length c :=
        List.eq_replicate_of_mem fun d isIn =>
          eq_of_beq (List.all_eq_true.mp List.all_takeWhile d isIn)
      rw [List.replicate_succ, List.cons_append, ← same, List.takeWhile_append_dropWhile]
    have behind : (cs.dropWhile (· == c)).head? ≠ some c := fun same => by
      have fails := List.head?_dropWhile_not (· == c) cs
      rw [same] at fails
      exact absurd fails (by simp)
    obtain ⟨s, -, isSpecifier, -⟩ := first_specifier letter ((cs.takeWhile (· == c)).length + 1)
    rw [run, marks_replicate ordinary, partsOfMarks_replicate (head?_marks behind),
      List.flatMap_cons, List.flatMap_cons, ih, Part.specifiers, Piece.specifiers, isSpecifier]
    rfl

/-- A piece that a pattern can have: a field has a letter of one. -/
def Piece.IsKnown : Piece → Prop
  | .field letter _ => letter ∈ fieldLetters
  | .text _ => True

theorem Pieces.known {inside : Bool} {cs : List Char} {ps : List Piece}
    (pieces : Pieces inside cs ps) : ∀ p ∈ ps, p.IsKnown := by
  induction pieces with
  | nil => exact nofun
  | doubled _ ih | quoted _ _ ih | plain _ _ _ ih => exact List.forall_mem_cons.mpr ⟨trivial, ih⟩
  | quote _ _ ih => exact ih
  | field letter _ ih => exact List.forall_mem_cons.mpr ⟨letter, ih⟩

/-- The specifiers of a piece start with a percent sign, unless they are another character. -/
theorem Piece.specifiers_cases {p : Piece} (known : p.IsKnown) :
    (∃ more, p.specifiers = '%' :: more) ∨ ∃ c, c ≠ '%' ∧ p = .text c ∧ p.specifiers = [c] := by
  cases p with
  | field letter count =>
    obtain ⟨s, -, isSpecifier, -, starts, -⟩ := first_specifier known count
    obtain ⟨more, spelled⟩ := List.head?_eq_some_iff.mp starts
    refine .inl ⟨more, ?_⟩
    rw [Piece.specifiers, isSpecifier]
    exact spelled
  | text c =>
    by_cases percent : c = '%'
    · exact .inl ⟨['%'], if_pos percent⟩
    · exact .inr ⟨c, percent, rfl, if_neg percent⟩

/-- A span that ends in front of a percent sign takes whole pieces of text. -/
theorem span_specifiers {test : Char → Bool} (stops : test '%' = false) {ps : List Piece}
    (known : ∀ p ∈ ps, p.IsKnown) : ∃ cs rest, ps = cs.map .text ++ rest ∧
      (ps.flatMap Piece.specifiers).takeWhile test = cs ∧
      (ps.flatMap Piece.specifiers).dropWhile test = rest.flatMap Piece.specifiers := by
  induction ps with
  | nil => exact ⟨[], [], rfl, rfl, rfl⟩
  | cons p ps ih =>
    obtain ⟨first, later⟩ := List.forall_mem_cons.mp known
    rw [List.flatMap_cons]
    rcases Piece.specifiers_cases first with ⟨more, starts⟩ | ⟨c, other, rfl, single⟩
    · refine ⟨[], p :: ps, rfl, ?_, ?_⟩
      · rw [starts, List.cons_append, List.takeWhile_cons_of_neg (by simp [stops])]
      · rw [List.flatMap_cons, starts, List.cons_append,
          List.dropWhile_cons_of_neg (by simp [stops])]
    · rw [single, List.singleton_append]
      cases passes : test c with
      | true =>
        obtain ⟨cs, rest, split, taken, dropped⟩ := ih later
        refine ⟨c :: cs, rest, by rw [split]; rfl, ?_, ?_⟩
        · rw [List.takeWhile_cons_of_pos passes, taken]
        · rw [List.dropWhile_cons_of_pos passes, dropped]
      | false =>
        refine ⟨[], .text c :: ps, rfl, ?_, ?_⟩
        · rw [List.takeWhile_cons_of_neg (by simp [passes])]
        · rw [List.dropWhile_cons_of_neg (by simp [passes]), List.flatMap_cons, single,
            List.singleton_append]

/-- The span of characters that a text in front of the rest takes. -/
def spanTest (c : Char) : Char → Bool :=
  if Text.isBlank c then Text.isBlank else fun d => d != '%' && !Text.isBlank d

theorem first_text {c : Char} (other : c ≠ '%') (cs : List Char) :
    ∃ item, Item.first (c :: cs) = (item, cs.dropWhile (spanTest c)) ∧
      (item = .literal (c :: cs.takeWhile (spanTest c)) ∨
        item = .space (c :: cs.takeWhile (spanTest c))) := by
  have first : Item.first (c :: cs) =
      if Text.isBlank c then (.space (c :: cs.takeWhile Text.isBlank), cs.dropWhile Text.isBlank)
      else
        let plain (d : Char) : Bool := d != '%' && !Text.isBlank d
        (.literal (c :: cs.takeWhile plain), cs.dropWhile plain) := by
    unfold Item.first
    split
    case h_10 same => cases same; rfl
    case h_11 same => cases same
    all_goals
      next same => exact absurd (List.cons.inj same).1 other
  rw [first, spanTest]
  split
  · exact ⟨_, rfl, .inr rfl⟩
  · exact ⟨_, rfl, .inl rfl⟩

/-- The first item takes a field or some text from the front of the pieces. -/
theorem first_pieces {p : Piece} {ps : List Piece} (known : ∀ q ∈ p :: ps, q.IsKnown) :
    ∃ item rest, Item.first ((p :: ps).flatMap Piece.specifiers) =
        (item, rest.flatMap Piece.specifiers) ∧
      rest <:+ ps ∧ ∀ items, Reads items rest → Reads (item :: items) (p :: ps) := by
  obtain ⟨first, later⟩ := List.forall_mem_cons.mp known
  rw [List.flatMap_cons]
  cases p with
  | field letter count =>
    obtain ⟨s, item, isSpecifier, isItem, -, reads⟩ := first_specifier first count
    refine ⟨item, ps, ?_, List.suffix_rfl, fun items later => .field isItem later⟩
    rw [Piece.specifiers, isSpecifier]
    exact reads _
  | text c =>
    by_cases percent : c = '%'
    · subst percent
      refine ⟨.literal ['%'], ps, rfl, List.suffix_rfl, fun items later => ?_⟩
      exact .text (List.cons_ne_nil _ _) (.inl rfl) later
    · have stops : spanTest c '%' = false := by
        unfold spanTest
        split <;> rfl
      obtain ⟨cs, rest, split, taken, dropped⟩ := span_specifiers stops later
      obtain ⟨item, reads, isText⟩ := first_text percent (ps.flatMap Piece.specifiers)
      have single : (Piece.text c).specifiers = [c] := if_neg percent
      rw [taken] at isText
      refine ⟨item, rest, ?_, ⟨cs.map .text, split.symm⟩, fun items later => ?_⟩
      · rw [single, List.singleton_append, reads, dropped]
      · rw [split]
        exact .text (List.cons_ne_nil c cs) isText later

theorem Piece.specifiers_length {p : Piece} (known : p.IsKnown) : 0 < p.specifiers.length := by
  rcases specifiers_cases known with ⟨more, starts⟩ | ⟨c, -, -, single⟩
  · rw [starts]
    exact Nat.zero_lt_succ _
  · rw [single]
    exact Nat.zero_lt_one

theorem itemsLoop_reads {fuel : Nat} {ps : List Piece} (known : ∀ p ∈ ps, p.IsKnown)
    (enough : (ps.flatMap Piece.specifiers).length ≤ fuel) :
    Reads (itemsLoop fuel (ps.flatMap Piece.specifiers)) ps := by
  induction fuel generalizing ps with
  | zero =>
    cases ps with
    | nil => exact .nil
    | cons p ps =>
      have some := Piece.specifiers_length (known p List.mem_cons_self)
      rw [List.flatMap_cons, List.length_append] at enough
      omega
  | succ fuel ih =>
    cases ps with
    | nil => exact .nil
    | cons p ps =>
      have some := Piece.specifiers_length (known p List.mem_cons_self)
      obtain ⟨item, rest, first, ⟨front, split⟩, reads⟩ := first_pieces known
      have later := (List.forall_mem_cons.mp known).2
      rw [← split] at enough later
      simp only [List.flatMap_cons, List.flatMap_append, List.length_append] at enough
      have step : itemsLoop (fuel + 1) ((p :: ps).flatMap Piece.specifiers) =
          item :: itemsLoop fuel (rest.flatMap Piece.specifiers) := by
        obtain ⟨c, more, spelled⟩ := List.exists_cons_of_length_pos some
        rw [List.flatMap_cons, spelled, List.cons_append] at first ⊢
        rw [itemsLoop]
        dsimp only
        rw [first]
      rw [step]
      exact reads _ (ih (List.forall_mem_append.mp later).2 (by omega))

/-- The items of a pattern are those of its pieces. -/
theorem Pieces.reads {pattern : String} {ps : List Piece}
    (pieces : Pieces false pattern.toList ps) : Reads (itemsOfPattern pattern) ps := by
  rw [itemsOfPattern, itemsOf, specifiersOf, partsOf, pieces.specifiers]
  exact itemsLoop_reads pieces.known (Nat.le_refl _)

theorem Pieces.exists (inside : Bool) (cs : List Char) : ∃ ps, Pieces inside cs ps := by
  induction size : cs.length using Nat.strongRecOn generalizing inside cs with
  | _ n ih =>
  cases cs with
  | nil => exact ⟨[], .nil⟩
  | cons c cs =>
    rw [List.length_cons] at size
    by_cases isQuote : c = '\''
    · subst isQuote
      by_cases single : cs.head? = some '\''
      · obtain ⟨rest, rfl⟩ := List.head?_eq_some_iff.mp single
        rw [List.length_cons] at size
        obtain ⟨ps, later⟩ := ih rest.length (by omega) inside rest rfl
        exact ⟨_, .doubled later⟩
      · obtain ⟨ps, later⟩ := ih cs.length (by omega) (!inside) cs rfl
        exact ⟨_, .quote single later⟩
    cases inside with
    | true =>
      obtain ⟨ps, later⟩ := ih cs.length (by omega) true cs rfl
      exact ⟨_, .quoted isQuote later⟩
    | false =>
      by_cases letter : c ∈ fieldLetters
      · have shorter := (List.dropWhile_suffix (l := cs) (· == c)).length_le
        obtain ⟨ps, later⟩ := ih _ (by omega) false (cs.dropWhile (· == c)) rfl
        exact ⟨_, .field letter later⟩
      · obtain ⟨ps, later⟩ := ih cs.length (by omega) false cs rfl
        exact ⟨_, .plain isQuote letter later⟩

/-- A pattern is taken apart in one way only. -/
theorem Pieces.unique {inside : Bool} {cs : List Char} {ps qs : List Piece}
    (pieces : Pieces inside cs ps) (pieces' : Pieces inside cs qs) : ps = qs := by
  induction pieces generalizing qs with
  | nil =>
    cases pieces'
    rfl
  | doubled later ih =>
    cases pieces' with
    | doubled later' => rw [ih later']
    | quote single => exact absurd rfl single
    | quoted other | plain other => exact absurd rfl other
    | field letter => exact absurd rfl (letter_ne_quote letter)
  | quote single later ih =>
    cases pieces' with
    | doubled => exact absurd rfl single
    | quote _ later' => exact ih later'
    | quoted other | plain other => exact absurd rfl other
    | field letter => exact absurd rfl (letter_ne_quote letter)
  | quoted other later ih =>
    cases pieces' with
    | doubled | quote => exact absurd rfl other
    | quoted _ later' => rw [ih later']
  | plain other noField later ih =>
    cases pieces' with
    | doubled | quote => exact absurd rfl other
    | plain _ _ later' => rw [ih later']
    | field letter => exact absurd letter noField
  | field letter later ih =>
    cases pieces' with
    | doubled | quote => exact absurd rfl (letter_ne_quote letter)
    | plain _ noField => exact absurd letter noField
    | field _ later' => rw [ih later']

theorem fieldItem?_valid (letter : Char) (count : Nat) :
    fieldItem? letter count ≠ some .invalid := by
  unfold fieldItem? numberItem
  split <;> try split_ifs
  all_goals exact nofun

theorem written_texts (t : Instant) (offset : Int) (cs : List Char) :
    (cs.map Piece.text).flatMap (Piece.written t offset) = cs := by
  rw [List.flatMap_map]
  exact List.flatMap_singleton' cs

section
variable {items : List Item} {ps : List Piece} (reads : Reads items ps)
include reads

theorem Reads.valid : .invalid ∉ items := by
  induction reads with
  | nil => exact List.not_mem_nil
  | field isItem _ ih =>
    refine fun isIn => (List.mem_cons.mp isIn).elim (fun same => ?_) ih
    exact fieldItem?_valid _ _ (same ▸ isItem)
  | text _ isText _ ih =>
    refine fun isIn => (List.mem_cons.mp isIn).elim (fun same => ?_) ih
    rcases isText with rfl | rfl <;> cases same

theorem Reads.written (t : Instant) (offset : Int) :
    items.flatMap (itemText t offset) = ps.flatMap (Piece.written t offset) := by
  induction reads with
  | nil => rfl
  | field isItem _ ih =>
    rw [List.flatMap_cons, List.flatMap_cons, ih, Piece.written, isItem]
    rfl
  | @text cs item items ps _ isText _ ih =>
    rw [List.flatMap_cons, List.flatMap_append, written_texts, ih]
    rcases isText with rfl | rfl <;> rfl

end

/-- Under a pattern a date is written piece by piece. -/
theorem Pieces.formatWith {pattern : String} {ps : List Piece}
    (pieces : Pieces false pattern.toList ps) (d : Date) (offset : Int) :
    d.formatWith pattern offset =
      .ok (String.ofList (ps.flatMap (Piece.written (d.instant.ahead offset) offset))) := by
  have reads := pieces.reads
  have valid : ¬ (itemsOfPattern pattern).contains .invalid = true :=
    fun isIn => reads.valid (List.contains_iff_mem.mp isIn)
  unfold Date.formatWith
  dsimp only
  rw [if_neg valid, reads.written]

theorem Pieces.formatWith_text {pattern : String} {cs : List Char}
    (pieces : Pieces false pattern.toList (cs.map .text)) (d : Date) (offset : Int) :
    d.formatWith pattern offset = .ok (String.ofList cs) := by
  rw [pieces.formatWith, written_texts]

/-- Text without quotes and letters of fields is text. -/
theorem pieces_plain {cs : List Char} (plain : ∀ c ∈ cs, c ≠ '\'' ∧ c ∉ fieldLetters) :
    Pieces false cs (cs.map .text) := by
  induction cs with
  | nil => exact .nil
  | cons c cs ih =>
    obtain ⟨⟨other, noField⟩, later⟩ := List.forall_mem_cons.mp plain
    exact .plain other noField (ih later)

/-- The characters that stand for one inside quotes. -/
def quotedChar (c : Char) : List Char := if c = '\'' then ['\'', '\''] else [c]

/-- A text inside quotes. -/
def quotedText (cs : List Char) : List Char := '\'' :: (cs.flatMap quotedChar ++ ['\''])

theorem pieces_inside (cs : List Char) :
    Pieces true (cs.flatMap quotedChar ++ ['\'']) (cs.map .text) := by
  induction cs with
  | nil => exact .quote nofun .nil
  | cons c cs ih =>
    rw [List.flatMap_cons, List.append_assoc, quotedChar]
    split
    next isQuote =>
      subst isQuote
      exact .doubled ih
    next other => exact .quoted other ih

/-- Quoted text is text. Quotes in front of it are doubled before the first quote opens. -/
theorem pieces_quoted {cs : List Char} (some : ∃ c ∈ cs, c ≠ '\'') :
    Pieces false (quotedText cs) (cs.map .text) := by
  induction cs with
  | nil => simp at some
  | cons c cs ih =>
    have inside := pieces_inside (c :: cs)
    rw [List.flatMap_cons, List.append_assoc, quotedChar] at inside
    rw [quotedText, List.flatMap_cons, List.append_assoc, quotedChar]
    by_cases isQuote : c = '\''
    · subst isQuote
      refine .doubled (ih ?_)
      obtain ⟨d, isIn, other⟩ := some
      rcases List.mem_cons.mp isIn with rfl | isIn
      · exact absurd rfl other
      · exact ⟨d, isIn, other⟩
    · rw [if_neg isQuote] at inside ⊢
      exact .quote (fun same => isQuote (Option.some.inj same)) inside

/-- A pattern consists of pieces in one way. It is read as an item for each of its fields with text
in between, never as an item that is none, and a date is written under it piece by piece, at any
offset. So text without letters of fields is written unchanged, and so is any text inside quotes. -/
theorem patterns_read_by_piece (pattern : String) :
    (∃ ps, (∀ qs, Pieces false pattern.toList qs ↔ qs = ps) ∧ Reads (itemsOfPattern pattern) ps ∧
      .invalid ∉ itemsOfPattern pattern ∧ ∀ (d : Date) (offset : Int), d.formatWith pattern offset =
        .ok (String.ofList (ps.flatMap (Piece.written (d.instant.ahead offset) offset)))) ∧
    ((∀ c ∈ pattern.toList, c ≠ '\'' ∧ c ∉ fieldLetters) →
      ∀ (d : Date) (offset : Int), d.formatWith pattern offset = .ok pattern) ∧
    ((∃ c ∈ pattern.toList, c ≠ '\'') → ∀ (d : Date) (offset : Int),
      d.formatWith (String.ofList (quotedText pattern.toList)) offset = .ok pattern) := by
  obtain ⟨ps, pieces⟩ := Pieces.exists false pattern.toList
  refine ⟨⟨ps, fun qs => ⟨fun others => others.unique pieces, fun same => same ▸ pieces⟩,
    pieces.reads, pieces.reads.valid, pieces.formatWith⟩, fun plain d offset => ?_,
    fun some d offset => ?_⟩
  · rw [(pieces_plain plain).formatWith_text, String.ofList_toList]
  · have quoted : Pieces false (String.ofList (quotedText pattern.toList)).toList
        (pattern.toList.map .text) := by
      rw [String.toList_ofList]
      exact pieces_quoted some
    rw [quoted.formatWith_text, String.ofList_toList]

end DocExpr.Calendar
