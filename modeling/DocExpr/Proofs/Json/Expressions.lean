import DocExpr.Proofs.Evaluation.Literals
import DocExpr.Proofs.Json.Reading

/-! Documents are expressions for themselves, unless they escape a character as two halves. What the
document grammar spells, the expression language spells too, read from the front of the text to its
end: each part is known to stand between characters with which no numeral goes on. -/
namespace DocExpr.Json
open DocExpr.Expr (literal)
open DocExpr.Number (Stops)

/-- One half of a character outside the first plane. -/
def isHalf (n : Nat) : Bool := 0xd800 ≤ n && n ≤ 0xdfff

/-- An escape of the text is one half of a character. -/
def escapesHalf : List Char → Bool
  | '\\' :: 'u' :: a :: b :: c :: d :: rest => (Number.hex4? a b c d).any isHalf || escapesHalf rest
  | '\\' :: _ :: rest => escapesHalf rest
  | _ :: rest => escapesHalf rest
  | [] => false

/-- A part of a text that may be a numeral, on whose sides no numeral goes on. -/
def StandsIn (t cs : List Char) : Prop :=
  ∃ before after, cs = before ++ (t ++ after) ∧ Stops before.reverse ∧
    (∀ c ∈ t, Number.partOfNumeral c = true) ∧ Stops after

/-- Where documents have this text for a number, expressions have it for the same number. -/
def ReadsAlike (t : List Char) : Prop :=
  ∀ x, Value.readJson? (String.ofList t) = some (.number x) → Number.ofNumeral? t = some x

/-- Expressions read every numeral of the text as documents do. -/
def NumeralsAgree (cs : List Char) : Prop := ∀ t, StandsIn t cs → ReadsAlike t

instance (rest : List Char) : Decidable (Stops rest) :=
  match rest with
  | [] => isTrue .nil
  | c :: rest => decidable_of_iff (Number.partOfNumeral c = false)
    ⟨fun stops => .cons stops rest, fun stops => stops c rfl⟩

instance (t : List Char) : Decidable (ReadsAlike t) :=
  match read : Value.readJson? (String.ofList t) with
  | some (.number x) => decidable_of_iff (Number.ofNumeral? t = some x)
    ⟨fun alike y same => by
      rw [read] at same
      cases same
      exact alike, fun alike => alike x read⟩
  | some (.null) | some (.bool _) | some (.string _) | some (.array _) | some (.object _)
  | some (.date _) | some (.regex ..) | some (.lambda _) | none =>
    isTrue fun y same => by
      rw [read] at same
      cases same

/-- A part of a text by its place and its length. -/
theorem StandsIn.exists_slice {t cs : List Char} (stands : StandsIn t cs) :
    ∃ i < cs.length + 1, ∃ n < cs.length + 1, t = (cs.drop i).take n ∧
      Stops (cs.take i).reverse ∧ ((cs.drop i).take n).all Number.partOfNumeral = true ∧
        Stops (cs.drop (i + n)) := by
  obtain ⟨before, after, rfl, front, parts, back⟩ := stands
  refine ⟨before.length, ?_, t.length, ?_, ?_, ?_, ?_, ?_⟩
  · rw [List.length_append]
    omega
  · rw [List.length_append, List.length_append]
    omega
  · rw [List.drop_left, List.take_left]
  · rwa [List.take_left]
  · rw [List.drop_left, List.take_left]
    exact List.all_eq_true.mpr parts
  · rwa [← List.drop_drop, List.drop_left, List.drop_left]

theorem standsIn_slice {cs : List Char} {i n : Nat} (front : Stops (cs.take i).reverse)
    (parts : ((cs.drop i).take n).all Number.partOfNumeral = true)
    (back : Stops (cs.drop (i + n))) : StandsIn ((cs.drop i).take n) cs := by
  refine ⟨cs.take i, cs.drop (i + n), ?_, front, List.all_eq_true.mp parts, back⟩
  rw [← List.drop_drop, List.take_append_drop, List.take_append_drop]

instance (cs : List Char) : Decidable (NumeralsAgree cs) :=
  decidable_of_iff (∀ i < cs.length + 1, ∀ n < cs.length + 1, Stops (cs.take i).reverse ∧
      ((cs.drop i).take n).all Number.partOfNumeral = true ∧ Stops (cs.drop (i + n)) →
        ReadsAlike ((cs.drop i).take n))
    ⟨fun slices t stands => by
      obtain ⟨i, inside, n, inside', rfl, edges⟩ := stands.exists_slice
      exact slices i inside n inside' edges,
    fun agree _ _ _ _ ⟨front, parts, back⟩ => agree _ (standsIn_slice front parts back)⟩

theorem escapesHalf_plain {c : Char} (noEscape : c ≠ '\\') (cs : List Char) :
    escapesHalf (c :: cs) = escapesHalf cs := by
  rw [escapesHalf]
  all_goals
    intros
    exact noEscape ‹_›

theorem escapesHalf_front {front : List Char} (noEscape : '\\' ∉ front) (cs : List Char) :
    escapesHalf (front ++ cs) = escapesHalf cs := by
  induction front with
  | nil => rfl
  | cons c front ih =>
    obtain ⟨other, later⟩ := not_or.mp (mt List.mem_cons.mpr noEscape)
    rw [List.cons_append, escapesHalf_plain (Ne.symm other), ih later]

theorem Blank.noEscape {ws : List Char} (blank : Blank ws) : '\\' ∉ ws :=
  fun isIn => nomatch blank '\\' isIn

theorem content_of_whole {cs xs : List Char} (content : Content true cs xs) {more : List Char}
    (whole : escapesHalf (cs ++ more) = false) :
    Content false cs xs ∧ escapesHalf more = false := by
  induction content with
  | done => exact ⟨.done, whole⟩
  | piece first others ih =>
    rw [List.append_assoc] at whole
    cases first with
    | plain printable noQuote noEscape =>
      rw [List.singleton_append, escapesHalf_plain noEscape] at whole
      obtain ⟨content, later⟩ := ih whole
      exact ⟨.piece (.plain printable noQuote noEscape) content, later⟩
    | @short c x stands =>
      have other : c ≠ 'u' := by
        rintro rfl
        cases stands
      have whole : escapesHalf ('\\' :: c :: _) = false := whole
      rw [escapesHalf] at whole
      · obtain ⟨content, later⟩ := ih whole
        exact ⟨.piece (.short stands) content, later⟩
      · intros
        exact other ‹_›
    | unit number inPlane =>
      simp only [List.cons_append, List.nil_append] at whole
      rw [escapesHalf] at whole
      obtain ⟨-, whole⟩ := Bool.or_eq_false_iff.mp whole
      obtain ⟨content, later⟩ := ih whole
      exact ⟨.piece (.unit number inPlane) content, later⟩
    | pair _ number isHigh =>
      -- the first half is seen before the second is read
      simp only [List.cons_append, List.nil_append] at whole
      rw [escapesHalf, number] at whole
      obtain ⟨half, -⟩ := Bool.or_eq_false_iff.mp whole
      simp [isHalf] at half
      omega

section
variable {α : Type} {whole : List Char} {item item' : List Char → α → Prop}

/-- What is spelled in one way at its place in a text without halves of characters is spelled in
another way too, and neither has what follows such halves. -/
def Transfers (whole : List Char) (item item' : List Char → α → Prop) : Prop :=
  ∀ ⦃before text more x⦄, whole = before ++ (text ++ more) → Stops before.reverse → Stops more →
    escapesHalf (text ++ more) = false → item text x → item' text x ∧ escapesHalf more = false

theorem transfers_blank : Transfers whole (fun cs (_ : Unit) => Blank cs) fun cs _ => Blank cs := by
  intro before text more x place front back unbroken blank
  rw [escapesHalf_front blank.noEscape] at unbroken
  exact ⟨blank, unbroken⟩

theorem Transfers.padded (each : Transfers whole item item') :
    Transfers whole (Padded item) (Padded item') := by
  rintro before _ more x place front back unbroken ⟨blank, spelled, blank'⟩
  rename_i ws cs ws'
  rw [List.append_assoc, List.append_assoc] at place unbroken
  rw [escapesHalf_front blank.noEscape] at unbroken
  have front' : Stops (before ++ ws).reverse := by
    rw [List.reverse_append]
    exact stops_blank (fun c isIn => blank c (List.mem_reverse.mp isIn)) front
  have place' : whole = (before ++ ws) ++ (cs ++ (ws' ++ more)) := by
    rw [place, List.append_assoc]
  obtain ⟨spelled', later⟩ := each place' front' (stops_blank blank' back) unbroken spelled
  rw [escapesHalf_front blank'.noEscape] at later
  exact ⟨.mk blank spelled' blank', later⟩

theorem Transfers.listed (each : Transfers whole item item') :
    Transfers whole (Listed item) (Listed item') := by
  intro before text more xs place front back unbroken listed
  induction listed generalizing before with
  | last only =>
    obtain ⟨only', later⟩ := each place front back unbroken only
    exact ⟨.last only', later⟩
  | @more cs others x xs first rest ih =>
    -- a comma ends the item, and the rest of the list stands behind it
    rw [List.append_assoc, List.cons_append] at place unbroken
    obtain ⟨first', later⟩ := each place front (.cons rfl _) unbroken first
    rw [escapesHalf_plain (by decide)] at later
    have place' : whole = (before ++ cs ++ [',']) ++ (others ++ more) := by
      rw [place]
      simp
    have front' : Stops (before ++ cs ++ [',']).reverse := by
      rw [List.reverse_append]
      exact .cons rfl _
    obtain ⟨rest', last⟩ := ih place' front' later
    exact ⟨.more first' rest', last⟩

/-- What stands between two marks. -/
theorem Transfers.enclosed (inner : Transfers whole item item') {opening closing : Char}
    (isMark : opening ∈ ['[', '\x7b']) (isMark' : closing ∈ [']', '\x7d'])
    {before text more : List Char} {x : α}
    (place : whole = before ++ ((opening :: (text ++ [closing])) ++ more))
    (unbroken : escapesHalf ((opening :: (text ++ [closing])) ++ more) = false)
    (spelled : item text x) : item' text x ∧ escapesHalf more = false := by
  have plain : opening ≠ '\\' ∧ Number.partOfNumeral opening = false := by
    simp only [List.mem_cons, List.not_mem_nil, or_false] at isMark
    rcases isMark with rfl | rfl <;> decide
  have plain' : closing ≠ '\\' ∧ Number.partOfNumeral closing = false := by
    simp only [List.mem_cons, List.not_mem_nil, or_false] at isMark'
    rcases isMark' with rfl | rfl <;> decide
  rw [List.cons_append, List.append_assoc, List.singleton_append] at place unbroken
  rw [escapesHalf_plain plain.1] at unbroken
  have place' : whole = (before ++ [opening]) ++ (text ++ closing :: more) := by
    rw [place]
    simp
  have front : Stops (before ++ [opening]).reverse := by
    rw [List.reverse_append]
    exact .cons plain.2 _
  obtain ⟨spelled', later⟩ := inner place' front (.cons plain'.2 _) unbroken spelled
  rw [escapesHalf_plain plain'.1] at later
  exact ⟨spelled', later⟩

end

section
variable {whole : List Char} {part part' : List Char → Json → Prop}

theorem Transfers.keyed (value : Transfers whole part part') :
    Transfers whole (Keyed part true) (Keyed part' false) := by
  rintro before _ more m place front back unbroken ⟨named, blank, blank', spelled⟩
  rename_i key gap gap' cs k j
  simp only [List.cons_append, List.append_assoc] at place unbroken
  rw [escapesHalf_plain (by decide)] at unbroken
  obtain ⟨named', unbroken⟩ := content_of_whole named unbroken
  rw [escapesHalf_plain (by decide), escapesHalf_front blank.noEscape,
    escapesHalf_plain (by decide), escapesHalf_front blank'.noEscape] at unbroken
  have place' : whole =
      (before ++ '"' :: (key ++ '"' :: (gap ++ ':' :: gap'))) ++ (cs ++ more) := by
    rw [place]
    simp
  have front' : Stops (before ++ '"' :: (key ++ '"' :: (gap ++ ':' :: gap'))).reverse := by
    simp only [List.reverse_append, List.reverse_cons, List.append_assoc, List.singleton_append]
    exact stops_blank (fun c isIn => blank' c (List.mem_reverse.mp isIn)) (.cons rfl _)
  obtain ⟨spelled', later⟩ := value place' front' back unbroken spelled
  exact ⟨.mk named' blank blank' spelled', later⟩

variable (agree : NumeralsAgree whole)
include agree

theorem transfers_scalar : Transfers whole (Scalar standard) (Scalar literal) := by
  intro before text more j place front back unbroken scalar
  cases scalar with
  | null => exact ⟨.null, unbroken⟩
  | yes => exact ⟨.yes, unbroken⟩
  | no => exact ⟨.no, unbroken⟩
  | string content =>
    rw [List.cons_append, List.append_assoc, List.singleton_append,
      escapesHalf_plain (by decide)] at unbroken
    obtain ⟨content', later⟩ := content_of_whole content unbroken
    exact ⟨.string content', later⟩
  | number spelled =>
    have numeral := standard.numeral spelled
    have noEscape : '\\' ∉ text := fun isIn => nomatch numeral.part _ isIn
    rw [escapesHalf_front noEscape] at unbroken
    have read : Value.readJson? (String.ofList text) = some (.number _) :=
      readJson?_of_spells (.bare (Scalar.spells (.number spelled) 127))
    exact ⟨.number ⟨numeral, agree _ ⟨before, more, place, front, numeral.part, back⟩ _ read⟩,
      unbroken⟩

theorem Transfers.spelling (value : Transfers whole part part') :
    Transfers whole (Spelling standard part) (Spelling literal part') := by
  intro before text more j place front back unbroken spelling
  cases spelling with
  | scalar scalar =>
    obtain ⟨scalar', later⟩ := transfers_scalar agree place front back unbroken scalar
    exact ⟨.scalar scalar', later⟩
  | noItems blank =>
    obtain ⟨blank', later⟩ :=
      transfers_blank.enclosed (x := ()) (by decide) (by decide) place unbroken blank
    exact ⟨.noItems blank', later⟩
  | array listed =>
    obtain ⟨listed', later⟩ :=
      value.padded.listed.enclosed (by decide) (by decide) place unbroken listed
    exact ⟨.array listed', later⟩
  | noMembers blank =>
    obtain ⟨blank', later⟩ :=
      transfers_blank.enclosed (x := ()) (by decide) (by decide) place unbroken blank
    exact ⟨.noMembers blank', later⟩
  | object listed =>
    obtain ⟨listed', later⟩ :=
      value.keyed.padded.listed.enclosed (by decide) (by decide) place unbroken listed
    exact ⟨.object listed', later⟩

theorem transfers_spells (depth : Nat) :
    Transfers whole (Spells standard depth) (Spells literal depth) := by
  induction depth with
  | zero => exact transfers_scalar agree
  | succ depth ih => exact ih.spelling agree

end

/-- A document evaluates to itself on every document: where no character of it is escaped as two
halves and both readers take its numerals for the same numbers, the expression with its text gives
the value that is read from it. -/
theorem document_evaluates {s : String} {tree : Json} {options : Options}
    (read : read? s = some tree) (unbroken : escapesHalf s.toList = false)
    (agree : NumeralsAgree s.toList) (deep : 129 ≤ options.maxDepth)
    (enough : tree.nodes ≤ options.maxSteps) :
    ∃ v, Value.readJson? s = some v ∧
      ∀ document label, evaluate s document options label = .ok v := by
  have spelled := spells_of_read? read
  have place : s.toList = [] ++ (s.toList ++ []) := by rw [List.append_nil, List.nil_append]
  obtain ⟨literal, -⟩ := (transfers_spells agree 127).padded place .nil .nil
    (by rwa [List.append_nil]) spelled
  refine ⟨.ofJson tree, by rw [Value.readJson?, read, Option.map_some], fun document label => ?_⟩
  have evaluates := evaluate_of_spells literal deep enough document label
  rwa [String.ofList_toList] at evaluates

/-- A document with a negative number, white space, an escape and a key twice. -/
def sample : String := "[-5, \x7b\"k\": \"\\n\", \"k\": 10\x7d]"

/-- The document is read and evaluates to the same value, whose repeated key is there once. -/
theorem sample_evaluates :
    ∃ tree, read? sample = some tree ∧ escapesHalf sample.toList = false ∧
      NumeralsAgree sample.toList ∧ 129 ≤ Options.maxDepth {} ∧
      tree.nodes ≤ Options.maxSteps {} ∧
      ∃ v, Value.readJson? sample = some v ∧
        ∀ document label, evaluate sample document {} label = .ok v := by
  have read : read? sample = some (.array [.number (.negative 5),
      .object [("k", .string "\n"), ("k", .number (.natural 10))]]) := by rfl
  have unbroken : escapesHalf sample.toList = false := by decide
  have agree : NumeralsAgree sample.toList := by decide +kernel
  have deep : 129 ≤ Options.maxDepth {} := by decide
  have enough : nodes (.array [.number (.negative 5),
      .object [("k", .string "\n"), ("k", .number (.natural 10))]]) ≤ Options.maxSteps {} := by
    decide
  exact ⟨_, read, unbroken, agree, deep, enough, document_evaluates read unbroken agree deep enough⟩

/-- The halves of a character make one character of a document, but a fault of an expression. -/
theorem halves_refused :
    Value.readJson? "\"\\ud83d\\ude00\"" = some (.string "😀") ∧
      evaluate "\"\\ud83d\\ude00\"" .null {} 0 =
        .error (.badText .badUnicodeEscape (.at "\"\\ud83d\\ude00\"".toList 1)) := by
  have first : Number.hex4? 'd' '8' '3' 'd' = some 0xd83d := by decide
  have second : Number.hex4? 'd' 'e' '0' '0' = some 0xde00 := by decide
  have content : Content true "\\ud83d\\ude00".toList "😀".toList :=
    .piece (.pair rfl first (by decide) second (by decide)) .done
  have read := readJson?_of_spells (.bare (Scalar.spells (.string content) 127))
  have text : String.ofList ('"' :: ("\\ud83d\\ude00".toList ++ ['"'])) =
      "\"\\ud83d\\ude00\"" := by decide
  rw [text] at read
  exact ⟨read, by rfl⟩

end DocExpr.Json
