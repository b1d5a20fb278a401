import DocExpr.Proofs.Evaluation.Run
import DocExpr.Proofs.Text.Separation
import DocExpr.Text.Word

/-! The words of a text. No letter and no digit is lost between words, and each word of an ASCII text
is all letters or all digits. Written in lower case with a separator between them, such words are
found again as they stand, so writing them once more changes nothing but the separator: on ASCII
strings each of the methods that write words with hyphens or with underscores undoes what the other
has put between them, and changes nothing when it is called again. -/
namespace DocExpr.Text

theorem mem_consWord {word w : List Char} {words : List (List Char)} :
    w ∈ consWord word words ↔ (word ≠ [] ∧ w = word.reverse) ∨ w ∈ words := by
  unfold consWord
  split <;> simp_all

theorem flatten_consWord (word : List Char) (words : List (List Char)) :
    (consWord word words).flatten = word.reverse ++ words.flatten := by
  unfold consWord
  split <;> simp_all

section
variable {c : Char} {cs : List Char}

theorem wordsFrom_cons_other (other : isAlphanumeric c = false) (word : List Char) :
    wordsFrom word (c :: cs) = consWord word (wordsFrom [] cs) := by
  cases word <;> simp [wordsFrom, other]

theorem wordsFrom_cons_first (kept : isAlphanumeric c = true) :
    wordsFrom [] (c :: cs) = wordsFrom [c] cs := by
  simp [wordsFrom, kept]

theorem wordsFrom_cons_next (kept : isAlphanumeric c = true) {previous : Char}
    (continues : startsWord previous c cs.head? = false) (before : List Char) :
    wordsFrom (previous :: before) (c :: cs) = wordsFrom (c :: previous :: before) cs := by
  simp [wordsFrom, kept, continues]

end

theorem wordsFrom_nonempty (word cs : List Char) : ∀ w ∈ wordsFrom word cs, w ≠ [] := by
  have finished {word : List Char} {words : List (List Char)} (others : ∀ w ∈ words, w ≠ []) :
      ∀ w ∈ consWord word words, w ≠ [] := by
    intro w isWord
    rcases mem_consWord.mp isWord with ⟨some, rfl⟩ | isWord
    · simpa using some
    · exact others w isWord
  fun_induction wordsFrom word cs with
  | case1 word => exact finished nofun
  | case2 word c cs other ih => exact finished ih
  | case3 c cs kept ih => exact ih
  | case4 c cs kept previous before starts ih => exact finished ih
  | case5 c cs kept previous before continues ih => exact ih

theorem flatten_wordsFrom (word cs : List Char) :
    (wordsFrom word cs).flatten = word.reverse ++ cs.filter isAlphanumeric := by
  fun_induction wordsFrom word cs with
  | case1 word => simp [flatten_consWord]
  | case2 word c cs other ih => simp_all [flatten_consWord]
  | case3 c cs kept ih => simp_all
  | case4 c cs kept previous before starts ih => simp_all [flatten_consWord]
  | case5 c cs kept previous before continues ih => simp_all

/-- The character is one of ASCII. -/
def IsAscii (c : Char) : Prop := c.toNat < 128

instance (c : Char) : Decidable (IsAscii c) := inferInstanceAs (Decidable (_ < _))

theorem Runs.has_of_below {runs : Runs} (late : ∀ run ∈ runs, 128 ≤ run.1) {c : Char}
    (ascii : IsAscii c) : runs.has c = false := by
  rw [Runs.has, List.any_eq_false]
  rintro ⟨first, last, step⟩ isIn
  have above : 128 ≤ first := late _ isIn
  have below : ¬ first ≤ c.toNat := fun inside => by
    unfold IsAscii at ascii
    omega
  simp [below]

section
variable {c : Char} (ascii : IsAscii c)
include ascii

theorem isAlphabetic_ascii : isAlphabetic c = c.isAlpha := by
  have settled : isSettledAlphabetic c = c.isAlpha := if_pos ascii
  rw [isAlphabetic, settled, Runs.has_of_below (by decide) ascii, Bool.or_false]

theorem isLowercase_ascii : isLowercase c = c.isLower := by
  have settled : isSettledLowercase c = c.isLower := if_pos ascii
  have other : (c.toNat != 0x295) = true := by
    unfold IsAscii at ascii
    simp only [bne_iff_ne]
    omega
  rw [isLowercase, settled, other, Bool.and_true, Runs.has_of_below (by decide) ascii,
    Bool.or_false]

theorem isUppercase_ascii : isUppercase c = c.isUpper := by
  have settled : isSettledUppercase c = c.isUpper := if_pos ascii
  rw [isUppercase, settled, Runs.has_of_below (by decide) ascii, Bool.or_false]

theorem isAlphanumeric_ascii : isAlphanumeric c = (c.isAlpha || c.isDigit) := by
  have numeric : isNumeric c = c.isDigit := if_pos ascii
  rw [isAlphanumeric, isAlphabetic_ascii ascii, numeric]

end

theorem lowerAfter_ascii {cs : List Char} (ascii : ∀ c ∈ cs, IsAscii c) (before : List Char) :
    lowerAfter before cs = cs.map Char.toLower := by
  induction cs generalizing before with
  | nil => rfl
  | cons c cs ih =>
    have first := ascii c List.mem_cons_self
    have noSigma : c.toNat ≠ 0x3a3 := by
      unfold IsAscii at first
      omega
    have single : lowerChar c = [c.toLower] := if_pos first
    rw [lowerAfter, if_neg noSigma, single, ih fun d isIn => ascii d (List.mem_cons_of_mem c isIn)]
    rfl

theorem lower_ascii {cs : List Char} (ascii : ∀ c ∈ cs, IsAscii c) :
    lower cs = cs.map Char.toLower :=
  lowerAfter_ascii ascii []

/-- All letters, or all digits, of ASCII. -/
def OfOneKind (word : List Char) : Prop :=
  (∀ c ∈ word, c.isAlpha = true) ∨ ∀ c ∈ word, c.isDigit = true

/-- All small letters, or all digits, of ASCII. -/
def Settled (word : List Char) : Prop :=
  (∀ c ∈ word, c.isLower = true) ∨ ∀ c ∈ word, c.isDigit = true

section
variable {c : Char}

theorem isUpper_iff : c.isUpper = true ↔ 65 ≤ c.toNat ∧ c.toNat ≤ 90 := decide_eq_true_iff

theorem isLower_iff : c.isLower = true ↔ 97 ≤ c.toNat ∧ c.toNat ≤ 122 :=
  (Bool.and_eq_true_iff).trans (and_congr decide_eq_true_iff decide_eq_true_iff)

theorem isDigit_iff : c.isDigit = true ↔ 48 ≤ c.toNat ∧ c.toNat ≤ 57 :=
  (Bool.and_eq_true_iff).trans (and_congr decide_eq_true_iff decide_eq_true_iff)

theorem isAlpha_iff : c.isAlpha = true ↔ c.isUpper = true ∨ c.isLower = true := Bool.or_eq_true_iff

theorem kinds_of_isLower (small : c.isLower = true) :
    IsAscii c ∧ c.isAlpha = true ∧ c.isUpper = false ∧ c.isDigit = false := by
  have bounds := isLower_iff.mp small
  refine ⟨Nat.lt_of_le_of_lt bounds.2 (by decide), isAlpha_iff.mpr (.inr small), ?_, ?_⟩
  · rw [Bool.eq_false_iff, Ne, isUpper_iff]
    omega
  · rw [Bool.eq_false_iff, Ne, isDigit_iff]
    omega

theorem kinds_of_isDigit (digit : c.isDigit = true) :
    IsAscii c ∧ c.isAlpha = false ∧ c.isUpper = false := by
  have bounds := isDigit_iff.mp digit
  refine ⟨Nat.lt_of_le_of_lt bounds.2 (by decide), ?_, ?_⟩
  · rw [Bool.eq_false_iff, Ne, isAlpha_iff, isUpper_iff, isLower_iff]
    omega
  · rw [Bool.eq_false_iff, Ne, isUpper_iff]
    omega

theorem toLower_of_not_capital (other : c.isUpper = false) : c.toLower = c :=
  dif_neg (of_decide_eq_false other)

theorem toNat_toLower (capital : c.isUpper = true) : c.toLower.toNat = c.toNat + 32 := by
  have bounds := isUpper_iff.mp capital
  have code : c.toLower.val = c.val + 32 :=
    congrArg Char.val (dif_pos (of_decide_eq_true capital))
  have small : (c.toNat + 32) % 2 ^ 32 = c.toNat + 32 := Nat.mod_eq_of_lt (by omega)
  rw [← small]
  exact congrArg UInt32.toNat code

theorem isLower_toLower (letter : c.isAlpha = true) : c.toLower.isLower = true := by
  cases capital : c.isUpper with
  | false =>
    rw [toLower_of_not_capital capital]
    exact (isAlpha_iff.mp letter).resolve_left (by rw [capital]; decide)
  | true =>
    have bounds := isUpper_iff.mp capital
    rw [isLower_iff, toNat_toLower capital]
    omega

theorem toLower_settled (settled : c.isLower = true ∨ c.isDigit = true) : c.toLower = c := by
  rcases settled with small | digit
  · exact toLower_of_not_capital (kinds_of_isLower small).2.2.1
  · exact toLower_of_not_capital (kinds_of_isDigit digit).2.2

end

/-- A word of one kind goes on with the kind that it has. -/
theorem OfOneKind.cons {previous c : Char} {before : List Char}
    (kind : OfOneKind (previous :: before)) (ascii : IsAscii previous) (ascii' : IsAscii c)
    (kept : isAlphanumeric c = true) {next : Option Char}
    (continues : ¬ startsWord previous c next = true) : OfOneKind (c :: previous :: before) := by
  rw [isAlphanumeric_ascii ascii', Bool.or_eq_true] at kept
  simp only [startsWord, isAlphabetic_ascii ascii, isAlphabetic_ascii ascii', isAsciiDigit,
    Bool.or_eq_true, Bool.and_eq_true, not_or, not_and] at continues
  obtain ⟨⟨⟨-, noDigit⟩, noLetter⟩, -⟩ := continues
  rcases kind with letters | digits
  · have letter := letters previous List.mem_cons_self
    exact .inl (List.forall_mem_cons.mpr ⟨kept.resolve_right (noDigit letter), letters⟩)
  · have digit := digits previous List.mem_cons_self
    exact .inr (List.forall_mem_cons.mpr ⟨kept.resolve_left (noLetter digit), digits⟩)

/-- No word of an ASCII text goes on from a letter to a digit or back. -/
theorem wordsFrom_ofOneKind {word cs : List Char} (kind : OfOneKind word)
    (ascii : ∀ c ∈ word, IsAscii c) (ascii' : ∀ c ∈ cs, IsAscii c) :
    ∀ w ∈ wordsFrom word cs, OfOneKind w ∧ ∀ c ∈ w, IsAscii c := by
  have finished {word : List Char} {words : List (List Char)} (kind : OfOneKind word)
      (ascii : ∀ c ∈ word, IsAscii c)
      (others : ∀ w ∈ words, OfOneKind w ∧ ∀ c ∈ w, IsAscii c) :
      ∀ w ∈ consWord word words, OfOneKind w ∧ ∀ c ∈ w, IsAscii c := by
    intro w isWord
    rcases mem_consWord.mp isWord with ⟨-, rfl⟩ | isWord
    · simpa [OfOneKind] using And.intro kind ascii
    · exact others w isWord
  have single {c : Char} (ascii : IsAscii c) (kept : isAlphanumeric c = true) :
      OfOneKind [c] := by
    rw [isAlphanumeric_ascii ascii, Bool.or_eq_true] at kept
    simpa [OfOneKind] using kept
  fun_induction wordsFrom word cs with
  | case1 word => exact finished kind ascii nofun
  | case2 word c cs other ih =>
    have later := List.forall_mem_cons.mp ascii'
    exact finished kind ascii (ih (.inl (List.forall_mem_nil _)) (List.forall_mem_nil _) later.2)
  | case3 c cs kept ih =>
    have later := List.forall_mem_cons.mp ascii'
    exact ih (single later.1 (by simpa using kept)) (by simpa using later.1) later.2
  | case4 c cs kept previous before starts ih =>
    have later := List.forall_mem_cons.mp ascii'
    exact finished kind ascii
      (ih (single later.1 (by simpa using kept)) (by simpa using later.1) later.2)
  | case5 c cs kept previous before continues ih =>
    have later := List.forall_mem_cons.mp ascii'
    refine ih ?_ (List.forall_mem_cons.mpr ⟨later.1, ascii⟩) later.2
    exact kind.cons (ascii previous List.mem_cons_self) later.1 (by simpa using kept) continues

theorem OfOneKind.settled_lower {word : List Char} (kind : OfOneKind word)
    (ascii : ∀ c ∈ word, IsAscii c) : Settled (lower word) := by
  rw [lower_ascii ascii]
  rcases kind with letters | digits
  · refine .inl (List.forall_mem_map.mpr fun c isIn => ?_)
    exact isLower_toLower (letters c isIn)
  · refine .inr (List.forall_mem_map.mpr fun c isIn => ?_)
    rw [toLower_settled (.inr (digits c isIn))]
    exact digits c isIn

section
variable {word : List Char} (settled : Settled word)
include settled

theorem Settled.ascii : ∀ c ∈ word, IsAscii c := by
  rcases settled with letters | digits
  · exact fun c isIn => (kinds_of_isLower (letters c isIn)).1
  · exact fun c isIn => (kinds_of_isDigit (digits c isIn)).1

theorem Settled.lower_eq : lower word = word := by
  have same : ∀ c ∈ word, c.toLower = id c := by
    rcases settled with letters | digits
    · exact fun c isIn => toLower_settled (.inl (letters c isIn))
    · exact fun c isIn => toLower_settled (.inr (digits c isIn))
  rw [lower_ascii settled.ascii, List.map_congr_left same, List.map_id]

theorem Settled.kept {c : Char} (isIn : c ∈ word) : isAlphanumeric c = true := by
  rw [isAlphanumeric_ascii (settled.ascii c isIn), Bool.or_eq_true]
  rcases settled with letters | digits
  · exact .inl (kinds_of_isLower (letters c isIn)).2.1
  · exact .inr (digits c isIn)

/-- No rule for the start of a word applies between two characters of a settled word. -/
theorem Settled.startsWord {previous c : Char} (isIn : previous ∈ word) (isIn' : c ∈ word)
    (next : Option Char) : startsWord previous c next = false := by
  rw [Text.startsWord, isLowercase_ascii (settled.ascii _ isIn),
    isUppercase_ascii (settled.ascii _ isIn), isUppercase_ascii (settled.ascii _ isIn'),
    isAlphabetic_ascii (settled.ascii _ isIn), isAlphabetic_ascii (settled.ascii _ isIn'),
    isAsciiDigit, isAsciiDigit]
  rcases settled with letters | digits
  · obtain ⟨-, -, noCapital, noDigit⟩ := kinds_of_isLower (letters previous isIn)
    obtain ⟨-, -, noCapital', noDigit'⟩ := kinds_of_isLower (letters c isIn')
    simp [noCapital, noDigit, noCapital', noDigit']
  · obtain ⟨-, noLetter, noCapital⟩ := kinds_of_isDigit (digits previous isIn)
    obtain ⟨-, noLetter', noCapital'⟩ := kinds_of_isDigit (digits c isIn')
    simp [noCapital, noLetter, noCapital', noLetter']

/-- A settled word is taken as a whole. -/
theorem Settled.wordsFrom_append (rest : List Char) {before after : List Char}
    (inside : ∀ c ∈ before ++ after, c ∈ word) :
    wordsFrom before (after ++ rest) = wordsFrom (after.reverse ++ before) rest := by
  induction after generalizing before with
  | nil => rfl
  | cons c after ih =>
    have isIn : c ∈ word := inside c (by simp)
    have taken : wordsFrom before (c :: after ++ rest) = wordsFrom (c :: before) (after ++ rest) := by
      cases before with
      | nil => exact wordsFrom_cons_first (settled.kept isIn)
      | cons previous before =>
        have isIn' : previous ∈ word := inside previous (by simp)
        exact wordsFrom_cons_next (settled.kept isIn) (settled.startsWord isIn' isIn _) before
    have later : ∀ d ∈ c :: before ++ after, d ∈ word := fun d isIn' =>
      inside d (by simp at isIn' ⊢; tauto)
    rw [taken, ih later, List.reverse_cons, List.append_assoc]
    rfl

theorem Settled.splitWords_append (some : word ≠ []) (rest : List Char)
    (ends : ∀ c ∈ rest.head?, isAlphanumeric c = false) :
    splitWords (word ++ rest) = word :: splitWords rest.tail := by
  have inside : ∀ c ∈ [] ++ word, c ∈ word := fun c isIn => isIn
  have taken := settled.wordsFrom_append rest inside
  rw [List.append_nil] at taken
  have finished (words : List (List Char)) : consWord word.reverse words = word :: words := by
    simp [consWord, some]
  rw [splitWords, taken]
  cases rest with
  | nil => exact finished []
  | cons c rest =>
    rw [wordsFrom_cons_other (ends c rfl), finished]
    rfl

end

/-- Settled words with a separator between them are found again. -/
theorem splitWords_intercalate {separator : Char} (between : isAlphanumeric separator = false)
    {words : List (List Char)} (settled : ∀ w ∈ words, Settled w) (some : ∀ w ∈ words, w ≠ []) :
    splitWords ([separator].intercalate words) = words := by
  induction words with
  | nil => rfl
  | cons word words ih =>
    obtain ⟨here, later⟩ := List.forall_mem_cons.mp settled
    obtain ⟨nonempty, some'⟩ := List.forall_mem_cons.mp some
    by_cases last : words = []
    · subst last
      have split := here.splitWords_append nonempty [] nofun
      rw [List.append_nil] at split
      rwa [List.intercalate_singleton]
    · rw [intercalate_cons _ _ last, List.append_assoc, here.splitWords_append nonempty]
      · exact congrArg (word :: ·) (ih later some')
      · intro c isFirst
        cases isFirst
        exact between

/-- In lower case the words of an ASCII text are settled. -/
theorem settled_words {cs : List Char} (ascii : ∀ c ∈ cs, IsAscii c) :
    ∀ w ∈ (splitWords cs).map lower, Settled w ∧ w ≠ [] := by
  refine List.forall_mem_map.mpr fun w isWord => ?_
  obtain ⟨kind, ascii⟩ :=
    wordsFrom_ofOneKind (.inl (List.forall_mem_nil _)) (List.forall_mem_nil _) ascii w isWord
  refine ⟨kind.settled_lower ascii, ?_⟩
  rw [lower_ascii ascii, Ne, List.map_eq_nil_iff]
  exact wordsFrom_nonempty [] cs w isWord

/-- Writing the words of an ASCII text with a separator twice is the same as doing so once, with the
second separator. -/
theorem separated_separated {cs : List Char} (ascii : ∀ c ∈ cs, IsAscii c) {first : Char}
    (between : isAlphanumeric first = false) (second : Char) :
    separated second (separated first cs) = separated second cs := by
  have settled := settled_words ascii
  have again := splitWords_intercalate between (fun w isIn => (settled w isIn).1)
    fun w isIn => (settled w isIn).2
  have same : ∀ w ∈ (splitWords cs).map lower, lower w = id w := fun w isIn =>
    (settled w isIn).1.lower_eq
  rw [separated, separated, again, List.map_congr_left same, List.map_id]
  rfl

end DocExpr.Text

namespace DocExpr.Library
open Text (IsAscii isAlphanumeric lower splitWords)

section
variable (host : Host) (root : Value)

theorem callMethod_kebabCase (s : String) : callMethod host root (.string s) "kebabCase" [] =
    pure (.ofChars (Text.separated '-' s.toList)) := rfl

theorem callMethod_snakeCase (s : String) : callMethod host root (.string s) "snakeCase" [] =
    pure (.ofChars (Text.separated '_' s.toList)) := rfl

/-- Splitting a string into words loses no letter and no digit and leaves no word empty. The words
are written in lower case with hyphens or underscores between them, and on an ASCII string writing
what was so written again changes no more than what stands between the words. -/
theorem word_forms_stable (s : String) :
    (∀ w ∈ splitWords s.toList, w ≠ []) ∧
      (splitWords s.toList).flatten = s.toList.filter isAlphanumeric ∧
      ∃ kebab snake : String,
        kebab.toList = ['-'].intercalate ((splitWords s.toList).map lower) ∧
        snake.toList = ['_'].intercalate ((splitWords s.toList).map lower) ∧
        callMethod host root (.string s) "kebabCase" [] = pure (.string kebab) ∧
        callMethod host root (.string s) "snakeCase" [] = pure (.string snake) ∧
        ((∀ c ∈ s.toList, IsAscii c) →
          callMethod host root (.string kebab) "kebabCase" [] = pure (.string kebab) ∧
          callMethod host root (.string snake) "snakeCase" [] = pure (.string snake) ∧
          callMethod host root (.string snake) "kebabCase" [] = pure (.string kebab) ∧
          callMethod host root (.string kebab) "snakeCase" [] = pure (.string snake)) := by
  refine ⟨Text.wordsFrom_nonempty [] s.toList, Text.flatten_wordsFrom [] s.toList,
    String.ofList (Text.separated '-' s.toList), String.ofList (Text.separated '_' s.toList),
    String.toList_ofList, String.toList_ofList, rfl, rfl, fun ascii => ?_⟩
  have hyphen : isAlphanumeric '-' = false := by decide
  have underscore : isAlphanumeric '_' = false := by decide
  have again {between : Char} (other : isAlphanumeric between = false) (next : Char) :=
    Text.separated_separated ascii other next
  simp only [callMethod_kebabCase, callMethod_snakeCase, Value.ofChars, String.toList_ofList,
    again hyphen, again underscore]
  exact ⟨trivial, trivial, trivial, trivial⟩

end

/-- Capitals, digits and signs in one string, with the words that are found in it. -/
theorem mixed_words_stable :
    let s : String := "--XMLHttp2Request__v10 ok"
    let kebab : String := "xml-http-2-request-v-10-ok"
    let snake : String := "xml_http_2_request_v_10_ok"
    (∀ c ∈ s.toList, IsAscii c) ∧ ∀ host root,
      callMethod host root (.string s) "kebabCase" [] = pure (.string kebab) ∧
        callMethod host root (.string snake) "kebabCase" [] = pure (.string kebab) ∧
        callMethod host root (.string kebab) "snakeCase" [] = pure (.string snake) := by
  intro s kebab snake
  have all : s.toList.all (decide <| IsAscii ·) = true := by decide
  have ascii : ∀ c ∈ s.toList, IsAscii c := fun c isIn =>
    of_decide_eq_true (List.all_eq_true.mp all c isIn)
  refine ⟨ascii, fun host root => ?_⟩
  obtain ⟨-, -, kebab', snake', isKebab, isSnake, first, -, stable⟩ := word_forms_stable host root s
  obtain ⟨-, -, fromSnake, fromKebab⟩ := stable ascii
  have words : (splitWords s.toList).map lower =
      ["xml", "http", "2", "request", "v", "10", "ok"].map String.toList := by decide
  rw [words] at isKebab isSnake
  have sameKebab : kebab' = kebab := String.toList_inj.mp (isKebab.trans (by decide))
  have sameSnake : snake' = snake := String.toList_inj.mp (isSnake.trans (by decide))
  subst sameKebab sameSnake
  exact ⟨first, fromSnake, fromKebab⟩

end DocExpr.Library
