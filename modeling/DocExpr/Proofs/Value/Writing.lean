import DocExpr.Proofs.Calendar.Standard
import DocExpr.Proofs.Json.Reading
import DocExpr.Value.Display

/-! The texts of values as documents. A value is written as the tree of its document is, and both
that text and the display text spell the document of the value, so that they are read alike; a
value of the kinds that documents have is read back from them. -/
namespace DocExpr.Value
open Json (Piece Content Padded Listed Keyed Scalar Spells Dialect Blank)

theorem hex4?_numberEscape : ∀ n < 32,
    Number.hex4? '0' '0' (Number.hexDigit 'a' (n / 16)) (Number.hexDigit 'a' (n % 16)) = some n := by
  decide

theorem piece_escapeDisplayed (pairs : Bool) (c : Char) :
    Piece pairs (Json.escapeDisplayed c) c := by
  unfold Json.escapeDisplayed
  split
  next letter =>
    cases letter
    exact .short rfl
  next noQuote =>
    split
    next letter =>
      cases letter
      exact .short rfl
    next noEscape =>
      repeat
        split
        next letter =>
          cases letter
          exact .short rfl
      split
      next control =>
        have unit := @Piece.unit pairs _ _ _ _ _ (hex4?_numberEscape c.toNat control)
          (.inl (by omega))
        rwa [Char.ofNat_toNat] at unit
      next printable => exact .plain (Nat.not_lt.mp printable) noQuote noEscape

theorem piece_escapeWritten (pairs : Bool) (c : Char) : Piece pairs (Json.escapeWritten c) c := by
  unfold Json.escapeWritten
  split
  next letter =>
    cases letter
    exact .short rfl
  next =>
    split
    next letter =>
      cases letter
      exact .short rfl
    next => exact piece_escapeDisplayed pairs c

theorem content_flatMap {pairs : Bool} {escape : Char → List Char}
    (escapes : ∀ c, Piece pairs (escape c) c) (cs : List Char) :
    Content pairs (cs.flatMap escape) cs := by
  induction cs with
  | nil => exact .done
  | cons c cs ih => exact .piece (escapes c) ih

theorem escapeDisplayed_of_isStandard {c : Char} (standard : Calendar.isStandard c = true) :
    Json.escapeDisplayed c = [c] := by
  have other {d : Char} (special : Calendar.isStandard d = false) : c ≠ d := by
    rintro rfl
    rw [special] at standard
    cases standard
  have printable : ¬ c.toNat < 0x20 := by
    unfold Calendar.isStandard Number.isDigit at standard
    simp only [Bool.or_eq_true, Bool.and_eq_true, decide_eq_true_eq,
      List.contains_iff_mem] at standard
    rcases standard with ⟨low, -⟩ | isMark
    · have : (48 : Nat) ≤ c.toNat := low
      omega
    · simp only [List.mem_cons, List.not_mem_nil, or_false] at isMark
      rcases isMark with rfl | rfl | rfl | rfl | rfl | rfl <;> decide
  unfold Json.escapeDisplayed
  rw [if_neg (other rfl), if_neg (other rfl), if_neg (other rfl), if_neg (other rfl),
    if_neg (other rfl), if_neg printable]

theorem flatMap_escapeDisplayed {cs : List Char}
    (standard : ∀ c ∈ cs, Calendar.isStandard c = true) :
    cs.flatMap Json.escapeDisplayed = cs := by
  induction cs with
  | nil => rfl
  | cons c cs ih =>
    have later : ∀ c ∈ cs, Calendar.isStandard c = true :=
      fun c' isIn => standard c' (List.mem_cons_of_mem c isIn)
    rw [List.flatMap_cons, escapeDisplayed_of_isStandard (standard c List.mem_cons_self), ih later,
      List.singleton_append]

theorem listed_intercalate {α β : Type} {spelled : List Char → β → Prop} {text : α → List Char}
    {tree : α → β} {xs : List α} (some : xs ≠ [])
    (each : ∀ x ∈ xs, spelled (text x) (tree x)) :
    Listed (Padded spelled) ([','].intercalate (xs.map text)) (xs.map tree) := by
  induction xs with
  | nil => exact absurd rfl some
  | cons x xs ih =>
    have first := Padded.bare (each x List.mem_cons_self)
    cases xs with
    | nil =>
      rw [List.map_cons, List.map_nil, List.intercalate_singleton]
      exact .last first
    | cons y xs =>
      have others := ih (List.cons_ne_nil y xs) fun z isIn => each z (List.mem_cons_of_mem x isIn)
      rw [List.map_cons, List.map_cons, List.intercalate_cons_cons, List.append_assoc,
        List.singleton_append]
      exact .more first others

theorem compactItems_eq (items : List Value) :
    compactItems items = [','].intercalate (items.map compact) := by
  induction items with
  | nil => rfl
  | cons v vs ih =>
    cases vs with
    | nil => exact List.intercalate_singleton.symm
    | cons w vs => simp [compactItems, ih, List.intercalate_cons_cons]

theorem writtenItems_eq (items : List Value) :
    writtenItems items = [','].intercalate (items.map written) := by
  induction items with
  | nil => rfl
  | cons v vs ih =>
    cases vs with
    | nil => exact List.intercalate_singleton.symm
    | cons w vs => simp [writtenItems, ih, List.intercalate_cons_cons]

/-- The text of an entry under a way to write values and to escape characters. -/
def entryText (text : Value → List Char) (escape : Char → List Char) (e : String × Value) :
    List Char := Json.quoted escape e.1 ++ ':' :: text e.2

theorem compactEntries_eq (entries : List (String × Value)) :
    compactEntries entries =
      [','].intercalate (entries.map (entryText compact Json.escapeDisplayed)) := by
  induction entries with
  | nil => rfl
  | cons e es ih =>
    cases es with
    | nil => exact List.intercalate_singleton.symm
    | cons f es => simp [compactEntries, ih, List.intercalate_cons_cons, entryText]

theorem writtenEntries_eq (entries : List (String × Value)) :
    writtenEntries entries =
      [','].intercalate (entries.map (entryText written Json.escapeWritten)) := by
  induction entries with
  | nil => rfl
  | cons e es ih =>
    cases es with
    | nil => exact List.intercalate_singleton.symm
    | cons f es => simp [writtenEntries, ih, List.intercalate_cons_cons, entryText]

/-- Stated apart, because unfolding here must stop in front of the text of the date. -/
theorem written_date (d : Calendar.Date) :
    written (.date d) = Json.quoted Json.escapeWritten d.isoText := by
  delta written
  rfl

theorem written_string (s : String) : Json.written (.string s) = Json.quoted Json.escapeWritten s := by
  rw [Json.written]

/-- The tree of a number is written as the number is. -/
theorem written_numberTree (x : Float) :
    (numberTree x).written = (Number.toJson x).toList := by
  unfold numberTree Number.toJson
  cases read : Number.read x with
  | nan => rfl
  | infinite negative => rfl
  | finite negative m e =>
    dsimp only
    split
    next whole =>
      rw [Json.written]
      by_cases signed : negative = true ∧ (Number.splitWhole m e).1 ≠ 0
      · have : (negative && (Number.splitWhole m e).1 != 0) = true := by simp [signed]
        rw [if_pos this, if_pos signed.1]
        rfl
      · have : ¬ (negative && (Number.splitWhole m e).1 != 0) = true := by simpa using signed
        rw [if_neg this]
        cases negative with
        | false => rfl
        | true =>
          have zero : (Number.splitWhole m e).1 = 0 := by simpa using signed
          rw [if_pos rfl, zero]
          rfl
    next fraction =>
      have some : m ≠ 0 := by
        rintro rfl
        refine fraction ?_
        unfold Number.splitWhole
        split <;> simp [Number.exactLimit]
      rw [Json.written, Json.Numeral.text, read]
      dsimp only
      rw [if_neg some]

mutual
theorem written_toJson : ∀ v : Value, (toJson v).written = v.written
  | .null | .lambda _ => rfl
  | .bool _ => rfl
  | .number x => written_numberTree x
  | .string s => rfl
  | .date d => (written_string d.isoText).trans (written_date d).symm
  | .regex pattern flags => by
    have first : Json.quoted Json.escapeWritten "pattern" = "\"pattern\"".toList := by decide
    have second : Json.quoted Json.escapeWritten "flags" = "\"flags\"".toList := by decide
    change '\x7b' :: (Json.quoted Json.escapeWritten "pattern" ++
        ':' :: Json.quoted Json.escapeWritten pattern ++
          ',' :: (Json.quoted Json.escapeWritten "flags" ++
            ':' :: Json.quoted Json.escapeWritten flags)) ++ ['\x7d'] =
      "\x7b\"pattern\":".toList ++ Json.quoted Json.escapeWritten pattern ++
        ",\"flags\":".toList ++ Json.quoted Json.escapeWritten flags ++ ['\x7d']
    rw [first, second]
    simp
  | .array items => by
    change '[' :: Json.writtenItems (toJsonItems items) ++ [']'] = '[' :: writtenItems items ++ [']']
    rw [writtenItems_toJson items]
  | .object entries => by
    change '\x7b' :: Json.writtenMembers (toJsonEntries entries) ++ ['\x7d'] =
      '\x7b' :: writtenEntries entries ++ ['\x7d']
    rw [writtenMembers_toJson entries]

theorem writtenItems_toJson :
    ∀ items : List Value, Json.writtenItems (toJsonItems items) = writtenItems items
  | [] => rfl
  | [v] => written_toJson v
  | v :: w :: vs => by
    change (toJson v).written ++ ',' :: Json.writtenItems (toJsonItems (w :: vs)) =
      written v ++ ',' :: writtenItems (w :: vs)
    rw [written_toJson v, writtenItems_toJson (w :: vs)]

theorem writtenMembers_toJson : ∀ entries : List (String × Value),
    Json.writtenMembers (toJsonEntries entries) = writtenEntries entries
  | [] => rfl
  | [(k, v)] => by
    change Json.quoted Json.escapeWritten k ++ ':' :: (toJson v).written =
      Json.quoted Json.escapeWritten k ++ ':' :: written v
    rw [written_toJson v]
  | (k, v) :: e :: es => by
    change Json.quoted Json.escapeWritten k ++ ':' :: (toJson v).written ++
        ',' :: Json.writtenMembers (toJsonEntries (e :: es)) =
      Json.quoted Json.escapeWritten k ++ ':' :: written v ++ ',' :: writtenEntries (e :: es)
    rw [written_toJson v, writtenMembers_toJson (e :: es)]
end

/-- A way to write values as documents: how numbers are written and characters are escaped, and
what follows from that. Of regexes nothing is asked. -/
structure Writer (text : Value → List Char) (number : Float → String)
    (escape : Char → List Char) : Prop where
  escapes : ∀ pairs c, Piece pairs (escape c) c
  null : text .null = "null".toList
  lambda : ∀ f, text (.lambda f) = "null".toList
  bool : ∀ b, text (.bool b) = (if b then "true" else "false").toList
  number : ∀ x, text (.number x) = (if Number.isFinite x then number x else "null").toList
  string : ∀ s, text (.string s) = Json.quoted escape s
  date : ∀ d, text (.date d) = Json.quoted escape d.isoText
  array : ∀ items, text (.array items) = '[' :: ([','].intercalate (items.map text) ++ [']'])
  object : ∀ entries, text (.object entries) =
    '\x7b' :: ([','].intercalate (entries.map (entryText text escape)) ++ ['\x7d'])

theorem compact_writer : Writer compact Number.toText Json.escapeDisplayed where
  escapes := piece_escapeDisplayed
  null := rfl
  lambda _ := rfl
  bool _ := rfl
  number _ := rfl
  string _ := rfl
  date d := by
    rw [compact, Json.quoted, flatMap_escapeDisplayed (Calendar.isStandard_isoText d)]
  array items := by rw [compact, compactItems_eq, List.cons_append]
  object entries := by rw [compact, compactEntries_eq, List.cons_append]

theorem written_writer : Writer written Number.toJson Json.escapeWritten where
  escapes := piece_escapeWritten
  null := rfl
  lambda _ := rfl
  bool _ := rfl
  number x := by
    unfold written Number.isFinite Number.toJson
    cases Number.read x <;> rfl
  string _ := rfl
  date := written_date
  array items := by
    change '[' :: writtenItems items ++ [']'] = _
    rw [writtenItems_eq, List.cons_append]
  object entries := by
    change '\x7b' :: writtenEntries entries ++ ['\x7d'] = _
    rw [writtenEntries_eq, List.cons_append]

section
variable {text : Value → List Char} {number : Float → String} {escape : Char → List Char}
  (writer : Writer text number escape) {dialect : Dialect}
include writer

theorem Writer.content (s : String) :
    Content dialect.pairs (s.toList.flatMap escape) s.toList :=
  content_flatMap (writer.escapes dialect.pairs) s.toList

theorem Writer.scalar {v : Value} (noContainer : v.isContainer = false)
    (noRegex : ∀ pattern flags, v ≠ .regex pattern flags)
    (spelled : ∀ x, v = .number x → Number.isFinite x = true →
      dialect.number (number x).toList (Number.plainZero x)) :
    Scalar dialect (text v) v.document := by
  cases v with
  | null =>
    rw [writer.null]
    exact .null
  | lambda f =>
    rw [writer.lambda]
    exact .null
  | bool b =>
    rw [writer.bool]
    cases b with
    | true => exact .yes
    | false => exact .no
  | number x =>
    rw [writer.number, document]
    split
    next finite => exact .number (spelled x rfl finite)
    next => exact .null
  | string s =>
    rw [writer.string]
    exact .string (writer.content s)
  | date d =>
    rw [writer.date]
    exact .string (writer.content d.isoText)
  | array | object => cases noContainer
  | regex pattern flags => exact absurd rfl (noRegex pattern flags)

/-- What is written spells the document of the value. -/
theorem Writer.spells {depth : Nat} {v : Value} (nests : v.NestsWithin depth)
    (noRegex : ∀ pattern flags, ¬ Inside parts v (.regex pattern flags))
    (spelled : ∀ x, Inside parts v (.number x) → Number.isFinite x = true →
      dialect.number (number x).toList (Number.plainZero x)) :
    Spells dialect depth (text v) v.document := by
  induction depth generalizing v with
  | zero =>
    refine writer.scalar nests (fun pattern flags same => ?_) fun x same => ?_
    · exact noRegex pattern flags (same ▸ .whole)
    · exact spelled x (same ▸ .whole)
  | succ depth ih =>
    have below : ∀ part ∈ v.parts, Spells dialect depth (text part) part.document := by
      intro part isPart
      exact ih (nests part isPart)
        (fun pattern flags inside => noRegex pattern flags (.of_part isPart inside))
        fun x inside => spelled x (.of_part isPart inside)
    by_cases container : v.isContainer = false
    · refine .scalar (writer.scalar container (fun pattern flags same => ?_) fun x same => ?_)
      · exact noRegex pattern flags (same ▸ .whole)
      · exact spelled x (same ▸ .whole)
    · cases v with
      | array items =>
        rw [writer.array, document, documentItems_eq_map]
        by_cases empty : items = []
        · subst empty
          exact .noItems .nil
        · exact .array (listed_intercalate empty below)
      | object entries =>
        rw [writer.object, document, documentEntries_eq_map]
        by_cases empty : entries = []
        · subst empty
          exact .noMembers .nil
        · refine .object (listed_intercalate empty fun e isIn => ?_)
          have value := below e.2 (List.mem_map.mpr ⟨e, isIn, rfl⟩)
          have named := @Writer.content _ _ _ writer dialect e.1
          have entry := Keyed.mk named Blank.nil Blank.nil value
          simpa [entryText, Json.quoted, documentEntry] using entry
      | _ => exact absurd rfl container

end

/-- Both texts of every finite number in the value read as that number; negative zero, which has
the texts of zero, is left out. -/
def NumbersReadBack (v : Value) : Prop :=
  ∀ x, Inside parts v (.number x) → Number.isFinite x = true → x ≠ -0.0 →
    readJson? (Number.toText x) = some (.number x) ∧
      readJson? (Number.toJson x) = some (.number x)

/-- The text of both zeros is `0`; other numbers are left to the dialect. -/
theorem number_plainZero {dialect : Dialect} (zero : dialect.number ['0'] 0.0)
    {text : Float → String} {x : Float}
    (ofZero : ∀ negative e, Number.read x = .finite negative 0 e → text x = "0")
    (other : x ≠ -0.0 → dialect.number (text x).toList x) :
    dialect.number (text x).toList (Number.plainZero x) := by
  unfold Number.plainZero
  split
  next read =>
    rw [ofZero _ _ read]
    exact zero
  next some =>
    refine other ?_
    rintro rfl
    exact some true (-1074) rfl

theorem standard_zero : Json.standard.number ['0'] 0.0 :=
  ⟨false, ['0'], .natural 0, rfl, rfl, rfl⟩

theorem standard_number {text : Float → String} {x : Float}
    (numeral : Number.SignedNumeral (text x).toList)
    (ofZero : ∀ negative e, Number.read x = .finite negative 0 e → text x = "0")
    (back : x ≠ -0.0 → readJson? (text x) = some (.number x)) :
    Json.standard.number (text x).toList (Number.plainZero x) :=
  number_plainZero standard_zero ofZero fun other =>
    Json.number_of_readJson? numeral (back other)

theorem toText_of_zero {x : Float} {negative : Bool} {e : Int}
    (zero : Number.read x = .finite negative 0 e) : Number.toText x = "0" := by
  rw [Number.toText, zero]
  rfl

theorem toJson_of_zero {x : Float} {negative : Bool} {e : Int}
    (zero : Number.read x = .finite negative 0 e) : Number.toJson x = "0" := by
  have whole : Number.splitWhole 0 e = (0, false) := by
    unfold Number.splitWhole
    split <;> simp
  rw [Number.toJson, zero]
  dsimp only
  rw [whole]
  cases negative <;> rfl

/-- The text of a value as a document is that of its tree. Without regexes it is read as the same
value as the display text is, and a value of the kinds that documents have is read back. -/
theorem documents_agree (v : Value) :
    v.writeJson = v.toJson.write ∧
      (v.NestsWithin 127 → (∀ pattern flags, ¬ Inside parts v (.regex pattern flags)) →
        v.NumbersReadBack →
          ∃ w, readJson? (String.ofList v.compact) = some w ∧ readJson? v.writeJson = some w ∧
            readJson? v.toJson.write = some w ∧
            (v.IsDocument → v.DistinctKeys → v.SameAs w ∧ v.strictEq w = true)) := by
  have same : v.writeJson = v.toJson.write := by
    rw [writeJson, Json.write, written_toJson]
  refine ⟨same, fun nests noRegex back => ⟨ofJson v.document, ?_⟩⟩
  have displayed : readJson? (String.ofList v.compact) = some (ofJson v.document) := by
    refine Json.readJson?_of_spells (.bare (compact_writer.spells nests noRegex ?_))
    intro x inside finite
    exact standard_number (Number.toText_signedNumeral finite)
      (fun _ _ => toText_of_zero) fun other => (back x inside finite other).1
  have document : readJson? v.writeJson = some (ofJson v.document) := by
    refine Json.readJson?_of_spells (.bare (written_writer.spells nests noRegex ?_))
    intro x inside finite
    exact standard_number (Number.toJson_signedNumeral finite)
      (fun _ _ => toJson_of_zero) fun other => (back x inside finite other).2
  refine ⟨displayed, document, same ▸ document, fun isDocument distinct => ?_⟩
  have equal := sameAs_document isDocument distinct
  exact ⟨equal, equal.strictEq distinct⟩

/-- A key and a text with characters that are escaped, a fraction, and zero with a sign. -/
def sample : Value :=
  .object [("k\n", .array [.number 0.1, .number (-0.0), .string "\"\x08"])]

theorem sample_parts {part : Value} (inside : Inside parts sample part) :
    part = sample ∨ part = .array [.number 0.1, .number (-0.0), .string "\"\x08"] ∨
      part = .number 0.1 ∨ part = .number (-0.0) ∨ part = .string "\"\x08" := by
  rcases inside.cases_part with rfl | ⟨list, isIn, inside⟩
  · exact .inl rfl
  cases List.mem_singleton.mp isIn
  rcases inside.cases_part with rfl | ⟨leaf, isIn, inside⟩
  · exact .inr (.inl rfl)
  simp only [parts, List.mem_cons, List.not_mem_nil, or_false] at isIn
  rcases isIn with rfl | rfl | rfl
  all_goals
    rcases inside.cases_part with rfl | ⟨_, isIn, -⟩
    · simp
    · cases isIn

theorem nestsWithin_of_leaf {v : Value} (leaf : v.isContainer = false) (depth : Nat) :
    v.NestsWithin depth := by
  cases depth with
  | zero => exact leaf
  | succ depth =>
    intro part isPart
    cases v <;> cases leaf <;> cases isPart

theorem sample_nestsWithin (depth : Nat) : sample.NestsWithin (depth + 2) := by
  intro list isIn
  cases List.mem_singleton.mp isIn
  intro leaf isIn
  simp only [parts, List.mem_cons, List.not_mem_nil, or_false] at isIn
  rcases isIn with rfl | rfl | rfl <;> exact nestsWithin_of_leaf rfl depth

theorem sample_isDocument : sample.IsDocument := by
  intro part inside
  rcases sample_parts inside with rfl | rfl | rfl | rfl | rfl <;> rfl

theorem sample_distinctKeys : sample.DistinctKeys := by
  intro entries inside
  rcases sample_parts inside with h | h | h | h | h <;> cases h
  decide

/-- Escaped characters, a fraction and a negative zero are read back alike from all texts. -/
theorem sample_read_back :
    sample.NestsWithin 127 ∧ (∀ pattern flags, ¬ Inside parts sample (.regex pattern flags)) ∧
      sample.NumbersReadBack ∧ sample.IsDocument ∧ sample.DistinctKeys ∧
      sample.writeJson = sample.toJson.write ∧
      ∃ w, readJson? (String.ofList sample.compact) = some w ∧
        readJson? sample.writeJson = some w ∧ readJson? sample.toJson.write = some w ∧
        sample.SameAs w ∧ sample.strictEq w = true := by
  have nests : sample.NestsWithin 127 := sample_nestsWithin 125
  have noRegex : ∀ pattern flags, ¬ Inside parts sample (.regex pattern flags) := by
    intro pattern flags inside
    rcases sample_parts inside with h | h | h | h | h <;> cases h
  have back : sample.NumbersReadBack := by
    intro x inside finite other
    rcases sample_parts inside with h | h | h | h | h <;> cases h
    · exact ⟨by rfl, by rfl⟩
    · exact absurd rfl other
  obtain ⟨same, reads⟩ := documents_agree sample
  obtain ⟨w, displayed, document, tree, equal⟩ := reads nests noRegex back
  exact ⟨nests, noRegex, back, sample_isDocument, sample_distinctKeys, same, w, displayed,
    document, tree, equal sample_isDocument sample_distinctKeys⟩

end DocExpr.Value
