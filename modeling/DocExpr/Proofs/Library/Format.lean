import DocExpr.Library.Format
import DocExpr.Proofs.Lexer.Lookahead

/-! Texts with placeholders, cut into pieces. A placeholder without a position takes the next
argument in order, one with a position the argument there; what takes no argument is copied. The
positions zero and `2 ^ 64` and beyond are taken for no position at all. -/
namespace DocExpr.Library
open Number (Digits natOfDigits)

/-- A placeholder as it is written. -/
structure Slot where
  /-- The characters behind the percent sign. -/
  text : List Char
  /-- The position in front of the dollar sign, if there is one. -/
  number : Option Nat
  precision : Option Nat
  conversion : Conversion

/-- Nothing, or digits and a dollar sign. -/
inductive PositionMark : List Char → Option Nat → Prop where
  | none : PositionMark [] none
  | mark {digits : List Char} (isDigits : Digits digits) :
      PositionMark (digits ++ ['$']) (some (natOfDigits digits))

/-- Nothing, or a point and perhaps digits. -/
inductive PrecisionMark : List Char → Option Nat → Prop where
  | none : PrecisionMark [] none
  | mark {digits : List Char} (all : ∀ c ∈ digits, Number.isDigit c = true) :
      PrecisionMark ('.' :: digits) (smallNumber? digits)

/-- The text of a placeholder: a position, a precision and the letter of a conversion. -/
inductive Slot.Spelled : Slot → Prop where
  | mk {position precision : List Char} {number places : Option Nat} {letter : Char}
      {conversion : Conversion} (isPosition : PositionMark position number)
      (isPrecision : PrecisionMark precision places)
      (isLetter : Conversion.ofLetter? letter = some conversion) :
      Spelled ⟨position ++ (precision ++ [letter]), number, places, conversion⟩

/-- A piece of a format. -/
inductive Piece where
  /-- A character that stands for itself. -/
  | plain (c : Char)
  /-- A percent sign that is written twice. -/
  | percent
  | slot (s : Slot)

/-- A format cut into its pieces. A percent sign stands for itself if neither another one nor a
placeholder follows. -/
inductive Pieces : List Char → List Piece → Prop where
  | nil : Pieces [] []
  | plain {c : Char} {cs : List Char} {ps : List Piece} (other : c ≠ '%') (rest : Pieces cs ps) :
      Pieces (c :: cs) (.plain c :: ps)
  | percent {cs : List Char} {ps : List Piece} (rest : Pieces cs ps) :
      Pieces ('%' :: '%' :: cs) (.percent :: ps)
  | slot {s : Slot} {cs : List Char} {ps : List Piece} (spelled : s.Spelled)
      (rest : Pieces cs ps) : Pieces ('%' :: (s.text ++ cs)) (.slot s :: ps)
  | stray {cs : List Char} {ps : List Piece} (single : '%' ∉ cs.head?)
      (noSlot : ∀ s : Slot, s.Spelled → ¬ s.text <+: cs) (rest : Pieces cs ps) :
      Pieces ('%' :: cs) (.plain '%' :: ps)

/-- A placeholder that takes the next argument. -/
def Piece.takesNext : Piece → Bool
  | .slot s => s.number.isNone
  | _ => false

/-- The argument of a placeholder behind other pieces. The first argument has position one. -/
def Slot.argument? (args : List Value) (before : List Piece) (s : Slot) : Option Value :=
  match s.number with
  | some 0 => none
  | some (n + 1) => args[n]?
  | none => args[before.countP Piece.takesNext]?

/-- A placeholder as it is read. -/
def Slot.placeholder (s : Slot) : Placeholder :=
  ⟨s.number, s.precision, s.conversion, s.text.length⟩

/-- What is written for a piece behind other pieces. -/
def Piece.written (args : List Value) (before : List Piece) : Piece → List Char
  | .plain c => [c]
  | .percent => ['%']
  | .slot s =>
    match s.argument? args before with
    | some v => s.placeholder.write v
    | none => '%' :: s.text

/-- A placeholder behind other pieces asks for more digits of a finite number than it can. -/
def Slot.Overlong (args : List Value) (before : List Piece) (s : Slot) : Prop :=
  s.conversion = .fraction ∧ ∃ places v, s.precision = some places ∧ mostPlaces < places ∧
    s.argument? args before = some v ∧ Number.isFinite v.toNumber = true

/-- One of the placeholders does. -/
def BreaksOff (args : List Value) (ps : List Piece) : Prop :=
  ∃ front s back, ps = front ++ .slot s :: back ∧ s.Overlong args front

/-- What is written for all pieces. -/
def filled (args : List Value) (ps : List Piece) : List Char :=
  ps.zipIdx.flatMap fun (p, i) => p.written args (ps.take i)

/-- A position that a placeholder cannot have is no position. -/
def Slot.addressed (s : Slot) : Slot :=
  { s with number := s.number.filter fun n => 0 < n && n < Nat.pow 2 64 }

/-- A piece with the position that is read. -/
def Piece.addressed : Piece → Piece
  | .slot s => .slot s.addressed
  | p => p

theorem noMark_of_ofLetter? {c : Char} {conversion : Conversion}
    (isLetter : Conversion.ofLetter? c = some conversion) :
    Number.isDigit c = false ∧ c ≠ '.' ∧ c ≠ '%' := by
  unfold Conversion.ofLetter? at isLetter
  split at isLetter
  case h_6 => cases isLetter
  all_goals exact ⟨rfl, by decide, by decide⟩

/-- Behind a position stands what is no digit: a point or the letter of a conversion. -/
theorem PrecisionMark.noDigit {precision : List Char} {places : Option Nat} {letter : Char}
    {conversion : Conversion} (isPrecision : PrecisionMark precision places)
    (isLetter : Conversion.ofLetter? letter = some conversion) (rest : List Char) :
    Json.NoDigit (precision ++ letter :: rest) := by
  cases isPrecision with
  | none =>
    rintro _ ⟨⟩
    exact (noMark_of_ofLetter? isLetter).1
  | mark =>
    rintro _ ⟨⟩
    rfl

theorem spanPosition_mark {position rest : List Char} {number : Option Nat}
    (isPosition : PositionMark position number) (ends : Json.NoDigit rest) :
    spanPosition (position ++ rest) =
      (number.filter fun n => 0 < n && n < Nat.pow 2 64, position.length, rest) := by
  unfold spanPosition
  cases isPosition with
  | none =>
    rw [List.nil_append, Expr.spanDigits_of_head ends]
    rfl
  | @mark digits isDigits =>
    have dollar : Json.NoDigit ('$' :: rest) := by
      rintro _ ⟨⟩
      rfl
    rw [List.append_assoc, List.singleton_append, Json.spanDigits_digits isDigits.all dollar]
    obtain ⟨d, ds, rfl, -⟩ := isDigits.cons
    by_cases small : natOfDigits (d :: ds) < 18446744073709551616
    · simp [smallNumber?, Option.filter, small]
    · simp [smallNumber?, Option.filter, small]

theorem spanPrecision_mark {precision : List Char} {places : Option Nat} {letter : Char}
    {conversion : Conversion} (isPrecision : PrecisionMark precision places)
    (isLetter : Conversion.ofLetter? letter = some conversion) (rest : List Char) :
    spanPrecision (precision ++ letter :: rest) = (places, precision.length, letter :: rest) := by
  obtain ⟨noDigit, noPoint, -⟩ := noMark_of_ofLetter? isLetter
  unfold spanPrecision
  cases isPrecision with
  | none =>
    rw [List.nil_append]
    split
    next same =>
      cases same
      exact absurd rfl noPoint
    next => rfl
  | @mark digits all =>
    have ends : Json.NoDigit (letter :: rest) := by
      rintro _ ⟨⟩
      exact noDigit
    have span := Json.spanDigits_digits all ends
    rw [List.cons_append]
    simp only [span, List.length_cons]

/-- A placeholder is read from its text whatever follows it. -/
theorem placeholder?_spelled {s : Slot} (spelled : s.Spelled) (rest : List Char) :
    placeholder? (s.text ++ rest) = some s.addressed.placeholder := by
  obtain ⟨isPosition, isPrecision, isLetter⟩ := spelled
  unfold placeholder?
  dsimp only
  rw [List.append_assoc, List.append_assoc, List.singleton_append,
    spanPosition_mark isPosition (isPrecision.noDigit isLetter rest)]
  dsimp only
  rw [spanPrecision_mark isPrecision isLetter]
  dsimp only
  rw [isLetter, Option.map_some, Slot.placeholder, Slot.addressed]
  simp [Nat.add_assoc]

theorem position_of_spanPosition {cs rest : List Char} {position : Option Nat} {width : Nat}
    (h : spanPosition cs = (position, width, rest)) :
    ∃ front number, cs = front ++ rest ∧ PositionMark front number := by
  unfold spanPosition at h
  obtain ⟨digits, behind, rfl, all, ends⟩ := Json.exists_digits cs
  rw [Json.spanDigits_digits all ends] at h
  split at h
  next d ds more found =>
    cases found
    cases h
    exact ⟨(d :: ds) ++ ['$'], _, by simp, .mark ⟨List.cons_ne_nil d ds, all⟩⟩
  next =>
    cases h
    exact ⟨[], none, rfl, .none⟩

theorem precision_of_spanPrecision {cs rest : List Char} {places : Option Nat} {width : Nat}
    (h : spanPrecision cs = (places, width, rest)) :
    ∃ front, cs = front ++ rest ∧ PrecisionMark front places := by
  unfold spanPrecision at h
  split at h
  next more =>
    obtain ⟨digits, behind, rfl, all, ends⟩ := Json.exists_digits more
    rw [Json.spanDigits_digits all ends] at h
    cases h
    exact ⟨'.' :: digits, rfl, .mark all⟩
  next =>
    cases h
    exact ⟨[], rfl, .none⟩

/-- Where a placeholder is read its text stands. -/
theorem spelled_of_placeholder? {cs : List Char} {p : Placeholder} (h : placeholder? cs = some p) :
    ∃ s : Slot, s.Spelled ∧ s.text <+: cs := by
  unfold placeholder? at h
  cases position : spanPosition cs with
  | mk number behind =>
  obtain ⟨width, rest⟩ := behind
  cases precision : spanPrecision rest with
  | mk places behind' =>
  obtain ⟨width', rest'⟩ := behind'
  rw [position] at h
  dsimp only at h
  rw [precision] at h
  dsimp only at h
  obtain ⟨front, number', rfl, isPosition⟩ := position_of_spanPosition position
  obtain ⟨front', rfl, isPrecision⟩ := precision_of_spanPrecision precision
  split at h
  next letter more =>
    obtain ⟨conversion, isLetter, -⟩ := Option.map_eq_some_iff.mp h
    exact ⟨_, .mk isPosition isPrecision isLetter, more, by simp⟩
  next => cases h

theorem Slot.Spelled.noPercent {s : Slot} (spelled : s.Spelled) (rest : List Char) :
    '%' ∉ (s.text ++ rest).head? := by
  obtain ⟨isPosition, isPrecision, isLetter⟩ := spelled
  cases isPosition with
  | none =>
    cases isPrecision with
    | none =>
      rintro ⟨⟩
      exact (noMark_of_ofLetter? isLetter).2.2 rfl
    | mark =>
      rintro ⟨⟩
  | mark isDigits =>
    obtain ⟨d, ds, rfl, digit⟩ := isDigits.cons
    rintro ⟨⟩
    cases digit

theorem PositionMark.unique {position : List Char} {number number' : Option Nat}
    (isPosition : PositionMark position number) (isPosition' : PositionMark position number') :
    number = number' := by
  generalize same : position = position' at isPosition'
  cases isPosition with
  | none =>
    cases isPosition' with
    | none => rfl
    | mark => simp at same
  | mark =>
    cases isPosition' with
    | none => simp at same
    | mark => rw [(List.append_inj' same rfl).1]

/-- No text starts with two placeholders. -/
theorem Slot.Spelled.unique {s s' : Slot} {rest rest' : List Char} (spelled : s.Spelled)
    (spelled' : s'.Spelled) (same : s.text ++ rest = s'.text ++ rest') : s = s' ∧ rest = rest' := by
  obtain ⟨isPosition, isPrecision, isLetter⟩ := spelled
  obtain ⟨isPosition', isPrecision', isLetter'⟩ := spelled'
  simp only [List.append_assoc, List.singleton_append] at same
  have span := spanPosition_mark isPosition (isPrecision.noDigit isLetter rest)
  have span' := spanPosition_mark isPosition' (isPrecision'.noDigit isLetter' rest')
  rw [same, span'] at span
  simp only [Prod.mk.injEq] at span
  obtain ⟨rfl, behind⟩ := List.append_inj same span.2.1.symm
  have width := spanPrecision_mark isPrecision isLetter rest
  have width' := spanPrecision_mark isPrecision' isLetter' rest'
  rw [behind, width'] at width
  simp only [Prod.mk.injEq, List.cons.injEq] at width
  obtain ⟨rfl, length, rfl, rfl⟩ := width
  cases isLetter.symm.trans isLetter'
  obtain ⟨rfl, -⟩ := List.append_inj behind length.symm
  rw [isPosition.unique isPosition']
  exact ⟨rfl, rfl⟩

/-- Every format has pieces. -/
theorem exists_pieces (cs : List Char) : ∃ ps, Pieces cs ps := by
  induction length : cs.length using Nat.strongRecOn generalizing cs with
  | _ n ih =>
  cases cs with
  | nil => exact ⟨[], .nil⟩
  | cons c cs =>
    have shorter {more : List Char} (suffix : more <:+ cs) : ∃ ps, Pieces more ps := by
      refine ih more.length ?_ more rfl
      rw [← length, List.length_cons]
      exact Nat.lt_succ_of_le suffix.length_le
    obtain ⟨ps, pieces⟩ := shorter (List.suffix_refl cs)
    by_cases percent : c = '%'
    · subst percent
      by_cases twice : '%' ∈ cs.head?
      · obtain ⟨more, rfl⟩ : ∃ more, cs = '%' :: more := List.head?_eq_some_iff.mp twice
        obtain ⟨ps, pieces⟩ := shorter (List.suffix_cons '%' more)
        exact ⟨_, .percent pieces⟩
      · by_cases slot : ∃ s : Slot, s.Spelled ∧ s.text <+: cs
        · obtain ⟨s, spelled, more, rfl⟩ := slot
          obtain ⟨ps, pieces⟩ := shorter (List.suffix_append s.text more)
          exact ⟨_, .slot spelled pieces⟩
        · exact ⟨_, .stray twice (fun s spelled starts => slot ⟨s, spelled, starts⟩) pieces⟩
    · exact ⟨_, .plain percent pieces⟩

/-- What a percent sign in front is: one of two, the start of a placeholder or itself. -/
theorem Pieces.percent_cases {cs : List Char} {ps : List Piece} (pieces : Pieces ('%' :: cs) ps) :
    (∃ rest qs, cs = '%' :: rest ∧ ps = .percent :: qs ∧ Pieces rest qs) ∨
    (∃ (s : Slot) (rest : List Char) (qs : List Piece), s.Spelled ∧ cs = s.text ++ rest ∧
      ps = .slot s :: qs ∧ Pieces rest qs) ∨
    ∃ qs, '%' ∉ cs.head? ∧ (∀ s : Slot, s.Spelled → ¬ s.text <+: cs) ∧
      ps = .plain '%' :: qs ∧ Pieces cs qs := by
  generalize text : '%' :: cs = t at pieces
  cases pieces with
  | nil => cases text
  | plain other =>
    cases text
    exact absurd rfl other
  | percent rest => exact .inl ⟨_, _, (List.cons.inj text).2, rfl, rest⟩
  | slot spelled rest => exact .inr (.inl ⟨_, _, _, spelled, (List.cons.inj text).2, rfl, rest⟩)
  | stray single noSlot rest =>
    cases text
    exact .inr (.inr ⟨_, single, noSlot, rfl, rest⟩)

/-- A format has one list of pieces. -/
theorem Pieces.unique {cs : List Char} {ps qs : List Piece} (pieces : Pieces cs ps)
    (pieces' : Pieces cs qs) : ps = qs := by
  induction pieces generalizing qs with
  | nil =>
    cases pieces'
    rfl
  | plain other rest ih =>
    cases pieces' with
    | plain _ rest' => rw [ih rest']
    | percent => exact absurd rfl other
    | slot => exact absurd rfl other
    | stray => exact absurd rfl other
  | percent rest ih =>
    rcases pieces'.percent_cases with
      ⟨_, _, same, rfl, rest'⟩ | ⟨s, more, _, spelled, same, -⟩ | ⟨_, single, -⟩
    · cases same
      rw [ih rest']
    · exact absurd (same ▸ rfl) (spelled.noPercent more)
    · exact absurd rfl single
  | @slot s cs _ spelled rest ih =>
    rcases pieces'.percent_cases with
      ⟨_, _, same, -⟩ | ⟨s', more, _, spelled', same, rfl, rest'⟩ | ⟨_, -, noSlot, -⟩
    · exact absurd (same ▸ rfl) (spelled.noPercent cs)
    · obtain ⟨rfl, rfl⟩ := spelled.unique spelled' same
      rw [ih rest']
    · exact absurd (List.prefix_append _ _) (noSlot s spelled)
  | stray single noSlot rest ih =>
    rcases pieces'.percent_cases with
      ⟨_, _, rfl, -⟩ | ⟨s, more, _, spelled, rfl, -⟩ | ⟨_, -, -, rfl, rest'⟩
    · exact absurd rfl single
    · exact absurd (List.prefix_append _ _) (noSlot s spelled)
    · rw [ih rest']

theorem formatFrom_skip (args : List Value) (front rest : List Char) (used : Nat) :
    formatFrom args front.length used (front ++ rest) = formatFrom args 0 used rest := by
  induction front with
  | nil => rfl
  | cons c front ih =>
    rw [List.length_cons, List.cons_append, formatFrom]
    exact ih

/-- What is written for pieces behind others. -/
def filledBehind (args : List Value) (before ps : List Piece) : List Char :=
  (ps.zipIdx before.length).flatMap fun (p, i) => p.written args ((before ++ ps).take i)

theorem filledBehind_cons (args : List Value) (before : List Piece) (p : Piece)
    (ps : List Piece) : filledBehind args before (p :: ps) =
      p.written args before ++ filledBehind args (before ++ [p]) ps := by
  simp [filledBehind]

/-- Breaks off where a piece behind others asks for too much. -/
def Piece.check (args : List Value) (before : List Piece) : Piece → Except EvalError Unit
  | .slot s =>
    match s.argument? args before with
    | some v => s.placeholder.check v
    | none => .ok ()
  | _ => .ok ()

/-- Writes pieces behind others, each one after its check. -/
def fill (args : List Value) (before : List Piece) : List Piece → Except EvalError (List Char)
  | [] => .ok []
  | p :: ps => do
    p.check args before
    (fill args (before ++ [p]) ps).map (p.written args before ++ ·)

/-- A placeholder takes the argument at its position, or else the next one in order. -/
theorem formatFrom_slot {s : Slot} (spelled : s.Spelled) (args : List Value)
    (before : List Piece) (cs : List Char) :
    formatFrom args 0 (before.countP Piece.takesNext) ('%' :: (s.text ++ cs)) = (do
      (Piece.slot s.addressed).check args before
      (formatFrom args 0 ((before ++ [Piece.slot s.addressed]).countP Piece.takesNext) cs).map
        ((Piece.slot s.addressed).written args before ++ ·)) := by
  have front : (s.text ++ cs).take s.addressed.placeholder.width = s.text := List.take_left
  have skip (used : Nat) : formatFrom args s.addressed.placeholder.width used (s.text ++ cs) =
      formatFrom args 0 used cs := formatFrom_skip args s.text cs used
  have position : s.addressed.placeholder.position = s.addressed.number := rfl
  rw [formatFrom, if_neg (by simp), if_neg (by exact spelled.noPercent cs),
    placeholder?_spelled spelled, List.countP_append, List.countP_singleton]
  dsimp only
  rw [front, position, Piece.check, Piece.written, Slot.argument?, Piece.takesNext]
  simp only [skip]
  cases address : s.addressed.number with
  | none =>
    dsimp only
    cases args[before.countP Piece.takesNext]? with
    | none => rfl
    | some v => rfl
  | some n =>
    obtain ⟨n, rfl⟩ : ∃ m, n = m + 1 := by
      refine ⟨n - 1, ?_⟩
      have valid := (Option.filter_eq_some_iff.mp address).2
      simp only [Bool.and_eq_true, decide_eq_true_eq] at valid
      omega
    dsimp only
    rw [Nat.add_sub_cancel]
    cases args[n]? with
    | none => rfl
    | some v => rfl

theorem formatFrom_pieces {args : List Value} {cs : List Char} {ps : List Piece}
    (pieces : Pieces cs ps) (before : List Piece) :
    formatFrom args 0 (before.countP Piece.takesNext) cs =
      fill args before (ps.map Piece.addressed) := by
  induction pieces generalizing before with
  | nil => rfl
  | plain other rest ih =>
    rw [formatFrom, if_pos other, List.map_cons, fill, ← ih]
    simp [Piece.addressed, Piece.check, Piece.written, Piece.takesNext]
    rfl
  | percent rest ih =>
    rw [formatFrom, if_neg (by simp), List.head?_cons, if_pos rfl, formatFrom, List.map_cons,
      fill, ← ih]
    simp [Piece.addressed, Piece.check, Piece.written, Piece.takesNext]
    rfl
  | @stray cs ps single noSlot rest ih =>
    have none : placeholder? cs = none := by
      cases read : placeholder? cs with
      | none => rfl
      | some p =>
        obtain ⟨s, spelled, starts⟩ := spelled_of_placeholder? read
        exact absurd starts (noSlot s spelled)
    rw [formatFrom, if_neg (by simp), if_neg (by exact single), none, List.map_cons, fill, ← ih]
    simp [Piece.addressed, Piece.check, Piece.written, Piece.takesNext]
    rfl
  | slot spelled rest ih =>
    rw [formatFrom_slot spelled, ih, List.map_cons, fill]
    rfl

section
variable (args : List Value) (before : List Piece)

/-- The check of a piece fails exactly where a placeholder asks for more than it can. -/
theorem Piece.check_cases (p : Piece) :
    (p.check args before = .ok () ∧ ∀ s, p = .slot s → ¬ s.Overlong args before) ∨
      (∃ s, p = .slot s ∧ s.Overlong args before) ∧ ∃ places, mostPlaces < places ∧
        p.check args before = .error (.badType (.tooManyPlaces places)) := by
  cases p with
  | plain | percent => exact .inl ⟨rfl, nofun⟩
  | slot s =>
    by_cases overlong : s.Overlong args before
    · refine .inr ⟨⟨s, rfl, overlong⟩, ?_⟩
      obtain ⟨fraction, places, v, precision, many, given, finite⟩ := overlong
      refine ⟨places, many, ?_⟩
      simp [check, given, Placeholder.check, Slot.placeholder, fraction, precision, many, finite]
    · refine .inl ⟨?_, fun _ same => by cases same; exact overlong⟩
      rw [check]
      cases given : s.argument? args before with
      | none => rfl
      | some v =>
        dsimp only
        unfold Placeholder.check
        split
        next places fraction precision =>
          refine if_neg fun asks => ?_
          simp only [Bool.and_eq_true, decide_eq_true_eq] at asks
          exact overlong ⟨fraction, places, v, precision, asks.1, given, asks.2⟩
        next => rfl

theorem fill_ok {ps : List Piece}
    (short : ∀ front s back, ps = front ++ .slot s :: back → ¬ s.Overlong args (before ++ front)) :
    fill args before ps = .ok (filledBehind args before ps) := by
  induction ps generalizing before with
  | nil => rfl
  | cons p ps ih =>
    have rest := ih (before ++ [p]) fun front s back same => by
      rw [List.append_assoc]
      exact short (p :: front) s back (by rw [same, List.cons_append])
    obtain ⟨first, -⟩ | ⟨⟨s, rfl, overlong⟩, -⟩ := p.check_cases args before
    · rw [fill, first, filledBehind_cons, rest]
      rfl
    · exact absurd (by rwa [List.append_nil]) (short [] s ps rfl)

theorem fill_error {ps front back : List Piece} {s : Slot} (whole : ps = front ++ .slot s :: back)
    (overlong : s.Overlong args (before ++ front)) :
    ∃ places, mostPlaces < places ∧
      fill args before ps = .error (.badType (.tooManyPlaces places)) := by
  induction front generalizing before ps with
  | nil =>
    subst whole
    rw [List.append_nil] at overlong
    obtain ⟨-, short⟩ | ⟨-, places, many, breaks⟩ := (Piece.slot s).check_cases args before
    · exact absurd overlong (short s rfl)
    · refine ⟨places, many, ?_⟩
      rw [List.nil_append, fill, breaks]
      rfl
  | cons p front ih =>
    subst whole
    rw [List.cons_append, fill]
    obtain ⟨first, -⟩ | ⟨-, places, many, breaks⟩ := p.check_cases args before
    · obtain ⟨places, many, stops⟩ := ih (before ++ [p]) rfl (by simpa using overlong)
      refine ⟨places, many, ?_⟩
      rw [first, stops]
      rfl
    · refine ⟨places, many, ?_⟩
      rw [breaks]
      rfl

end

/-- A placeholder with a position that none can have. -/
def Slot.Misnumbered (s : Slot) : Prop := ∃ n, s.number = some n ∧ (n = 0 ∨ Nat.pow 2 64 ≤ n)

theorem Slot.addressed_eq {s : Slot} (numbered : ¬ s.Misnumbered) : s.addressed = s := by
  obtain ⟨text, number, precision, conversion⟩ := s
  cases number with
  | none => rfl
  | some n =>
    have pos : 0 < n := Nat.pos_of_ne_zero fun zero => numbered ⟨n, rfl, .inl zero⟩
    have small : n < 18446744073709551616 :=
      Nat.lt_of_not_le fun large => numbered ⟨n, rfl, .inr large⟩
    simp [Slot.addressed, Option.filter, pos, small]

/-- A format is filled piece by piece. It has one list of pieces; the placeholders without a
position take the arguments in order, those with a position the argument there and none that is in
order, and all else is copied. A placeholder with a position that none can have is taken for one
without a position, and the evaluation breaks off where a placeholder asks for more digits behind
the point than it can. -/
theorem format_filled (text : String) (args : List Value) :
    ∃ ps, Pieces text.toList ps ∧ (∀ qs, Pieces text.toList qs → qs = ps) ∧
      (¬ BreaksOff args (ps.map Piece.addressed) →
        format text args = .ok (String.ofList (filled args (ps.map Piece.addressed)))) ∧
      (BreaksOff args (ps.map Piece.addressed) →
        ∃ places, mostPlaces < places ∧
          format text args = .error (.badType (.tooManyPlaces places))) ∧
      ((∀ s : Slot, .slot s ∈ ps → ¬ s.Misnumbered) → ¬ BreaksOff args ps →
        format text args = .ok (String.ofList (filled args ps))) := by
  obtain ⟨ps, pieces⟩ := exists_pieces text.toList
  have written : format text args =
      (fill args [] (ps.map Piece.addressed)).map String.ofList :=
    congrArg (Except.map String.ofList) (formatFrom_pieces pieces [])
  have fills (short : ¬ BreaksOff args (ps.map Piece.addressed)) :
      format text args = .ok (String.ofList (filled args (ps.map Piece.addressed))) := by
    rw [written, fill_ok args [] fun front s back whole overlong =>
      short ⟨front, s, back, whole, overlong⟩]
    rfl
  refine ⟨ps, pieces, fun qs pieces' => pieces'.unique pieces, fills, ?_, fun numbered short => ?_⟩
  · rintro ⟨front, s, back, whole, overlong⟩
    obtain ⟨places, many, breaks⟩ := fill_error args [] whole overlong
    exact ⟨places, many, by rw [written, breaks]; rfl⟩
  · have same : ps.map Piece.addressed = ps := by
      refine (List.map_congr_left fun p isIn => ?_).trans (List.map_id ps)
      cases p with
      | plain => rfl
      | percent => rfl
      | slot s => exact congrArg Piece.slot (s.addressed_eq (numbered s isIn))
    rw [same] at fills
    exact fills short

/-- A placeholder with the position zero takes an argument, and those behind it take another one. -/
theorem zeroth_taken_in_order :
    (∃ ps, Pieces "%0$s %s".toList ps ∧
      String.ofList (filled [.string "a", .string "b"] ps) = "%0$s a") ∧
    format "%0$s %s" [.string "a", .string "b"] = .ok "a b" := by
  refine ⟨⟨[.slot ⟨['0', '$', 's'], some 0, none, .text⟩, .plain ' ',
    .slot ⟨['s'], none, none, .text⟩], ?_, by decide⟩, by rfl⟩
  have zeroth : (⟨['0'] ++ ['$'] ++ ([] ++ ['s']), some 0, none, .text⟩ : Slot).Spelled :=
    .mk (.mark (Number.digits_digitChars 0)) .none rfl
  have next : (⟨[] ++ ([] ++ ['s']), none, none, .text⟩ : Slot).Spelled := .mk .none .none rfl
  exact .slot zeroth (.plain (by decide) (.slot next .nil))

example : format "%.65536f" [.number 1.0] = .error (.badType (.tooManyPlaces 65536)) := by rfl

end DocExpr.Library
