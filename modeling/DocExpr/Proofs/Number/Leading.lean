import DocExpr.Number.Leading
import DocExpr.Proofs.Number.DecimalLiteral

/-! What the reader of leading numerals takes off the front of a text: the longest front that is an
infinity or a decimal literal. A text without such a front is no number. -/
namespace DocExpr.Number

/-- An infinity or a decimal literal, with its value. -/
inductive LeadingForm : List Char → Float → Prop where
  | infinity {sign : List Char} {negative : Bool} (isSign : SignMark sign negative) :
      LeadingForm (sign ++ "Infinity".toList) (if negative then -infinity else infinity)
  | decimal {cs : List Char} {x : Float} (literal : DecimalLiteral cs x) : LeadingForm cs x

/-- A front of the text that has one of the forms, and no longer front has. -/
structure Leads (text front : List Char) (x : Float) : Prop where
  form : LeadingForm front x
  starts : front <+: text
  longest : ∀ other y, LeadingForm other y → other <+: text → other.length ≤ front.length

theorem LeadingForm.isNaN {cs : List Char} {x : Float} (form : LeadingForm cs x) :
    x.isNaN = false := by
  cases form with
  | infinity isSign =>
    split
    · decide
    · decide
  | decimal literal => exact literal.isNaN

/-- The reader takes a point and the digits around it off the front of a text. -/
theorem spanPoint_parts {cs whole fraction rest : List Char}
    (h : spanPoint cs = (whole, fraction, rest)) :
    ∃ point, cs = whole ++ point ++ fraction ++ rest ∧ (∀ c ∈ whole, isDigit c = true) ∧
      (point = [] ∧ fraction = [] ∨ point = ['.']) := by
  obtain ⟨before, cs, rfl, all, ends⟩ := Json.exists_digits cs
  by_cases point : '.' ∈ cs.head?
  · obtain ⟨cs, rfl⟩ : ∃ more, cs = '.' :: more := List.head?_eq_some_iff.mp point
    rw [spanPoint_point all] at h
    cases h
    refine ⟨['.'], ?_, all, .inr rfl⟩
    simp [Expr.spanDigits_append]
  · rw [spanPoint_plain all ends point] at h
    cases h
    exact ⟨[], by simp, all, .inl ⟨rfl, rfl⟩⟩

theorem Pointed.ne_nil {cs digits : List Char} {places : Nat} (pointed : Pointed cs digits places) :
    cs ≠ [] := by
  cases pointed with
  | whole isDigits => exact isDigits.some
  | point => simp

/-- Digits and a point are taken at least as far as any literal's. -/
theorem Pointed.taken {cs digits : List Char} {places : Nat} (pointed : Pointed cs digits places)
    (rest : List Char) : ∃ whole fraction after,
      spanPoint (cs ++ rest) = (whole, fraction, after) ∧ whole ++ fraction ≠ [] ∧
        after.length ≤ rest.length := by
  cases pointed with
  | whole isDigits =>
    obtain ⟨more, tail, rfl, all, ends⟩ := Json.exists_digits rest
    have every := List.forall_mem_append.mpr ⟨isDigits.all, all⟩
    rw [← List.append_assoc]
    by_cases point : '.' ∈ tail.head?
    · obtain ⟨tail, rfl⟩ : ∃ more, tail = '.' :: more := List.head?_eq_some_iff.mp point
      refine ⟨_, _, _, spanPoint_point every tail, by simp [isDigits.some], ?_⟩
      have shorter := (List.dropWhile_suffix isDigit (l := tail)).length_le
      simp only [spanDigits, List.length_append, List.length_cons]
      omega
    · exact ⟨_, _, _, spanPoint_plain every ends point, by simp [isDigits.some], by simp⟩
  | @point front back isDigits =>
    obtain ⟨before, behind⟩ := List.forall_mem_append.mp isDigits.all
    rw [List.append_assoc, List.cons_append]
    refine ⟨_, _, _, spanPoint_point before (back ++ rest), ?_, ?_⟩
    · intro none
      rw [spanDigits, List.takeWhile_append_of_pos behind, ← List.append_assoc,
        List.append_eq_nil_iff] at none
      exact isDigits.some none.1
    · rw [spanDigits, List.dropWhile_append_of_pos behind]
      exact (List.dropWhile_suffix isDigit).length_le

theorem Scale.starts {cs : List Char} {k : Int} (scale : Scale cs k) (some : cs ≠ [])
    (rest : List Char) : Json.NoDigit (cs ++ rest) ∧ '.' ∉ (cs ++ rest).head? := by
  cases scale with
  | none => exact absurd rfl some
  | mark isMark isSign behind =>
    rcases isMark with rfl | rfl
    all_goals
      refine ⟨?_, fun isIn => nomatch isIn⟩
      rintro _ ⟨⟩
      rfl

/-- An exponent is taken at least as far as any literal's. -/
theorem Scale.taken {cs : List Char} {k : Int} (scale : Scale cs k) (some : cs ≠ [])
    (rest : List Char) : ∃ n after, spanExponent? (cs ++ rest) = .some (n, after) ∧
      after.length ≤ rest.length := by
  cases scale with
  | none => exact absurd rfl some
  | @mark mark sign digits negative isMark isSign behind =>
    have signed := isSign.span (behind.noSign rest)
    obtain ⟨d, more, rfl, digit⟩ := behind.cons
    rw [List.cons_append] at signed
    rw [List.cons_append, List.append_assoc, List.cons_append,
      Expr.spanExponent?_signed isMark signed digit]
    refine ⟨_, _, rfl, ?_⟩
    rw [spanDigits, ← List.cons_append, List.dropWhile_append_of_pos behind.all]
    exact (List.dropWhile_suffix isDigit).length_le

/-- The numeral at the front of a text in its parts. -/
theorem afterNumeral?_of_spans {cs cs' whole fraction rest : List Char} {negative : Bool}
    (signed : spanSign cs = (negative, cs')) (pointed : spanPoint cs' = (whole, fraction, rest))
    (some : whole ++ fraction ≠ []) :
    afterNumeral? cs = .some (((spanExponent? rest).map (·.2)).getD rest) := by
  unfold afterNumeral?
  rw [signed]
  dsimp only
  rw [pointed]
  dsimp only
  rw [if_neg]
  · cases spanExponent? rest with
    | none => rfl
    | some read => rfl
  · intro none
    simp only [Bool.and_eq_true, List.isEmpty_iff] at none
    apply some
    rw [none.1, none.2, List.nil_append]

/-- Without a digit no numeral is read. -/
theorem afterNumeral?_pointless {cs cs' rest : List Char} {negative : Bool}
    (signed : spanSign cs = (negative, cs')) (pointed : spanPoint cs' = ([], [], rest)) :
    afterNumeral? cs = none := by
  unfold afterNumeral?
  rw [signed]
  dsimp only
  rw [pointed]
  rfl

/-- No literal in front leaves less behind it than the numeral does. -/
theorem DecimalLiteral.taken {cs : List Char} {x : Float} (literal : DecimalLiteral cs x)
    (rest : List Char) :
    ∃ after, afterNumeral? (cs ++ rest) = some after ∧ after.length ≤ rest.length := by
  obtain ⟨isSign, pointed, scale, -⟩ := literal
  rename_i sign front digits exponent negative places k x
  have signed := isSign.span (pointed.noSign (exponent ++ rest))
  rw [List.append_assoc, List.append_assoc]
  by_cases plain : exponent = []
  · subst plain
    obtain ⟨whole, fraction, after, read, some, short⟩ := pointed.taken rest
    refine ⟨_, afterNumeral?_of_spans signed read some, ?_⟩
    cases found : spanExponent? after with
    | none => exact short
    | some result =>
      obtain ⟨taken, split, -⟩ := scale_of_spanExponent? found
      rw [split, List.length_append] at short
      exact (Nat.le_add_left _ _).trans short
  · obtain ⟨ends, noPoint⟩ := scale.starts plain rest
    obtain ⟨whole, fraction, read, rfl, -⟩ := pointed.span ends noPoint
    obtain ⟨n, after, found, short⟩ := scale.taken plain rest
    refine ⟨_, afterNumeral?_of_spans signed read pointed.digits.some, ?_⟩
    rw [found]
    exact short

/-- What is taken off the front of a text is a literal. -/
theorem literal_of_afterNumeral? {cs after : List Char} (h : afterNumeral? cs = some after) :
    ∃ front x, cs = front ++ after ∧ DecimalLiteral front x := by
  obtain ⟨sign, split, isSign⟩ := sign_spanSign cs
  cases signed : spanSign cs with
  | mk negative cs' =>
  rw [signed] at split isSign
  cases read : spanPoint cs' with
  | mk whole behind =>
  obtain ⟨fraction, rest⟩ := behind
  by_cases some : whole ++ fraction = []
  · obtain ⟨rfl, rfl⟩ := List.append_eq_nil_iff.mp some
    rw [afterNumeral?_pointless signed read] at h
    cases h
  · rw [afterNumeral?_of_spans signed read some] at h
    obtain ⟨front, same, pointed⟩ := pointed_of_spanPoint read some
    dsimp only at split isSign same
    cases found : spanExponent? rest with
    | none =>
      rw [found] at h
      cases h
      refine ⟨sign ++ (front ++ []), _, ?_, .mk isSign pointed .none (nearestDouble_ofDecimal _ _)⟩
      rw [split, same, List.append_nil, List.append_assoc]
      rfl
    | some result =>
      rw [found] at h
      cases h
      obtain ⟨exponent, tail, scale⟩ := scale_of_spanExponent? found
      refine ⟨sign ++ (front ++ exponent), _, ?_,
        .mk isSign pointed scale (nearestDouble_ofDecimal _ _)⟩
      rw [split, same, tail, List.append_assoc, List.append_assoc]
      rfl

/-- An infinity starts with no sign of its own. -/
theorem SignMark.span_infinity {sign : List Char} {negative : Bool}
    (isSign : SignMark sign negative) (more : List Char) :
    spanSign (sign ++ ("Infinity".toList ++ more)) = (negative, "Infinity".toList ++ more) := by
  apply isSign.span
  rintro _ ⟨⟩
  decide

/-- No literal stands in front of a text that starts as an infinity does. -/
theorem DecimalLiteral.noInfinity {cs sign : List Char} {x : Float} {negative : Bool}
    (literal : DecimalLiteral cs x) (isSign : SignMark sign negative) (rest more : List Char) :
    cs ++ rest ≠ sign ++ ("Infinity".toList ++ more) := by
  intro same
  obtain ⟨isSign', pointed, -, -⟩ := literal
  rename_i front _ exponent _ _ _ _
  have signed := isSign.span_infinity more
  have signed' := isSign'.span (pointed.noSign (exponent ++ rest))
  rw [List.append_assoc, List.append_assoc] at same
  rw [← same, signed'] at signed
  cases front with
  | nil => exact pointed.ne_nil rfl
  | cons c front =>
    have first : c = 'I' := by simpa using congrArg List.head? (Prod.ext_iff.mp signed).2
    have part := pointed.part c List.mem_cons_self
    rw [first] at part
    cases part

/-- A text has at most one of the forms, with one value. -/
theorem LeadingForm.unique {cs cs' : List Char} {x y : Float} (form : LeadingForm cs x)
    (form' : LeadingForm cs' y) (same : cs = cs') : x = y := by
  cases form with
  | infinity isSign =>
    have signed := isSign.span_infinity []
    cases form' with
    | infinity isSign' =>
      have signed' := isSign'.span_infinity []
      rw [List.append_nil] at signed signed'
      rw [same, signed'] at signed
      cases (Prod.ext_iff.mp signed).1
      rfl
    | decimal literal =>
      refine absurd ?_ (literal.noInfinity isSign [] [])
      rw [List.append_nil, List.append_nil, same]
  | decimal literal =>
    cases form' with
    | infinity isSign =>
      refine absurd ?_ (literal.noInfinity isSign [] [])
      rw [List.append_nil, List.append_nil, same]
    | decimal literal' =>
      have read := ofNumeral?_eq_some_iff.mpr literal
      rw [same, ofNumeral?_eq_some_iff.mpr literal'] at read
      exact (Option.some.inj read).symm

theorem Leads.unique {text front front' : List Char} {x y : Float} (leads : Leads text front x)
    (leads' : Leads text front' y) : x = y := by
  have shorter := leads.longest front' y leads'.form leads'.starts
  have longer := leads'.longest front x leads.form leads.starts
  have within := List.prefix_of_prefix_length_le leads.starts leads'.starts longer
  exact leads.form.unique leads'.form (within.eq_of_length_le shorter)

theorem startsWith_iff {needle cs : List Char} :
    Text.startsWith needle cs = true ↔ needle <+: cs := List.isPrefixOf_iff_prefix

/-- A sign and an infinity in front are taken as such. -/
theorem leadingNumeral_infinity {s : String} {sign more : List Char} {negative : Bool}
    (isSign : SignMark sign negative)
    (text : Text.trimLeft s.toList = sign ++ ("Infinity".toList ++ more)) :
    leadingNumeral s = if negative then -infinity else infinity := by
  have signed := isSign.span_infinity more
  unfold leadingNumeral
  dsimp only
  rw [text, signed]
  dsimp only
  rw [if_pos (startsWith_iff.mpr (List.prefix_append _ _))]

/-- Without an infinity in front the literal is read that stands there, if one does. -/
theorem leadingNumeral_finite {s : String}
    (noInfinity : ¬ "Infinity".toList <+: (spanSign (Text.trimLeft s.toList)).2) :
    (∀ front after x, afterNumeral? (Text.trimLeft s.toList) = some after →
      Text.trimLeft s.toList = front ++ after → DecimalLiteral front x → leadingNumeral s = x) ∧
    (afterNumeral? (Text.trimLeft s.toList) = none → leadingNumeral s = nan) := by
  unfold leadingNumeral
  dsimp only
  rw [if_neg (fun starts => noInfinity (startsWith_iff.mp starts))]
  constructor
  · intro front after x found split literal
    have taken : (front ++ after).take ((front ++ after).length - after.length) = front := by
      simp
    rw [found]
    dsimp only
    rw [split, taken, ofNumeral?_eq_some_iff.mpr literal]
    rfl
  · intro none
    rw [none]

theorem leads_infinity {sign more : List Char} {negative : Bool} (isSign : SignMark sign negative) :
    Leads (sign ++ ("Infinity".toList ++ more)) (sign ++ "Infinity".toList)
      (if negative then -infinity else infinity) where
  form := .infinity isSign
  starts := ⟨more, List.append_assoc _ _ _⟩
  longest := by
    intro other y form starts
    obtain ⟨tail, same⟩ := starts
    cases form with
    | infinity isSign' =>
      have signed := isSign.span_infinity more
      have signed' := isSign'.span_infinity tail
      rw [← same, List.append_assoc, signed'] at signed
      have length := congrArg List.length same
      have behind := congrArg List.length (Prod.ext_iff.mp signed).2
      simp only [List.length_append] at length behind ⊢
      omega
    | decimal literal => exact absurd same (literal.noInfinity isSign tail more)

/-- A text without an infinity in front is led by the literal that is read. -/
theorem leads_literal {cs front after : List Char} {x : Float}
    (noInfinity : ¬ "Infinity".toList <+: (spanSign cs).2) (h : afterNumeral? cs = some after)
    (split : cs = front ++ after) (literal : DecimalLiteral front x) : Leads cs front x where
  form := .decimal literal
  starts := ⟨after, split.symm⟩
  longest := by
    intro other y form starts
    obtain ⟨tail, same⟩ := starts
    cases form with
    | infinity isSign =>
      have signed := isSign.span_infinity tail
      rw [← same, List.append_assoc, signed] at noInfinity
      exact absurd (List.prefix_append _ _) noInfinity
    | decimal literal' =>
      obtain ⟨after', taken, short⟩ := literal'.taken tail
      rw [same, h] at taken
      cases taken
      have length := congrArg List.length (same.trans split)
      simp only [List.length_append] at length
      omega

/-- A number is read off the front of a text if one stands there, and it is the longest. -/
theorem leadingNumeral_cases (s : String) :
    (∃ front, Leads (Text.trimLeft s.toList) front (leadingNumeral s)) ∨
      (leadingNumeral s).isNaN = true ∧
        ∀ front x, LeadingForm front x → ¬ front <+: Text.trimLeft s.toList := by
  generalize text : Text.trimLeft s.toList = cs
  by_cases starts : "Infinity".toList <+: (spanSign cs).2
  · obtain ⟨more, tail⟩ := starts
    obtain ⟨sign, split, isSign⟩ := sign_spanSign cs
    rw [← tail] at split
    rw [split] at text ⊢
    rw [leadingNumeral_infinity isSign text]
    exact .inl ⟨_, leads_infinity isSign⟩
  · rw [← text] at starts
    obtain ⟨read, unread⟩ := leadingNumeral_finite starts
    rw [text] at starts read unread
    cases found : afterNumeral? cs with
    | some after =>
      obtain ⟨front, x, split, literal⟩ := literal_of_afterNumeral? found
      rw [read front after x found split literal]
      exact .inl ⟨front, leads_literal starts found split literal⟩
    | none =>
      rw [unread found]
      refine .inr ⟨by decide, ?_⟩
      rintro front x form ⟨tail, same⟩
      cases form with
      | infinity isSign =>
        have signed := isSign.span_infinity tail
        rw [← same, List.append_assoc, signed] at starts
        exact starts (List.prefix_append _ _)
      | decimal literal =>
        obtain ⟨after, taken, -⟩ := literal.taken tail
        rw [same, found] at taken
        cases taken

end DocExpr.Number
