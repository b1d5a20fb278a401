import DocExpr.Proofs.Json.Grammar
import DocExpr.Proofs.Json.Numeral
import DocExpr.Proofs.Lexer.Reading

/-! The tokens of the texts of documents. White space of a document is layout of an expression, and
a scalar in front of it, of a mark or of nothing is one token; a minus sign is a token of its own.
How a text is read is stated with all that follows it, so that texts can be put together. -/
namespace DocExpr.Expr
open DocExpr.Json (Blank Piece Content Padded Listed isSpace shortEscape?)
open DocExpr.Number (hex4?)
open DocExpr.Number (Digits Exponent Fraction Numeral Stops isDigit)

/-- Nothing, white space or a mark: no scalar goes on with it. -/
inductive Separate : List Char → Prop where
  | nil : Separate []
  | blank {c : Char} (space : isSpace c = true) (cs : List Char) : Separate (c :: cs)
  | mark {c : Char} (isMark : c ∈ marks) (cs : List Char) : Separate (c :: cs)

/-- In front of what separates, a text reads as these tokens. -/
def Lexes (text : List Char) (tokens : List Token) : Prop :=
  ∀ ⦃more others⦄, Separate more → (∀ regexAllowed, Reads regexAllowed more others) →
    ∀ regexAllowed, Reads regexAllowed (text ++ more) (tokens ++ others)

theorem Separate.stops {more : List Char} (separate : Separate more) : Stops more := by
  cases separate with
  | nil => exact .nil
  | blank space => exact .cons (Json.partOfNumeral_of_isSpace space) _
  | mark isMark =>
    simp only [marks, List.mem_cons, List.not_mem_nil, or_false] at isMark
    rcases isMark with rfl | rfl | rfl | rfl | rfl | rfl | rfl | rfl <;> exact .cons rfl _

theorem Separate.noName {more : List Char} (separate : Separate more) :
    ∀ c ∈ more.head?, continuesName c = false := by
  intro c isIn
  cases separate with
  | nil => cases isIn
  | blank space =>
    cases isIn
    have isIn := Json.mem_of_isSpace space
    simp only [List.mem_cons, List.not_mem_nil, or_false] at isIn
    rcases isIn with rfl | rfl | rfl | rfl <;> rfl
  | mark isMark =>
    cases isIn
    exact (marks_end isMark).notName

theorem skipLayout_blank {ws : List Char} (blank : Blank ws) (cs : List Char) :
    skipLayout none (ws ++ cs) = skipLayout none cs := by
  induction ws with
  | nil => rfl
  | cons c ws ih =>
    have isIn := Json.mem_of_isSpace (blank c List.mem_cons_self)
    have later := ih fun c isIn => blank c (List.mem_cons_of_mem _ isIn)
    simp only [List.mem_cons, List.not_mem_nil, or_false] at isIn
    rw [List.cons_append, skipLayout_outside]
    · rcases isIn with rfl | rfl | rfl | rfl <;> exact later
    · rintro rest rfl
      simp at isIn

theorem Lexes.nil : Lexes [] [] := fun _ _ _ back => back

theorem Lexes.front {ws text : List Char} {tokens : List Token} (lexes : Lexes text tokens)
    (blank : Blank ws) : Lexes (ws ++ text) tokens := by
  intro more others separate back regexAllowed
  rw [List.append_assoc]
  exact (lexes separate back regexAllowed).of_layout (skipLayout_blank blank _)

theorem Lexes.back {ws text : List Char} {tokens : List Token} (lexes : Lexes text tokens)
    (blank : Blank ws) : Lexes (text ++ ws) tokens := by
  intro more others separate back
  rw [List.append_assoc]
  cases ws with
  | nil => exact lexes separate back
  | cons c ws =>
    refine lexes (.blank (blank c List.mem_cons_self) _) fun regexAllowed => ?_
    exact (back regexAllowed).of_layout (skipLayout_blank blank more)

theorem Lexes.mark {c : Char} {s : Symbol} {text : List Char} {tokens : List Token}
    (lexes : Lexes text tokens) (isMark : c ∈ marks)
    (spells : ∀ cs, symbol? (c :: cs) = some (s, cs)) :
    Lexes (c :: text) (.symbol s :: tokens) :=
  fun _ _ separate back => .mark (marks_end isMark) (spells _) (lexes separate back _)

/-- A text in front of one that starts with a mark. -/
theorem Lexes.append {c : Char} {text cs : List Char} {tokens others : List Token}
    (front : Lexes text tokens) (isMark : c ∈ marks) (back : Lexes (c :: cs) others) :
    Lexes (text ++ c :: cs) (tokens ++ others) := by
  intro more rest separate last
  rw [List.append_assoc, List.append_assoc]
  exact front (.mark isMark _) (back separate last)

theorem Lexes.enclosed {opening closing : Char} {s s' : Symbol} {text : List Char}
    {tokens : List Token} (lexes : Lexes text tokens) (opens : opening ∈ marks)
    (closes : closing ∈ marks) (spells : ∀ cs, symbol? (opening :: cs) = some (s, cs))
    (spells' : ∀ cs, symbol? (closing :: cs) = some (s', cs)) :
    Lexes (opening :: (text ++ [closing])) (.symbol s :: (tokens ++ [.symbol s'])) :=
  (lexes.append closes (Lexes.nil.mark closes spells')).mark opens spells

theorem Lexes.reads {text : List Char} {tokens : List Token} (lexes : Lexes text tokens) :
    Reads true text tokens := by
  have reads := lexes .nil (fun _ => .done rfl) true
  rwa [List.append_nil, List.append_nil] at reads

section
variable {α : Type} {item : List Char → α → Prop} {Means : List Token → α → Prop}

/-- The texts of items read as tokens that mean the items. -/
def LexesAs (item : List Char → α → Prop) (Means : List Token → α → Prop) : Prop :=
  ∀ ⦃cs x⦄, item cs x → ∃ tokens, Lexes cs tokens ∧ Means tokens x

theorem LexesAs.padded (each : LexesAs item Means) : LexesAs (Padded item) Means := by
  rintro _ x ⟨front, spelled, back⟩
  obtain ⟨tokens, lexes, means⟩ := each spelled
  exact ⟨tokens, (lexes.back back).front front, means⟩

/-- The tokens of a list are those of its items with commas between them. -/
theorem LexesAs.listed (each : LexesAs item Means) {cs : List Char} {xs : List α}
    (listed : Listed item cs xs) :
    ∃ ys : List (List Token × α), ys.map (·.2) = xs ∧ (∀ y ∈ ys, Means y.1 y.2) ∧
      Lexes cs ([Token.symbol .comma].intercalate (ys.map (·.1))) := by
  induction listed with
  | @last cs x only =>
    obtain ⟨tokens, lexes, means⟩ := each only
    refine ⟨[(tokens, x)], rfl, ?_, ?_⟩
    · intro y isIn
      cases List.mem_singleton.mp isIn
      exact means
    · rwa [List.map_singleton, List.intercalate_singleton]
  | @more cs others x xs first rest ih =>
    obtain ⟨tokens, lexes, means⟩ := each first
    obtain ⟨ys, rfl, later, listed⟩ := ih
    have comma : ',' ∈ marks := by decide
    refine ⟨(tokens, x) :: ys, rfl, List.forall_mem_cons.mpr ⟨means, later⟩, ?_⟩
    have several : ys ≠ [] := by
      rintro rfl
      cases rest
    obtain ⟨y, ys, rfl⟩ := List.exists_cons_of_ne_nil several
    rw [List.map_cons, List.map_cons, List.intercalate_cons_cons, List.append_assoc,
      List.singleton_append]
    exact lexes.append comma (listed.mark comma fun _ => rfl)

end

theorem spanFraction_front {fraction rest : List Char} (point : Fraction fraction)
    (ends : Json.NoDigit rest) (noPoint : '.' ∉ rest.head?) :
    spanFraction (fraction ++ rest) = (fraction, rest) := by
  cases point with
  | none =>
    rw [List.nil_append, spanFraction]
    rintro more rfl
    exact noPoint rfl
  | @point digits behind =>
    obtain ⟨d, ds, rfl⟩ := List.exists_cons_of_ne_nil behind.some
    rw [List.cons_append, spanFraction, Json.spanDigits_digits behind.all ends]

theorem spanExponent?_front {mark : Char} {sign digits rest : List Char}
    (isMark : mark = 'e' ∨ mark = 'E') (isSign : sign ∈ [[], ['-'], ['+']])
    (behind : Digits digits) (ends : Json.NoDigit rest) :
    ∃ n, Number.spanExponent? (mark :: (sign ++ digits) ++ rest) = some (n, rest) := by
  obtain ⟨d, ds, rfl, digit⟩ := behind.cons
  have signed : ∃ negative, Number.spanSign (sign ++ d :: (ds ++ rest)) =
      (negative, d :: (ds ++ rest)) := by
    simp only [List.mem_cons, List.not_mem_nil, or_false] at isSign
    rcases isSign with rfl | rfl | rfl
    · exact ⟨false, Json.spanSign_digit digit _⟩
    · exact ⟨true, rfl⟩
    · exact ⟨false, rfl⟩
  obtain ⟨negative, signed⟩ := signed
  rw [List.cons_append, List.append_assoc, List.cons_append,
    spanExponent?_signed isMark signed digit, ← List.cons_append,
    Json.spanDigits_digits behind.all ends]
  exact ⟨_, rfl⟩

theorem spanExponent_front {exponent rest : List Char} (mark : Exponent exponent)
    (stops : Stops rest) : spanExponent (exponent ++ rest) = (exponent, rest) := by
  cases mark with
  | none =>
    have none : Number.spanExponent? rest = none := by
      cases rest with
      | nil => rfl
      | cons c rest =>
        have other := Json.noMark_of_stops stops c rfl
        rw [Number.spanExponent?, if_neg (not_or.mpr other)]
    rw [List.nil_append, spanExponent, none]
  | mark isMark isSign behind =>
    obtain ⟨n, found⟩ := spanExponent?_front isMark isSign behind (Json.noDigit_of_stops stops)
    rw [spanExponent, found]
    dsimp only
    rw [List.length_append, Nat.add_sub_cancel, List.take_left]

theorem spanNumeral_front {t rest : List Char} (numeral : Numeral t) (stops : Stops rest) :
    spanNumeral (t ++ rest) = (t, rest) := by
  obtain ⟨digits, point, mark⟩ := numeral
  rename_i whole fraction exponent
  obtain ⟨ends, noPoint⟩ := Json.exponent_ends mark stops
  have ends' : Json.NoDigit (fraction ++ (exponent ++ rest)) := by
    cases point with
    | none => exact ends
    | point =>
      rintro _ ⟨⟩
      rfl
  rw [List.append_assoc, List.append_assoc]
  simp only [spanNumeral, Json.spanDigits_digits digits.all ends',
    spanFraction_front point ends noPoint, spanExponent_front mark stops, List.append_assoc]

theorem readToken_digit {c : Char} (digit : isDigit c = true) (regexAllowed : Bool)
    (cs : List Char) : readToken regexAllowed c cs =
      .ok (.number ((Number.ofNumeral? (spanNumeral (c :: cs)).1).getD Number.nan),
        (spanNumeral (c :: cs)).2) := by
  have noQuote : ¬ (c = '"' ∨ c = '\'') := by
    rintro (rfl | rfl) <;> cases digit
  rw [readToken, if_neg noQuote, if_pos digit]

theorem skipLayout_digit {c : Char} (digit : isDigit c = true) (cs : List Char) :
    skipLayout none (c :: cs) = .ok (c :: cs) := by
  have solid := Number.isBlank_of_isDigit digit
  rw [skipLayout_outside, if_neg (by simp [solid])]
  rintro rest rfl
  cases digit

theorem lexes_numeral {t : List Char} {x : Float} (numeral : Numeral t)
    (read : Number.ofNumeral? t = some x) : Lexes t [.number x] := by
  intro more others separate back regexAllowed
  have span := spanNumeral_front numeral separate.stops
  obtain ⟨c, cs, rfl, digit⟩ := numeral.cons
  change Reads regexAllowed (c :: (cs ++ more)) (.number x :: others)
  refine .token (skipLayout_digit digit _) ?_ (back _)
  -- the lexer reads on as far as it can, so what follows must be known to stop it
  rw [readToken_digit digit, ← List.cons_append, span]
  dsimp only
  rw [read]
  rfl

theorem lexes_minus {text : List Char} {tokens : List Token} (lexes : Lexes text tokens) :
    Lexes ('-' :: text) (.symbol .minus :: tokens) :=
  fun _ _ separate back _ => .token rfl rfl (lexes separate back _)

theorem ofNumeral?_minus {c : Char} (digit : isDigit c = true) (cs : List Char) :
    Number.ofNumeral? ('-' :: c :: cs) = (Number.ofNumeral? (c :: cs)).map (-·) := by
  have minus : Number.spanSign ('-' :: c :: cs) = (true, c :: cs) := rfl
  unfold Number.ofNumeral?
  rw [minus, Json.spanSign_digit digit]
  dsimp only
  split <;> rfl

theorem readToken_name {c : Char} (starts : startsName c = true) (noDigit : isDigit c = false)
    (other : c ∉ ['"', '\'', '/']) (regexAllowed : Bool) (cs : List Char) :
    readToken regexAllowed c cs =
      .ok (.ofWord (String.ofList (c :: cs.takeWhile continuesName)),
        cs.dropWhile continuesName) := by
  simp only [List.mem_cons, List.not_mem_nil, or_false, not_or] at other
  obtain ⟨noQuote, noQuote', noSlash⟩ := other
  rw [readToken, if_neg (not_or.mpr ⟨noQuote, noQuote'⟩), if_neg (by simp [noDigit]),
    if_neg (fun h => noSlash h.1), symbol?_name starts]
  exact if_pos starts

theorem lexes_word {c : Char} {cs : List Char} (starts : startsName c = true)
    (solid : Text.isBlank c = false ∧ isDigit c = false ∧ c ∉ ['"', '\'', '/'])
    (goesOn : cs.all continuesName = true) :
    Lexes (c :: cs) [.ofWord (String.ofList (c :: cs))] := by
  intro more others separate back regexAllowed
  obtain ⟨noBlank, noDigit, other⟩ := solid
  have all := List.all_eq_true.mp goesOn
  have layout : skipLayout none (c :: (cs ++ more)) = .ok (c :: (cs ++ more)) := by
    rw [skipLayout_outside, if_neg (by simp [noBlank])]
    rintro _ rfl
    exact absurd other (by decide)
  have first : readToken regexAllowed c (cs ++ more) =
      .ok (.ofWord (String.ofList (c :: cs)), more) := by
    rw [readToken_name starts noDigit other, Json.takeWhile_front all separate.noName,
      Json.dropWhile_front all separate.noName]
  exact .token layout first (back _)

theorem unicodeEscape?_of_hex4? {a b c d : Char} {n : Nat} (number : hex4? a b c d = some n)
    (whole : n < 0xd800 ∨ 0xdfff < n) : unicodeEscape? a b c d = some (Char.ofNat n) := by
  rw [unicodeEscape?, number]
  exact if_neg (by omega)

theorem escapedChar_of_short {c x : Char} (stands : shortEscape? c = some x) :
    c ≠ 'u' ∧ escapedChar c = x := by
  unfold shortEscape? at stands
  split at stands
  all_goals
    cases stands
    try exact ⟨by decide, rfl⟩

theorem stringRest_plain {quote c : Char} (noEscape : c ≠ '\\') (start done cs : List Char) :
    stringRest quote start done (c :: cs) =
      if c = quote then .ok (String.ofList done.reverse, cs)
      else stringRest quote start (c :: done) cs := by
  rw [stringRest]
  all_goals
    intros
    exact noEscape ‹_›

theorem stringRest_content {cs xs : List Char} (content : Content false cs xs)
    (start done rest : List Char) :
    stringRest '"' start done (cs ++ '"' :: rest) =
      .ok (String.ofList (done.reverse ++ xs), rest) := by
  induction content generalizing done with
  | done =>
    rw [List.nil_append, stringRest_plain (by decide), if_pos rfl, List.append_nil]
  | @piece cs more xs x first others ih =>
    have later := ih (x :: done)
    rw [List.reverse_cons, List.append_assoc, List.singleton_append] at later
    rw [← later]
    cases first with
    | plain printable noQuote noEscape =>
      rw [List.append_assoc, List.singleton_append, stringRest_plain noEscape, if_neg noQuote]
    | @short c x stands =>
      obtain ⟨other, rfl⟩ := escapedChar_of_short stands
      simp only [List.cons_append, List.nil_append]
      rw [stringRest]
      · rintro a b c d rest rfl
        exact absurd rfl other
      · exact other
    | unit number whole =>
      simp only [List.cons_append, List.nil_append]
      rw [stringRest, unicodeEscape?_of_hex4? number whole]
    | pair allowed => cases allowed

theorem lexes_string {cs : List Char} {s : String} (content : Content false cs s.toList) :
    Lexes ('"' :: (cs ++ ['"'])) [.string s] := by
  intro more others separate back regexAllowed
  rw [List.cons_append, List.append_assoc, List.singleton_append]
  refine .token rfl ?_ (back _)
  rw [readToken, if_pos (.inl rfl), stringRest_content content, List.reverse_nil,
    List.nil_append, String.ofList_toList]
  rfl

end DocExpr.Expr
