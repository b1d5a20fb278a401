import DocExpr.Calendar.Zone
import DocExpr.Proofs.Number.DecimalLiteral

/-! The texts of offsets from universal time. Every text of the grammar is read as the seconds that
it names. Beyond the grammar, colons are passed over wherever they stand, and a sign is taken in
the place of the first of two digits; and if a character lies across the middle of four bytes,
nothing is answered at all. Every other text is refused. -/
namespace DocExpr.Calendar
open Number (Digits SignMark WholeText natOfDigits)
open Text (Straddles byteCount)

/-- One or two digits for the hours, and behind two of them perhaps two for the minutes, with or
without a colon in between; and the seconds that they make. -/
inductive Clock : List Char → Int → Prop where
  | hours {hh : List Char} (isHours : Digits hh) (few : hh.length ≤ 2)
      (most : natOfDigits hh ≤ 18) : Clock hh (natOfDigits hh * 3600)
  | minutes {hh colon mm : List Char} (isHours : Digits hh) (two : hh.length = 2)
      (isColon : colon ∈ [[], [':']]) (isMinutes : Digits mm) (two' : mm.length = 2)
      (most : natOfDigits hh ≤ 18) (most' : natOfDigits mm ≤ 59) :
      Clock (hh ++ (colon ++ mm)) (natOfDigits hh * 3600 + natOfDigits mm * 60)

/-- What is read as hours and minutes: colons stand anywhere, and two characters of the hours or the
minutes may be a sign and a digit. -/
inductive LooseClock : List Char → Int → Prop where
  | hours {cs hh : List Char} {h : Int} (kept : cs.filter (· != ':') = hh)
      (isHours : WholeText hh h) (few : hh.length ≤ 2) (most : h ≤ 18) : LooseClock cs (h * 3600)
  | minutes {cs hh mm : List Char} {h m : Int} (kept : cs.filter (· != ':') = hh ++ mm)
      (isHours : WholeText hh h) (two : hh.length = 2) (isMinutes : WholeText mm m)
      (two' : mm.length = 2) (most : h ≤ 18) (most' : m ≤ 59) :
      LooseClock cs (h * 3600 + m * 60)

/-- Hours and minutes that cannot be told apart: of four bytes, the second and the third belong to
one character. -/
def CutClock (cs : List Char) : Prop :=
  byteCount (cs.filter (· != ':')) = 4 ∧ Straddles 2 (cs.filter (· != ':'))

/-- A text behind a sign, and its seconds with that sign. -/
inductive Signed (clock : List Char → Int → Prop) : List Char → Int → Prop where
  | east {cs : List Char} {n : Int} (behind : clock cs n) : Signed clock ('+' :: cs) n
  | west {cs : List Char} {n : Int} (behind : clock cs n) : Signed clock ('-' :: cs) (-n)

/-- What stands behind a name of universal time, which may be left out. -/
inductive Behind : List Char → List Char → Prop where
  | plain (cs : List Char) : Behind cs cs
  | name {name : List Char} (isName : name ∈ ["UTC".toList, "GMT".toList]) (cs : List Char) :
      Behind (name ++ cs) cs

/-- An offset and its seconds east of universal time. -/
inductive OffsetText : List Char → Int → Prop where
  | zero {cs rest : List Char} (behind : Behind cs rest) (none : rest ∈ [[], ['Z']]) :
      OffsetText cs 0
  | clock {cs rest : List Char} {n : Int} (behind : Behind cs rest)
      (signed : Signed Clock rest n) : OffsetText cs n

/-- A text that is read in place of an offset. -/
inductive ToleratedText : List Char → Int → Prop where
  | mk {cs rest : List Char} {n : Int} (behind : Behind cs rest)
      (signed : Signed LooseClock rest n) : ToleratedText cs n

/-- A text on which reading breaks off. -/
inductive CutText : List Char → Prop where
  | mk {cs rest : List Char} {sign : Char} (isSign : sign = '+' ∨ sign = '-')
      (behind : Behind cs (sign :: rest)) (cut : CutClock rest) : CutText cs

theorem behind_behindName (cs : List Char) : Behind cs (behindName cs) := by
  unfold behindName
  split
  next rest found =>
    rw [Text.dropPrefix?_eq_some_iff.mp found]
    exact .name (by decide) rest
  next =>
    cases found : Text.dropPrefix? "GMT".toList cs with
    | none => exact .plain cs
    | some rest =>
      rw [Text.dropPrefix?_eq_some_iff.mp found]
      exact .name (by decide) rest

/-- A name is taken off where none stands behind it. -/
theorem Behind.eq {cs rest : List Char} (behind : Behind cs rest)
    (start : ∀ c ∈ rest.head?, c ∈ ['+', '-', 'Z']) : behindName cs = rest := by
  cases behind with
  | plain =>
    cases cs with
    | nil => rfl
    | cons c cs =>
      have first := start c rfl
      simp only [List.mem_cons, List.not_mem_nil, or_false] at first
      rcases first with rfl | rfl | rfl <;> rfl
  | name isName =>
    simp only [List.mem_cons, List.not_mem_nil, or_false] at isName
    rcases isName with rfl | rfl <;> rfl

/-- Without a name in front, the whole text is left. -/
theorem Behind.whole {cs rest : List Char} (behind : Behind cs rest)
    (noName : ∀ c ∈ cs.head?, c ∉ ['U', 'G']) : rest = cs := by
  cases behind with
  | plain => rfl
  | name isName =>
    simp only [List.mem_cons, List.not_mem_nil, or_false] at isName
    rcases isName with rfl | rfl
    · exact absurd (by decide) (noName 'U' rfl)
    · exact absurd (by decide) (noName 'G' rfl)

theorem utf8Size_of_part {c : Char} (part : Number.partOfNumeral c = true) : c.utf8Size = 1 := by
  rcases Bool.or_eq_true_iff.mp part with digit | mark
  · have high : c.toNat ≤ 57 := of_decide_eq_true (Bool.and_eq_true_iff.mp digit).2
    have ascii : c.val ≤ 127 := by
      change c.toNat ≤ 127
      omega
    exact if_pos ascii
  · simp only [List.contains_iff_mem, List.mem_cons, List.not_mem_nil, or_false] at mark
    rcases mark with rfl | rfl | rfl | rfl | rfl <;> rfl

section
variable {hh : List Char} {h : Int} (whole : WholeText hh h)
include whole

/-- A whole number has as many bytes as characters. -/
theorem byteCount_whole : byteCount hh = hh.length := by
  refine Text.byteCount_eq_length fun c isIn => utf8Size_of_part ?_
  obtain ⟨isSign, isDigits⟩ := whole
  exact List.forall_mem_append.mpr ⟨isSign.part, isDigits.part⟩ c isIn

theorem length_whole : 0 < hh.length := by
  obtain ⟨isSign, isDigits⟩ := whole
  rw [List.length_append]
  exact Nat.add_pos_right _ (List.length_pos_iff.mpr isDigits.some)

end

section
variable {zone : String} {cs : List Char}

theorem clockTexts_hours {hh : List Char} (kept : cs.filter (· != ':') = hh)
    (count : byteCount hh = 1 ∨ byteCount hh = 2) : clockTexts zone cs = .ok (hh, ['0']) := by
  unfold clockTexts
  rw [kept]
  rcases count with count | count
  all_goals
    dsimp only
    rw [count]
    rfl

theorem clockTexts_minutes {hh mm : List Char} (kept : cs.filter (· != ':') = hh ++ mm)
    (count : byteCount hh = 2) (count' : byteCount mm = 2) :
    clockTexts zone cs = .ok (hh, mm) := by
  have cut := Text.cutBytes?_front hh mm
  rw [count] at cut
  unfold clockTexts
  rw [kept]
  dsimp only
  rw [Text.byteCount_append, count, count', cut]
  rfl

theorem clockTexts_cut (cut : CutClock cs) : clockTexts zone cs = .error (.cutCharacter zone) := by
  obtain ⟨count, straddles⟩ := cut
  unfold clockTexts
  dsimp only
  rw [count, Text.cutBytes?_straddles straddles]
  rfl

/-- What the texts of hours and minutes are, if there are any. -/
theorem clockTexts_ok {hh mm : List Char} (h : clockTexts zone cs = .ok (hh, mm)) :
    (cs.filter (· != ':') = hh ∧ byteCount hh ≤ 2 ∧ mm = ['0']) ∨
      (cs.filter (· != ':') = hh ++ mm ∧ byteCount hh = 2 ∧ byteCount mm = 2) := by
  unfold clockTexts at h
  dsimp only at h
  split at h
  next count =>
    cases h
    exact .inl ⟨rfl, by omega, rfl⟩
  next count =>
    cases h
    exact .inl ⟨rfl, by omega, rfl⟩
  next count =>
    split at h
    next cut =>
      cases h
      obtain ⟨whole, front⟩ := Text.cutBytes?_parts cut
      rw [whole, Text.byteCount_append] at count
      exact .inr ⟨whole, front, by omega⟩
    next => cases h
  next => cases h

theorem clockTexts_error {fault : Fault} (h : clockTexts zone cs = .error fault)
    (noCut : ¬ CutClock cs) : fault = .badZone zone := by
  unfold clockTexts at h
  dsimp only at h
  split at h
  next => cases h
  next => cases h
  next count =>
    split at h
    next => cases h
    next cut =>
      exact absurd ⟨count, Text.straddles_of_cutBytes? (by omega) cut⟩ noCut
  next =>
    cases h
    rfl

theorem clockTexts_loose {n : Int} (clock : LooseClock cs n) :
    ∃ hh mm h m, clockTexts zone cs = .ok (hh, mm) ∧ Number.wholeNumber? hh = some h ∧
      Number.wholeNumber? mm = some m ∧ h ≤ 18 ∧ m < 60 ∧ n = h * 3600 + m * 60 := by
  cases clock with
  | @hours hh h kept isHours few most =>
    have count := byteCount_whole isHours
    have some := length_whole isHours
    refine ⟨hh, ['0'], h, 0, clockTexts_hours kept (by omega),
      Number.wholeNumber?_eq_some_iff.mpr isHours, rfl, most, by decide, by omega⟩
  | @minutes hh mm h m kept isHours two isMinutes two' most most' =>
    have count := byteCount_whole isHours
    have count' := byteCount_whole isMinutes
    exact ⟨hh, mm, h, m, clockTexts_minutes kept (by omega) (by omega),
      Number.wholeNumber?_eq_some_iff.mpr isHours, Number.wholeNumber?_eq_some_iff.mpr isMinutes,
      most, by omega, rfl⟩

theorem loose_of_clockTexts {hh mm : List Char} {h m : Int}
    (texts : clockTexts zone cs = .ok (hh, mm)) (isHours : Number.wholeNumber? hh = some h)
    (isMinutes : Number.wholeNumber? mm = some m) (most : h ≤ 18) (most' : m < 60) :
    LooseClock cs (h * 3600 + m * 60) := by
  have isHours := Number.wholeNumber?_eq_some_iff.mp isHours
  have count := byteCount_whole isHours
  rcases clockTexts_ok texts with ⟨kept, few, rfl⟩ | ⟨kept, two, two'⟩
  · have zero : Number.wholeNumber? ['0'] = some 0 := by decide
    cases zero.symm.trans isMinutes
    rw [Int.zero_mul, Int.add_zero]
    exact .hours kept isHours (by omega) most
  · have isMinutes := Number.wholeNumber?_eq_some_iff.mp isMinutes
    have count' := byteCount_whole isMinutes
    exact .minutes kept isHours (by omega) isMinutes (by omega) most (by omega)

/-- The grammar is read: what has one colon in its place keeps its digits. -/
theorem Clock.loose {n : Int} (clock : Clock cs n) : LooseClock cs n := by
  have keeps {digits : List Char} (isDigits : Digits digits) :
      digits.filter (· != ':') = digits := by
    refine List.filter_eq_self.mpr fun c isIn => ?_
    have digit := isDigits.all c isIn
    rw [bne_iff_ne]
    rintro rfl
    cases digit
  cases clock with
  | hours isHours few most =>
    exact .hours (keeps isHours) (.mk .none isHours) few (by simpa using most)
  | minutes isHours two isColon isMinutes two' most most' =>
    refine .minutes ?_ (.mk .none isHours) two (.mk .none isMinutes) two' ?_ ?_
    · simp only [List.mem_cons, List.not_mem_nil, or_false] at isColon
      rw [List.filter_append, List.filter_append, keeps isHours, keeps isMinutes]
      rcases isColon with rfl | rfl <;> rfl
    · simpa using most
    · simpa using most'

end

section
variable {zone : String}

section
variable {sign : Char} {cs : List Char} (isSign : sign = '+' ∨ sign = '-')
  (behind : Behind (Text.trim zone.toList) (sign :: cs))
include isSign behind

theorem parseOffset_sign : parseOffset zone =
    match clockTexts zone cs with
    | .error fault => .error fault
    | .ok (hours, minutes) =>
      match Number.wholeNumber? hours, Number.wholeNumber? minutes with
      | some h, some m =>
        if h ≤ 18 ∧ m < 60 then .ok (signedSeconds sign h m) else .error (.badZone zone)
      | _, _ => .error (.badZone zone) := by
  have rest : behindName (Text.trim zone.toList) = sign :: cs := by
    refine behind.eq fun c isFirst => ?_
    cases isFirst
    rcases isSign with rfl | rfl <;> decide
  have isSign' : ¬ (sign ≠ '+' ∧ sign ≠ '-') := fun other => isSign.elim other.1 other.2
  unfold parseOffset
  rw [rest]
  split
  next none => cases none
  next zero =>
    cases zero
    exact absurd isSign (by decide)
  next _ same =>
    cases same
    exact if_neg isSign'

theorem parseOffset_loose {n : Int} (clock : LooseClock cs n) :
    parseOffset zone = .ok (if sign = '-' then -n else n) := by
  obtain ⟨hh, mm, h, m, texts, isHours, isMinutes, most, most', rfl⟩ := clockTexts_loose clock
  rw [parseOffset_sign isSign behind, texts]
  dsimp only
  rw [isHours, isMinutes]
  exact if_pos ⟨most, most'⟩

theorem parseOffset_cut (cut : CutClock cs) : parseOffset zone = .error (.cutCharacter zone) := by
  rw [parseOffset_sign isSign behind, clockTexts_cut cut]

theorem parseOffset_bad (none : ∀ n, ¬ LooseClock cs n) (noCut : ¬ CutClock cs) :
    parseOffset zone = .error (.badZone zone) := by
  rw [parseOffset_sign isSign behind]
  split
  next fault texts => rw [clockTexts_error texts noCut]
  next hours minutes texts =>
    split
    next h m isHours isMinutes =>
      refine if_neg fun ⟨most, most'⟩ => ?_
      exact none _ (loose_of_clockTexts texts isHours isMinutes most most')
    next => rfl

end

theorem parseOffset_tolerated {n : Int} (tolerated : ToleratedText (Text.trim zone.toList) n) :
    parseOffset zone = .ok n := by
  obtain ⟨behind, signed⟩ := tolerated
  cases signed with
  | east clock => exact parseOffset_loose (.inl rfl) behind clock
  | west clock => exact parseOffset_loose (.inr rfl) behind clock

theorem parseOffset_text {n : Int} (text : OffsetText (Text.trim zone.toList) n) :
    parseOffset zone = .ok n := by
  cases text with
  | zero behind none =>
    simp only [List.mem_cons, List.not_mem_nil, or_false] at none
    unfold parseOffset
    rcases none with rfl | rfl
    · rw [behind.eq (by simp)]
    · rw [behind.eq (by simp)]
      rfl
  | clock behind signed =>
    refine parseOffset_tolerated (.mk behind ?_)
    cases signed with
    | east clock => exact .east clock.loose
    | west clock => exact .west clock.loose

/-- A text that is neither an offset nor read in place of one is refused, unless reading breaks
off. -/
theorem parseOffset_refused (none : ∀ n, ¬ OffsetText (Text.trim zone.toList) n)
    (noRead : ∀ n, ¬ ToleratedText (Text.trim zone.toList) n)
    (noCut : ¬ CutText (Text.trim zone.toList)) : parseOffset zone = .error (.badZone zone) := by
  have behind := behind_behindName (Text.trim zone.toList)
  generalize rest : behindName (Text.trim zone.toList) = cs at behind
  cases cs with
  | nil => exact absurd (.zero behind (by decide)) (none 0)
  | cons c cs =>
    by_cases isSign : c = '+' ∨ c = '-'
    · refine parseOffset_bad isSign behind (fun n clock => ?_)
        fun cut => noCut (.mk isSign behind cut)
      rcases isSign with rfl | rfl
      · exact noRead _ (.mk behind (.east clock))
      · exact noRead _ (.mk behind (.west clock))
    · unfold parseOffset
      rw [rest]
      split
      next none => cases none
      next zero =>
        rw [zero] at behind
        exact absurd (.zero behind (by decide)) (none 0)
      next _ same =>
        cases same
        rw [if_pos (not_or.mp isSign)]

end

/-- Reading an offset. Each text of the grammar gives its seconds and every other text is refused,
except for those that are read with colons and signs out of place and those of four bytes that
cannot be parted. -/
theorem offset_text (zone : String) :
    (∀ n, OffsetText (Text.trim zone.toList) n → parseOffset zone = .ok n) ∧
      (∀ n, ToleratedText (Text.trim zone.toList) n → parseOffset zone = .ok n) ∧
      (CutText (Text.trim zone.toList) → parseOffset zone = .error (.cutCharacter zone)) ∧
      ((∀ n, ¬ OffsetText (Text.trim zone.toList) n) →
        (∀ n, ¬ ToleratedText (Text.trim zone.toList) n) → ¬ CutText (Text.trim zone.toList) →
        parseOffset zone = .error (.badZone zone)) := by
  refine ⟨fun _ => parseOffset_text, fun _ => parseOffset_tolerated, ?_, parseOffset_refused⟩
  rintro ⟨isSign, behind, cut⟩
  exact parseOffset_cut isSign behind cut

/-- An offset behind a name, and a name that is none. -/
theorem named_offsets_read :
    (OffsetText (Text.trim " GMT-08:30 ".toList) (-30600) ∧
      parseOffset " GMT-08:30 " = .ok (-30600)) ∧
    (∀ n, ¬ OffsetText (Text.trim "EST".toList) n) ∧
      (∀ n, ¬ ToleratedText (Text.trim "EST".toList) n) ∧ ¬ CutText (Text.trim "EST".toList) ∧
      parseOffset "EST" = .error (.badZone "EST") := by
  have clock : Clock "08:30".toList 30600 :=
    @Clock.minutes "08".toList [':'] "30".toList ⟨by decide, List.all_eq_true.mp rfl⟩ rfl
      (by decide) ⟨by decide, List.all_eq_true.mp rfl⟩ rfl (by decide) (by decide)
  have text : OffsetText (Text.trim " GMT-08:30 ".toList) (-30600) :=
    .clock (@Behind.name "GMT".toList (by decide) "-08:30".toList) (.west clock)
  have whole {rest : List Char} (behind : Behind "EST".toList rest) : rest = "EST".toList :=
    behind.whole (by simp)
  have none : ∀ n, ¬ OffsetText (Text.trim "EST".toList) n := by
    rintro n (⟨behind, none⟩ | ⟨behind, signed⟩)
    · cases whole behind
      simp at none
    · cases whole behind
      cases signed
  have noRead : ∀ n, ¬ ToleratedText (Text.trim "EST".toList) n := by
    rintro n ⟨behind, signed⟩
    cases whole behind
    cases signed
  have noCut : ¬ CutText (Text.trim "EST".toList) := by
    rintro ⟨isSign, behind, -⟩
    cases whole behind
    exact absurd isSign (by decide)
  exact ⟨⟨text, (offset_text " GMT-08:30 ").1 _ text⟩, none, noRead, noCut,
    (offset_text "EST").2.2.2 none noRead noCut⟩

theorem Clock.digit_or_colon {cs : List Char} {n : Int} (clock : Clock cs n) :
    ∀ c ∈ cs, Number.isDigit c = true ∨ c = ':' := by
  cases clock with
  | hours isHours => exact fun c isIn => .inl (isHours.all c isIn)
  | minutes isHours _ isColon isMinutes =>
    refine List.forall_mem_append.mpr ⟨fun c isIn => .inl (isHours.all c isIn),
      List.forall_mem_append.mpr ⟨fun c isIn => .inr ?_, fun c isIn => .inl (isMinutes.all c isIn)⟩⟩
    simp only [List.mem_cons, List.not_mem_nil, or_false] at isColon
    rcases isColon with rfl | rfl
    · cases isIn
    · exact List.mem_singleton.mp isIn

theorem Clock.first {cs : List Char} {n : Int} (clock : Clock cs n) :
    ∃ c more, cs = c :: more ∧ Number.isDigit c = true := by
  cases clock with
  | hours isHours => exact isHours.cons
  | minutes isHours =>
    obtain ⟨c, more, rfl, digit⟩ := isHours.cons
    exact ⟨c, _, rfl, digit⟩

/-- Behind a sign in front there are hours. -/
theorem OffsetText.clock_of_sign {sign : Char} {cs : List Char} {n : Int}
    (isSign : sign = '+' ∨ sign = '-') (text : OffsetText (sign :: cs) n) : ∃ m, Clock cs m := by
  have whole {rest : List Char} (behind : Behind (sign :: cs) rest) : rest = sign :: cs := by
    refine behind.whole fun c isFirst => ?_
    cases isFirst
    rcases isSign with rfl | rfl <;> decide
  cases text with
  | zero behind none =>
    cases whole behind
    rcases isSign with rfl | rfl <;> simp at none
  | clock behind signed =>
    cases whole behind
    cases signed with
    | east clock => exact ⟨_, clock⟩
    | west clock => exact ⟨_, clock⟩

/-- A second sign is read in the place of a digit, a colon is passed over in front of the hours, and
a character of two bytes between two digits makes reading break off. -/
theorem stray_characters_read :
    (parseOffset "++5" = .ok 18000 ∧ ∀ n, ¬ OffsetText "++5".toList n) ∧
      (parseOffset "+:5" = .ok 18000 ∧ ∀ n, ¬ OffsetText "+:5".toList n) ∧
      parseOffset "+1é1" = .error (.cutCharacter "+1é1") ∧
      ∀ n, ¬ OffsetText "+1é1".toList n := by
  refine ⟨⟨by decide, fun n text => ?_⟩, ⟨by decide, fun n text => ?_⟩, by decide,
    fun n text => ?_⟩
  · obtain ⟨m, clock⟩ := text.clock_of_sign (.inl rfl)
    exact absurd (clock.digit_or_colon '+' (by decide)) (by decide)
  · obtain ⟨m, clock⟩ := text.clock_of_sign (.inl rfl)
    obtain ⟨c, more, same, digit⟩ := clock.first
    cases same
    cases digit
  · obtain ⟨m, clock⟩ := text.clock_of_sign (.inl rfl)
    exact absurd (clock.digit_or_colon 'é' (by decide)) (by decide)

end DocExpr.Calendar
