import VectorQuery.Filter.FilterValue
import VectorQuery.Proofs.GraphQL.NumberValue

/-! Dates as RFC 3339 text. The date-times of the standard are read by its grammar, and a moment on the wire is read
back to the moment, whatever its date, its time and its fraction are, if its offset is one of whole minutes. The
standard has no text for other offsets. -/
namespace VectorQuery.Text

variable {width n : Nat}

lemma length_padded (hwidth : 0 < width) (hn : n < 10 ^ width) : (padded width n).length = width := by
  have hle : (Nat.toDigits 10 n).length ≤ width :=
    (Nat.length_toDigits_le_iff (by decide) hwidth).2 hn
  rw [padded, List.length_append, List.length_replicate]
  omega

lemma isDigit_of_mem_padded : ∀ c ∈ padded width n, c.isDigit = true := by
  intro c hc
  rcases List.mem_append.1 hc with hzero | hdigit
  · rw [List.eq_of_mem_replicate hzero]
    rfl
  · exact GraphQL.isDigit_toDigits c hdigit

lemma ofDigitChars_padded : Nat.ofDigitChars 10 (padded width n) 0 = n := by
  rw [padded, Nat.ofDigitChars_append, Nat.ofDigitChars_replicate_zero, Nat.mul_zero,
    Nat.ofDigitChars_ten_toDigits]

end VectorQuery.Text

namespace VectorQuery.Moment

variable {t : Moment}

/-- The bounds of the parts of a moment. -/
structure InCalendar (t : Moment) : Prop where
  year : 1 ≤ t.year ∧ t.year ≤ 9999
  month : 1 ≤ t.month ∧ t.month ≤ 12
  day : 1 ≤ t.day ∧ t.day ≤ daysIn t.year t.month
  hour : t.hour < 24
  minute : t.minute < 60
  second : t.second < 60
  microsecond : t.microsecond < 1000000
  offset : ∀ o, t.offset = some o → o.microseconds.natAbs < 86400000000

lemma inCalendar_of_isValid (h : t.isValid = true) : t.InCalendar := by
  simp only [isValid, Bool.and_eq_true, decide_eq_true_eq, Option.all_eq_true_iff_get,
    and_assoc] at h
  obtain ⟨hyear, hyear', hmonth, hmonth', hday, hday', hhour, hminute, hsecond, hmicro, hoffset⟩ := h
  refine ⟨⟨hyear, hyear'⟩, ⟨hmonth, hmonth'⟩, ⟨hday, hday'⟩, hhour, hminute, hsecond, hmicro, ?_⟩
  intro o ho
  simpa [ho] using hoffset

lemma InCalendar.inUniversalTime (h : t.InCalendar) : t.inUniversalTime.InCalendar := by
  refine ⟨h.year, h.month, h.day, h.hour, h.minute, h.second, h.microsecond, ?_⟩
  rintro o ⟨⟩
  cases hoffset : t.offset with
  | none => decide
  | some o => exact h.offset o hoffset

end VectorQuery.Moment

namespace VectorQuery.Rfc3339
open Text

/-! ### The grammar -/

/-- The number that a text begins with in so many digits, and the rest of the text. -/
def number? (count : Nat) (s : List Char) : Option (Nat × List Char) :=
  let ds := s.take count
  if ds.length = count ∧ ds.all Char.isDigit then
    some (Nat.ofDigitChars 10 ds 0, s.drop count)
  else none

/-- The rest of a text behind a character. -/
def after? (c : Char) : List Char → Option (List Char)
  | [] => none
  | x :: r => if x = c then some r else none

/-- A year of four digits, a month, and a day that the month has. -/
def date? (s : List Char) : Option (Day × List Char) := do
  let (year, s) ← number? 4 s
  let s ← after? '-' s
  let (month, s) ← number? 2 s
  let s ← after? '-' s
  let (day, s) ← number? 2 s
  if 1 ≤ month ∧ month ≤ 12 ∧ 1 ≤ day ∧ day ≤ Moment.daysIn year month then
    some (⟨year, month, day⟩, s)
  else none

/-- A time of day to the second; a minute may have a leap second. -/
def clock? (s : List Char) : Option ((Nat × Nat × Nat) × List Char) := do
  let (hour, s) ← number? 2 s
  let s ← after? ':' s
  let (minute, s) ← number? 2 s
  let s ← after? ':' s
  let (second, s) ← number? 2 s
  if hour ≤ 23 ∧ minute ≤ 59 ∧ second ≤ 60 then some ((hour, minute, second), s) else none

/-- The microseconds of the digits behind a point, or none of them where there is no point. Digits behind the
sixth do not count. -/
def fraction? : List Char → Option (Nat × List Char)
  | '.' :: s =>
    let ds := s.takeWhile Char.isDigit
    if ds.isEmpty then none
    else some (Nat.ofDigitChars 10 ((ds ++ List.replicate 6 '0').take 6) 0, s.drop ds.length)
  | s => some (0, s)

/-- A number with its sign. -/
def signed? (sign : Char) (n : Nat) : Option Int :=
  if sign = '+' then some n else if sign = '-' then some (-n) else none

/-- A sign, hours and minutes, with nothing behind them. -/
def numericOffset? : List Char → Option Offset
  | [] => none
  | sign :: s => do
    let (hour, s) ← number? 2 s
    let s ← after? ':' s
    let (minute, s) ← number? 2 s
    if s = [] ∧ hour ≤ 23 ∧ minute ≤ 59 then
      (signed? sign ((hour * 60 + minute) * 60000000)).map Offset.mk
    else none

/-- The letter of universal time, or an offset in numbers. -/
def offset? (s : List Char) : Option Offset :=
  if s = ['Z'] ∨ s = ['z'] then some .zero else numericOffset? s

/-- A date-time that ends in an offset of one of the two kinds. -/
def dateTime? (offsets : List Char → Option Offset) (s : List Char) : Option Moment := do
  let (day, s) ← date? s
  let s ← (after? 'T' s).or (after? 't' s)
  let ((hour, minute, second), s) ← clock? s
  let (microsecond, s) ← fraction? s
  let offset ← offsets s
  pure ⟨day.year, day.month, day.day, hour, minute, second, microsecond, some offset⟩

/-! ### The parts of a moment -/

variable {r : List Char}

lemma number?_padded {count n : Nat} (hcount : 0 < count) (hn : n < 10 ^ count) (r : List Char) :
    number? count (padded count n ++ r) = some (n, r) := by
  have hlength := length_padded hcount hn
  have htake : (padded count n ++ r).take count = padded count n := List.take_left' hlength
  have hdrop : (padded count n ++ r).drop count = r := List.drop_left' hlength
  have hall : (padded count n).all Char.isDigit = true := List.all_eq_true.2 isDigit_of_mem_padded
  rw [number?, htake, hdrop, if_pos ⟨hlength, hall⟩, ofDigitChars_padded]

lemma number?_two {n : Nat} (hn : n < 100) (r : List Char) :
    number? 2 (padded 2 n ++ r) = some (n, r) := number?_padded (by decide) hn r

@[simp] lemma after?_cons (c : Char) (r : List Char) : after? c (c :: r) = some r := if_pos rfl

lemma daysIn_le (y m : Nat) : Moment.daysIn y m ≤ 31 := by
  unfold Moment.daysIn
  split
  · split <;> decide
  · split <;> decide

lemma date?_append {year month day : Nat} (hyear : year ≤ 9999) (hmonth : 1 ≤ month ∧ month ≤ 12)
    (hday : 1 ≤ day ∧ day ≤ Moment.daysIn year month) (r : List Char) :
    date? (padded 4 year ++ '-' :: (padded 2 month ++ '-' :: (padded 2 day ++ r))) =
      some (⟨year, month, day⟩, r) := by
  have hle := daysIn_le year month
  have hcalendar : 1 ≤ month ∧ month ≤ 12 ∧ 1 ≤ day ∧ day ≤ Moment.daysIn year month :=
    ⟨hmonth.1, hmonth.2, hday⟩
  simp only [date?, number?_padded (by decide : 0 < 4) (by omega : year < 10 ^ 4), after?_cons,
    number?_two (by omega : month < 100), number?_two (by omega : day < 100), Option.bind_eq_bind,
    Option.bind_some, if_pos hcalendar]

lemma clock?_append {hour minute second : Nat} (hhour : hour < 24) (hminute : minute < 60)
    (hsecond : second < 60) (r : List Char) :
    clock? (padded 2 hour ++ ':' :: (padded 2 minute ++ ':' :: (padded 2 second ++ r))) =
      some ((hour, minute, second), r) := by
  have htime : hour ≤ 23 ∧ minute ≤ 59 ∧ second ≤ 60 := by omega
  simp only [clock?, number?_two (by omega : hour < 100), after?_cons,
    number?_two (by omega : minute < 100), number?_two (by omega : second < 100),
    Option.bind_eq_bind, Option.bind_some, if_pos htime]

/-- A fraction ends in front of a sign. -/
lemma fraction?_append {microsecond : Nat} (h : microsecond < 1000000) {sign : Char}
    (hdigit : sign.isDigit = false) (hpoint : sign ≠ '.') (r : List Char) :
    fraction? ((if microsecond = 0 then [] else '.' :: padded 6 microsecond) ++ sign :: r) =
      some (microsecond, sign :: r) := by
  split
  · rename_i hzero
    rw [hzero, List.nil_append, fraction?]
    exact fun s hs => hpoint (List.cons.inj hs).1
  · have hlength : (padded 6 microsecond).length = 6 := length_padded (by decide) h
    have hstop : GraphQL.Stops Char.isDigit (sign :: r) := by simpa [GraphQL.Stops] using hdigit
    have hdigits : ∀ c ∈ padded 6 microsecond, c.isDigit = true := isDigit_of_mem_padded
    have htake := GraphQL.takeWhile_append_stops hdigits hstop
    have hne : (padded 6 microsecond).isEmpty = false := by
      rw [List.isEmpty_eq_false_iff, ← List.length_pos_iff, hlength]
      decide
    simp only [List.cons_append, fraction?, htake, hne, List.drop_left, List.take_left' hlength,
      ofDigitChars_padded]
    rfl

/-- The sign of an offset. -/
def offsetSign (s : Int) : Char := if s < 0 then '-' else '+'

lemma signed?_offsetSign (s : Int) : signed? (offsetSign s) s.natAbs = some s := by
  unfold offsetSign signed?
  split
  · rw [if_neg (by decide), if_pos rfl, Option.some.injEq]
    omega
  · rw [if_pos rfl, Option.some.injEq]
    omega

lemma isDigit_offsetSign (s : Int) : (offsetSign s).isDigit = false ∧ offsetSign s ≠ '.' := by
  unfold offsetSign
  split <;> decide

/-- What is behind the minutes of an offset: its seconds and their fraction, where there are some. -/
def offsetSeconds (n : Nat) : List Char :=
  if n % 60000000 = 0 then []
  else ':' :: padded 2 (n / 1000000 % 60) ++
    (if n % 1000000 = 0 then [] else '.' :: padded 6 (n % 1000000))

lemma offsetSeconds_eq_nil_iff {n : Nat} : offsetSeconds n = [] ↔ n % 60000000 = 0 := by
  rw [offsetSeconds, ite_eq_left_iff]
  simp

lemma text_offset (o : Offset) : o.text = offsetSign o.microseconds ::
    (padded 2 (o.microseconds.natAbs / 3600000000) ++
      ':' :: (padded 2 (o.microseconds.natAbs / 60000000 % 60) ++ offsetSeconds o.microseconds.natAbs)) := by
  simp only [Offset.text, offsetSign, offsetSeconds, List.append_assoc, List.cons_append]

/-- An offset in numbers is read back where it is one of whole minutes; any other is no offset. -/
lemma numericOffset?_text {o : Offset} (h : o.microseconds.natAbs < 86400000000) :
    numericOffset? o.text = if o.microseconds % 60000000 = 0 then some o else none := by
  obtain ⟨m⟩ := o
  rw [text_offset]
  simp only at h ⊢
  simp only [numericOffset?, number?_two (by omega : m.natAbs / 3600000000 < 100), after?_cons,
    number?_two (by omega : m.natAbs / 60000000 % 60 < 100), Option.bind_eq_bind, Option.bind_some,
    offsetSeconds_eq_nil_iff]
  by_cases hwhole : m % 60000000 = 0
  · have hparts : (m.natAbs / 3600000000 * 60 + m.natAbs / 60000000 % 60) * 60000000 = m.natAbs := by
      omega
    rw [if_pos (by omega), hparts, signed?_offsetSign, if_pos hwhole]
    rfl
  · rw [if_neg fun hparts => hwhole (by omega), if_neg hwhole]

/-- An offset in numbers is not the letter of universal time. -/
lemma offset?_text (o : Offset) : offset? o.text = numericOffset? o.text := by
  have hletter (c : Char) : o.text ≠ [c] := by
    rw [text_offset]
    intro h
    have hlength := congrArg List.length h
    simp only [List.length_cons, List.length_append, List.length_nil] at hlength
    omega
  exact if_neg fun h => h.elim (hletter 'Z') (hletter 'z')

/-! ### Moments -/

/-- All but the offset of a moment is read back, and the offset as far as it can be read. -/
lemma dateTime?_iso {t : Moment} (h : t.InCalendar) {o : Offset} (ho : t.offset = some o)
    (offsets : List Char → Option Offset) : dateTime? offsets t.iso =
      (offsets o.text).map fun o => { t with offset := some o } := by
  obtain ⟨hdigit, hpoint⟩ := isDigit_offsetSign o.microseconds
  have hiso : t.iso = padded 4 t.year ++ '-' :: (padded 2 t.month ++ '-' :: (padded 2 t.day ++
      'T' :: (padded 2 t.hour ++ ':' :: (padded 2 t.minute ++ ':' :: (padded 2 t.second ++
        ((if t.microsecond = 0 then [] else '.' :: padded 6 t.microsecond) ++ o.text)))))) := by
    simp only [Moment.iso, Moment.text, ho, List.append_assoc, List.cons_append]
  simp only [hiso, text_offset, dateTime?, date?_append h.year.2 h.month h.day, after?_cons,
    clock?_append h.hour h.minute h.second, fraction?_append h.microsecond hdigit hpoint,
    Option.bind_eq_bind, Option.bind_some, Option.or, Option.map_eq_bind]
  rfl

/-- A moment on the wire is a date-time of the standard if its offset is one of whole minutes, and then it has the same
date and time and the same offset, which is zero for a moment without one. Other moments are not of that form,
neither with an offset in numbers nor with any that the standard has. -/
theorem dateTime?_wireText {t : Moment} (h : t.isValid = true) {offsets : List Char → Option Offset}
    (hoffsets : offsets = numericOffset? ∨ offsets = offset?) :
    dateTime? offsets (DateValue.moment t).wireText.content.toList =
      if (t.offset.getD .zero).microseconds % 60000000 = 0 then
        some { t with offset := some (t.offset.getD .zero) }
      else none := by
  have hcalendar := (Moment.inCalendar_of_isValid h).inUniversalTime
  have hread : offsets (t.offset.getD .zero).text =
      if (t.offset.getD .zero).microseconds % 60000000 = 0 then some (t.offset.getD .zero) else none := by
    have hnumeric := numericOffset?_text (hcalendar.offset _ rfl)
    rcases hoffsets with rfl | rfl
    · exact hnumeric
    · exact (offset?_text _).trans hnumeric
  rw [DateValue.wireText, MarkedText.content_plain, String.toList_ofList,
    dateTime?_iso hcalendar rfl offsets, hread]
  split <;> rfl

/-- The last microsecond of a leap day, and an offset west of universal time. -/
theorem dateTime?_wireText_leapDay :
    (Moment.mk 2024 2 29 23 59 59 999999 (some (.ofSeconds (-12600)))).isValid = true ∧
    dateTime? numericOffset? "2024-02-29T23:59:59.999999-03:30".toList =
      some ⟨2024, 2, 29, 23, 59, 59, 999999, some (.ofSeconds (-12600))⟩ := by
  have hvalid : (Moment.mk 2024 2 29 23 59 59 999999 (some (.ofSeconds (-12600)))).isValid = true := by
    decide
  have htext : (DateValue.moment ⟨2024, 2, 29, 23, 59, 59, 999999, some (.ofSeconds (-12600))⟩).wireText =
      .plain "2024-02-29T23:59:59.999999-03:30" := by decide
  have hread := dateTime?_wireText hvalid (.inl rfl)
  rw [htext] at hread
  exact ⟨hvalid, hread⟩

/-- An offset with seconds is sent, or with a part of a second, and no offset of the standard can have them. -/
theorem wireText_offset_seconds :
    (Moment.mk 2024 1 2 0 0 0 0 (some (.ofSeconds 3661))).isValid = true ∧
    (DateValue.moment ⟨2024, 1, 2, 0, 0, 0, 0, some (.ofSeconds 3661)⟩).wireText =
      .plain "2024-01-02T00:00:00+01:01:01" ∧
    dateTime? offset? "2024-01-02T00:00:00+01:01:01".toList = none ∧
    (DateValue.moment ⟨2024, 1, 2, 0, 0, 0, 0, some ⟨500000⟩⟩).wireText =
      .plain "2024-01-02T00:00:00+00:00:00.500000" ∧
    dateTime? offset? "2024-01-02T00:00:00+00:00:00.500000".toList = none := by
  decide

end VectorQuery.Rfc3339
