import VectorQuery.Proofs.GraphQL.Lexeme

/-! The numbers of the lexical grammar. Each reader takes exactly the texts of its class, and as many
characters as belong to them. -/
namespace VectorQuery.GraphQL

lemma stops_nil (p : Char → Bool) : Stops p [] := by simp [Stops]

lemma stops_dropWhile (p : Char → Bool) (s : List Char) : Stops p (s.dropWhile p) := by
  intro c hc
  have h := List.head?_dropWhile_not p s
  rw [Option.mem_def.1 hc] at h
  simpa using h

lemma takeWhile_append_stops {p : Char → Bool} {w r : List Char} (hw : ∀ c ∈ w, p c = true)
    (hr : Stops p r) : (w ++ r).takeWhile p = w := by
  rw [List.takeWhile_append_of_pos hw]
  cases r with
  | nil => simp
  | cons c r => simp [hr c (by simp)]

lemma dropWhile_append_stops {p : Char → Bool} {w r : List Char} (hw : ∀ c ∈ w, p c = true)
    (hr : Stops p r) : (w ++ r).dropWhile p = r := by
  rw [List.dropWhile_append_of_pos hw]
  cases r with
  | nil => rfl
  | cons c r => simp [hr c (by simp)]

lemma mem_takeWhile {p : Char → Bool} {s : List Char} : ∀ c ∈ s.takeWhile p, p c = true :=
  List.all_eq_true.1 List.all_takeWhile

/-- The digits of an integer with or without a sign. -/
def IsInteger (w : List Char) : Prop :=
  ∃ ds, (w = ds ∨ w = '-' :: ds) ∧ isWhole ds = true ∧ ∀ c ∈ ds, c.isDigit = true

/-- One digit or more. -/
def IsDigits (ds : List Char) : Prop := ds ≠ [] ∧ ∀ c ∈ ds, c.isDigit = true

/-- A point with digits, or nothing. -/
def IsFraction (f : List Char) : Prop := f = [] ∨ ∃ ds, f = '.' :: ds ∧ IsDigits ds

/-- An exponent mark with digits that may have a sign, or nothing. -/
def IsExponent (e : List Char) : Prop :=
  e = [] ∨ ∃ c sgn ds, e = c :: sgn ++ ds ∧ isExponentMark c = true ∧
    (sgn = [] ∨ sgn = ['+'] ∨ sgn = ['-']) ∧ IsDigits ds

lemma whole?_eq_some_iff {s ds r : List Char} : whole? s = some (ds, r) ↔
    s = ds ++ r ∧ isWhole ds = true ∧ (∀ c ∈ ds, c.isDigit = true) ∧ Stops Char.isDigit r := by
  simp only [whole?, Option.ite_none_right_eq_some, Option.some.injEq, Prod.mk.injEq]
  constructor
  · rintro ⟨hw, rfl, rfl⟩
    exact ⟨List.takeWhile_append_dropWhile.symm, hw, mem_takeWhile, stops_dropWhile _ _⟩
  · rintro ⟨rfl, hw, hd, hr⟩
    rw [takeWhile_append_stops hd hr, dropWhile_append_stops hd hr]
    exact ⟨hw, rfl, rfl⟩

lemma integer?_eq_some_iff {s w r : List Char} : integer? s = some (w, r) ↔
    s = w ++ r ∧ IsInteger w ∧ Stops Char.isDigit r := by
  constructor
  · intro h
    unfold integer? at h
    split at h
    · obtain ⟨⟨ds, q⟩, hq, he⟩ := Option.map_eq_some_iff.1 h
      obtain ⟨rfl, hw, hd, hr⟩ := whole?_eq_some_iff.1 hq
      cases he
      exact ⟨rfl, ⟨ds, .inr rfl, hw, hd⟩, hr⟩
    · obtain ⟨hs, hw, hd, hr⟩ := whole?_eq_some_iff.1 h
      exact ⟨hs, ⟨w, .inl rfl, hw, hd⟩, hr⟩
  · rintro ⟨rfl, ⟨ds, rfl | rfl, hw, hd⟩, hr⟩
    · have h := whole?_eq_some_iff.2 ⟨rfl, hw, hd, hr⟩
      unfold integer?
      split
      · rename_i q hq
        cases w with
        | nil => simp [isWhole] at hw
        | cons c w =>
          obtain rfl : c = '-' := (List.cons.inj hq).1
          exact absurd (hd '-' (by simp)) (by decide)
      · exact h
    · have h := whole?_eq_some_iff.2 ⟨rfl, hw, hd, hr⟩
      simp [integer?, h]

lemma fraction?_eq_some_iff {s f r : List Char} : fraction? s = some (f, r) ↔
    s = f ++ r ∧ ((f = [] ∧ Stops (· == '.') r) ∨
      ∃ ds, f = '.' :: ds ∧ IsDigits ds ∧ Stops Char.isDigit r) := by
  constructor
  · intro h
    unfold fraction? at h
    split at h
    · rename_i q
      simp only [Option.ite_none_left_eq_some, Option.some.injEq, Prod.mk.injEq] at h
      obtain ⟨hne, rfl, rfl⟩ := h
      refine ⟨by simp, .inr ⟨_, rfl, ⟨by simpa using hne, mem_takeWhile⟩, stops_dropWhile _ _⟩⟩
    · rename_i hs
      cases h
      refine ⟨rfl, .inl ⟨rfl, ?_⟩⟩
      intro c hc
      cases s with
      | nil => cases hc
      | cons a s =>
        obtain rfl : a = c := by simpa using hc
        simpa using fun h : a = '.' => hs s (h ▸ rfl)
  · rintro ⟨rfl, ⟨rfl, hr⟩ | ⟨ds, rfl, ⟨hne, hd⟩, hr⟩⟩
    · unfold fraction?
      split
      · rename_i q hq
        rw [List.nil_append] at hq
        exact absurd (hr '.' (by simp [hq])) (by decide)
      · rfl
    · simp [fraction?, takeWhile_append_stops hd hr, dropWhile_append_stops hd hr, hne]

lemma sign_spec (s : List Char) : s = (sign s).1 ++ (sign s).2 ∧
    ((sign s).1 = [] ∨ (sign s).1 = ['+'] ∨ (sign s).1 = ['-']) := by
  unfold sign
  split <;> simp

lemma sign_append {sgn ds r : List Char} (hs : sgn = [] ∨ sgn = ['+'] ∨ sgn = ['-'])
    (hd : IsDigits ds) : sign (sgn ++ (ds ++ r)) = (sgn, ds ++ r) := by
  rcases hs with rfl | rfl | rfl
  · obtain ⟨hne, hd⟩ := hd
    cases ds with
    | nil => exact absurd rfl hne
    | cons c ds =>
      have hc := hd c (by simp)
      unfold sign
      split
      · rename_i h
        obtain rfl : c = '+' := (List.cons.inj h).1
        exact absurd hc (by decide)
      · rename_i h
        obtain rfl : c = '-' := (List.cons.inj h).1
        exact absurd hc (by decide)
      · rfl
  · rfl
  · rfl

lemma exponent?_eq_some_iff {s e r : List Char} : exponent? s = some (e, r) ↔
    s = e ++ r ∧ ((e = [] ∧ Stops isExponentMark r) ∨
      ∃ c sgn ds, e = c :: sgn ++ ds ∧ isExponentMark c = true ∧
        (sgn = [] ∨ sgn = ['+'] ∨ sgn = ['-']) ∧ IsDigits ds ∧ Stops Char.isDigit r) := by
  constructor
  · intro h
    unfold exponent? at h
    split at h
    · cases h
      exact ⟨rfl, .inl ⟨rfl, stops_nil _⟩⟩
    · rename_i c q
      split at h
      · rename_i hc
        obtain ⟨hq, hs⟩ := sign_spec q
        simp only [Option.ite_none_left_eq_some, Option.some.injEq, Prod.mk.injEq] at h
        obtain ⟨hne, rfl, rfl⟩ := h
        refine ⟨?_, .inr ⟨c, _, _, rfl, hc, hs, ⟨by simpa using hne, mem_takeWhile⟩,
          stops_dropWhile _ _⟩⟩
        rw [List.cons_append, List.cons_append, List.append_assoc,
          List.takeWhile_append_dropWhile, ← hq]
      · rename_i hc
        cases h
        exact ⟨rfl, .inl ⟨rfl, by simpa [Stops] using hc⟩⟩
  · rintro ⟨rfl, ⟨rfl, hr⟩ | ⟨c, sgn, ds, rfl, hc, hs, hd, hr⟩⟩
    · cases r with
      | nil => rfl
      | cons c r => simp [exponent?, hr c (by simp)]
    · simp only [List.cons_append, List.append_assoc, exponent?, hc, if_true, sign_append hs hd,
        takeWhile_append_stops hd.2 hr, dropWhile_append_stops hd.2 hr]
      simp [hd.1]

/-- The numbers of the grammar. -/
def IsNumber : Token → Prop
  | .int w => IsInteger w
  | .float w => ∃ i f e, w = i ++ f ++ e ∧ IsInteger i ∧ IsFraction f ∧ IsExponent e ∧ f ++ e ≠ []
  | _ => False

/-- The characters of a number token; other tokens are none. -/
def numberText : Token → List Char
  | .int w => w
  | .float w => w
  | _ => []

lemma stops_of_extendsNumber {p : Char → Bool} {r : List Char} (hr : Stops extendsNumber r)
    (hp : ∀ c, p c = true → extendsNumber c = true) : Stops p r := by
  intro c hc
  cases h : p c with
  | false => rfl
  | true => rw [← hr c hc, hp c h]

lemma extendsNumber_of_isDigit (c : Char) (h : c.isDigit = true) : extendsNumber c = true := by
  simp [extendsNumber, h]

lemma extendsNumber_of_isPoint (c : Char) (h : (c == '.') = true) : extendsNumber c = true := by
  simp [extendsNumber, h]

lemma extendsNumber_of_isExponentMark (c : Char) (h : isExponentMark c = true) :
    extendsNumber c = true := by
  simp only [isExponentMark, Bool.or_eq_true, beq_iff_eq] at h
  rcases h with rfl | rfl <;> decide

/-- What follows the digits of an integer is no digit. -/
lemma stops_isDigit_fraction {f e r : List Char} (hf : IsFraction f) (he : IsExponent e)
    (hr : Stops extendsNumber r) : Stops Char.isDigit (f ++ (e ++ r)) := by
  rcases hf with rfl | ⟨ds, rfl, -⟩
  · rcases he with rfl | ⟨c, sgn, ds, rfl, hc, -⟩
    · exact stops_of_extendsNumber hr extendsNumber_of_isDigit
    · simp only [isExponentMark, Bool.or_eq_true, beq_iff_eq] at hc
      rcases hc with rfl | rfl <;> simp [Stops]
  · simp [Stops]

lemma fraction?_append {f e r : List Char} (hf : IsFraction f) (he : IsExponent e)
    (hr : Stops extendsNumber r) : fraction? (f ++ (e ++ r)) = some (f, e ++ r) := by
  have hstop (p : Char → Bool) (hp : ∀ c, p c = true → extendsNumber c = true)
      (hm : ∀ c, isExponentMark c = true → p c = false) : Stops p (e ++ r) := by
    rcases he with rfl | ⟨c, sgn, ds, rfl, hc, -⟩
    · exact stops_of_extendsNumber hr hp
    · simpa [Stops] using hm c hc
  have hmark (p : Char → Bool) (he : p 'e' = false) (hE : p 'E' = false) (c : Char)
      (hc : isExponentMark c = true) : p c = false := by
    simp only [isExponentMark, Bool.or_eq_true, beq_iff_eq] at hc
    rcases hc with rfl | rfl <;> assumption
  refine fraction?_eq_some_iff.2 ⟨rfl, ?_⟩
  rcases hf with rfl | ⟨ds, rfl, hd⟩
  · exact .inl ⟨rfl, hstop _ extendsNumber_of_isPoint (hmark _ rfl rfl)⟩
  · exact .inr ⟨ds, rfl, hd, hstop _ extendsNumber_of_isDigit (hmark _ rfl rfl)⟩

lemma exponent?_append {e r : List Char} (he : IsExponent e) (hr : Stops extendsNumber r) :
    exponent? (e ++ r) = some (e, r) := by
  refine exponent?_eq_some_iff.2 ⟨rfl, ?_⟩
  rcases he with rfl | ⟨c, sgn, ds, rfl, hc, hs, hd⟩
  · exact .inl ⟨rfl, stops_of_extendsNumber hr extendsNumber_of_isExponentMark⟩
  · exact .inr ⟨c, sgn, ds, rfl, hc, hs, hd, stops_of_extendsNumber hr extendsNumber_of_isDigit⟩

/-- The token of a number that is read in three parts. -/
lemma number?_parts {i f e r : List Char} (hi : IsInteger i) (hf : IsFraction f)
    (he : IsExponent e) (hr : Stops extendsNumber r) : number? (i ++ f ++ e ++ r) =
      some (if (f ++ e).isEmpty then .int i else .float (i ++ f ++ e), r) := by
  have hi' := integer?_eq_some_iff.2 ⟨rfl, hi, stops_isDigit_fraction hf he hr⟩
  have hstop : r.head?.any extendsNumber = false := by
    cases r with
    | nil => rfl
    | cons c r => simpa using hr c (by simp)
  simp [number?, List.append_assoc, hi', fraction?_append hf he hr, exponent?_append he hr, hstop]

/-- A number is read exactly where one of the grammar stands that nothing extends. -/
theorem number?_eq_some_iff {s r : List Char} {t : Token} : number? s = some (t, r) ↔
    IsNumber t ∧ s = numberText t ++ r ∧ Stops extendsNumber r := by
  constructor
  · intro h
    simp only [number?, Option.bind_eq_bind, Option.bind_eq_some_iff, Prod.exists] at h
    obtain ⟨i, q, readI, f, q', readF, e, q'', readE, h⟩ := h
    obtain ⟨rfl, hi, -⟩ := integer?_eq_some_iff.1 readI
    obtain ⟨rfl, hf⟩ := fraction?_eq_some_iff.1 readF
    obtain ⟨rfl, he⟩ := exponent?_eq_some_iff.1 readE
    simp only [Option.ite_none_left_eq_some, Option.some.injEq, Prod.mk.injEq] at h
    obtain ⟨hr, rfl, rfl⟩ := h
    have hf : IsFraction f := hf.imp And.left fun ⟨ds, h, hd, _⟩ => ⟨ds, h, hd⟩
    have he : IsExponent e := he.imp And.left
      fun ⟨c, sgn, ds, h, hc, hs, hd, _⟩ => ⟨c, sgn, ds, h, hc, hs, hd⟩
    have hr : Stops extendsNumber q'' := by
      intro c hc
      rw [Option.mem_def] at hc
      simpa [hc] using hr
    split
    · rename_i hfe
      obtain ⟨rfl, rfl⟩ : f = [] ∧ e = [] := by simpa using hfe
      exact ⟨hi, by simp [numberText], hr⟩
    · rename_i hfe
      exact ⟨⟨i, f, e, rfl, hi, hf, he, by simpa using hfe⟩, by simp [numberText], hr⟩
  · rintro ⟨ht, rfl, hr⟩
    cases t with
    | int w => simpa [numberText] using number?_parts (f := []) (e := []) ht (.inl rfl) (.inl rfl) hr
    | float w =>
      obtain ⟨i, f, e, rfl, hi, hf, he, hne⟩ := ht
      rw [numberText, number?_parts hi hf he hr, if_neg (by simpa using hne)]
    | _ => exact absurd ht (by simp [IsNumber])

/-- The characters of numbers. -/
def isNumberChar (c : Char) : Bool := c.isDigit || "+-.eE".toList.contains c

lemma isNumberChar_of_isDigits {ds : List Char} (h : ∀ c ∈ ds, c.isDigit = true) :
    ∀ c ∈ ds, isNumberChar c = true := by
  intro c hc
  simp [isNumberChar, h c hc]

lemma isNumberChar_of_isInteger {w : List Char} (h : IsInteger w) :
    ∀ c ∈ w, isNumberChar c = true := by
  obtain ⟨ds, rfl | rfl, -, hd⟩ := h
  · exact isNumberChar_of_isDigits hd
  · simpa using ⟨by decide, isNumberChar_of_isDigits hd⟩

lemma isNumberChar_of_isFraction {f : List Char} (h : IsFraction f) :
    ∀ c ∈ f, isNumberChar c = true := by
  rcases h with rfl | ⟨ds, rfl, -, hd⟩
  · simp
  · simpa using ⟨by decide, isNumberChar_of_isDigits hd⟩

lemma isNumberChar_of_isExponent {e : List Char} (h : IsExponent e) :
    ∀ c ∈ e, isNumberChar c = true := by
  rcases h with rfl | ⟨c, sgn, ds, rfl, hc, hs, -, hd⟩
  · simp
  · have hm : isNumberChar c = true := by
      simp only [isExponentMark, Bool.or_eq_true, beq_iff_eq] at hc
      rcases hc with rfl | rfl <;> decide
    have hsgn : ∀ x ∈ sgn, isNumberChar x = true := by
      rcases hs with rfl | rfl | rfl <;> simp [isNumberChar]
    intro x hx
    rcases List.mem_append.1 hx with hx | hx
    · rcases List.mem_cons.1 hx with rfl | hx
      · exact hm
      · exact hsgn x hx
    · exact isNumberChar_of_isDigits hd x hx

lemma isNumberChar_of_isNumber {t : Token} (h : IsNumber t) :
    ∀ c ∈ numberText t, isNumberChar c = true := by
  cases t with
  | int w => exact isNumberChar_of_isInteger h
  | float w =>
    obtain ⟨i, f, e, rfl, hi, hf, he, -⟩ := h
    intro c hc
    simp only [numberText, List.mem_append] at hc
    rcases hc with (hc | hc) | hc
    · exact isNumberChar_of_isInteger hi c hc
    · exact isNumberChar_of_isFraction hf c hc
    · exact isNumberChar_of_isExponent he c hc
  | _ => exact absurd h (by simp [IsNumber])

end VectorQuery.GraphQL
