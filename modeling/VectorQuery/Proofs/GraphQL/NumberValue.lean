import VectorQuery.Proofs.GraphQL.Numeral
import VectorQuery.Proofs.Number.Decimal
import VectorQuery.GraphQL.Value

/-! The numbers that number tokens stand for. Integers and finite doubles are written as tokens that give
them back. -/
namespace VectorQuery.GraphQL

/-! ### Values -/

/-- The digits of a text, without its signs, points and letters. -/
def digitsOf (w : List Char) : List Char := w.filter Char.isDigit

/-- The number that the digits of a text write. -/
def natValue (w : List Char) : Nat := Nat.ofDigitChars 10 (digitsOf w) 0

/-- The integer that digits with at most one sign write. -/
def intValue (w : List Char) : Int := if '-' ∈ w then -(natValue w : Int) else natValue w

/-- The double nearest to the decimal that an integer, a fraction and an exponent write. -/
def floatValue? (w : List Char) : Option Double := do
  let (i, r) ← integer? w
  let (f, r) ← fraction? r
  let (e, r) ← exponent? r
  if r.isEmpty then
    some (Double.ofDecimal (i.contains '-') (natValue (i ++ f)) (intValue e - (digitsOf f).length))
  else none

lemma digitsOf_append (v w : List Char) : digitsOf (v ++ w) = digitsOf v ++ digitsOf w :=
  List.filter_append v w

lemma digitsOf_of_isDigit {ds : List Char} (h : ∀ c ∈ ds, c.isDigit = true) : digitsOf ds = ds :=
  List.filter_eq_self.2 h

lemma not_mem_of_isDigit {ds : List Char} (h : ∀ c ∈ ds, c.isDigit = true) : '-' ∉ ds := fun hc =>
  absurd (h '-' hc) (by decide)

lemma floatValue?_parts {i f e : List Char} (hi : IsInteger i) (hf : IsFraction f)
    (he : IsExponent e) : floatValue? (i ++ f ++ e) = some (Double.ofDecimal (i.contains '-')
      (natValue (i ++ f)) (intValue e - (digitsOf f).length)) := by
  have hend := stops_nil extendsNumber
  have hstop := stops_isDigit_fraction hf he hend
  have hfraction := fraction?_append hf he hend
  have hexponent := exponent?_append he hend
  rw [List.append_nil] at hstop hfraction hexponent
  have hinteger : integer? (i ++ f ++ e) = some (i, f ++ e) :=
    integer?_eq_some_iff.2 ⟨by rw [List.append_assoc], hi, hstop⟩
  rw [floatValue?, hinteger]
  simp only [Option.bind_eq_bind, Option.bind_some, hfraction, hexponent]
  rfl

/-! ### Digits -/

lemma isDigit_toDigits {n : Nat} : ∀ c ∈ Nat.toDigits 10 n, c.isDigit = true := fun _ hc =>
  Nat.isDigit_of_mem_toDigits (by decide) (by decide) hc

/-- A positive number does not begin with a zero. -/
lemma head?_toDigits {n : Nat} (hn : 0 < n) : (Nat.toDigits 10 n).head? ≠ some '0' := by
  induction n using Nat.strongRecOn with
  | ind n ih =>
    by_cases hlt : n < 10
    · rw [Nat.toDigits_of_lt_base hlt]
      have hdigit : ∀ n < 10, 0 < n → n.digitChar ≠ '0' := by decide
      simpa using hdigit n hlt hn
    · have hle : 10 ≤ n := Nat.not_lt.1 hlt
      have hdiv : 0 < n / 10 := Nat.div_pos hle (by decide)
      rw [Nat.toDigits_of_base_le (by decide) hle]
      have := ih (n / 10) (Nat.div_lt_self hn (by decide)) hdiv
      cases hds : Nat.toDigits 10 (n / 10) with
      | nil => exact absurd hds Nat.toDigits_ne_nil
      | cons c ds => simpa [hds] using this

lemma isWhole_of_head? {ds : List Char} (hne : ds ≠ []) (h : ds.head? ≠ some '0') :
    isWhole ds = true := by
  unfold isWhole
  split
  · exact absurd rfl hne
  · rfl
  · simpa using h

lemma isWhole_toDigits (n : Nat) : isWhole (Nat.toDigits 10 n) = true := by
  by_cases hn : n = 0
  · rw [hn, Nat.toDigits_zero]
    rfl
  · exact isWhole_of_head? Nat.toDigits_ne_nil (head?_toDigits (Nat.pos_of_ne_zero hn))

/-! ### Integers -/

/-- An integer is written as an integer token that gives it back. -/
theorem intValue_intChars (i : Int) : IsInteger (intChars i) ∧ intValue (intChars i) = i := by
  have hdigits : ∀ c ∈ Nat.toDigits 10 i.natAbs, c.isDigit = true := isDigit_toDigits
  unfold intChars
  split
  · refine ⟨⟨_, .inr rfl, isWhole_toDigits _, hdigits⟩, ?_⟩
    have hsign : digitsOf ('-' :: Nat.toDigits 10 i.natAbs) = Nat.toDigits 10 i.natAbs :=
      digitsOf_of_isDigit hdigits
    rw [intValue, if_pos (by simp), natValue, hsign, Nat.ofDigitChars_ten_toDigits]
    omega
  · refine ⟨⟨_, .inl rfl, isWhole_toDigits _, hdigits⟩, ?_⟩
    rw [intValue, if_neg (not_mem_of_isDigit hdigits), natValue, digitsOf_of_isDigit hdigits,
      Nat.ofDigitChars_ten_toDigits]
    omega

/-! ### Doubles -/

/-- Digits without their trailing zeros, and those zeros. -/
lemma stripZeros_append (ds : List Char) :
    ∃ j, ds = Double.stripZeros ds ++ List.replicate j '0' := by
  refine ⟨(ds.reverse.takeWhile (· == '0')).length, ?_⟩
  have hzeros : ds.reverse.takeWhile (· == '0') =
      List.replicate (ds.reverse.takeWhile (· == '0')).length '0' :=
    List.eq_replicate_of_mem fun c hc => by simpa using mem_takeWhile (p := (· == '0')) c hc
  rw [Double.stripZeros, ← List.reverse_inj, List.reverse_append, List.reverse_replicate,
    List.reverse_reverse, ← hzeros, List.takeWhile_append_dropWhile]

lemma stripZeros_eq_cons {ds : List Char} (hne : ds ≠ []) (h : ds.head? ≠ some '0') :
    ∃ c r, Double.stripZeros ds = c :: r ∧ c ≠ '0' := by
  obtain ⟨j, hj⟩ := stripZeros_append ds
  cases hs : Double.stripZeros ds with
  | nil =>
    rw [hs, List.nil_append] at hj
    cases j with
    | zero => exact absurd hj hne
    | succ j => exact absurd (by rw [hj]; rfl) h
  | cons c r =>
    rw [hs] at hj
    exact ⟨c, r, rfl, by rintro rfl; exact h (by rw [hj]; rfl)⟩

lemma natValue_of_isDigit {ds : List Char} (h : ∀ c ∈ ds, c.isDigit = true) :
    natValue ds = Nat.ofDigitChars 10 ds 0 := by
  rw [natValue, digitsOf_of_isDigit h]

lemma ofDigitChars_zero_cons (ds : List Char) :
    Nat.ofDigitChars 10 ('0' :: ds) 0 = Nat.ofDigitChars 10 ds 0 := by
  rw [Nat.ofDigitChars_cons]
  rfl

lemma exponentText_spec (e : Int) :
    IsExponent (Double.exponentText e) ∧ intValue (Double.exponentText e) = e := by
  obtain ⟨ds, hds, hdigits, hne, hvalue⟩ : ∃ ds, (if (Nat.toDigits 10 e.natAbs).length < 2
      then '0' :: Nat.toDigits 10 e.natAbs else Nat.toDigits 10 e.natAbs) = ds ∧
      (∀ c ∈ ds, c.isDigit = true) ∧ ds ≠ [] ∧ Nat.ofDigitChars 10 ds 0 = e.natAbs := by
    split
    · refine ⟨_, rfl, ?_, by simp, ?_⟩
      · simpa using isDigit_toDigits
      · rw [ofDigitChars_zero_cons, Nat.ofDigitChars_ten_toDigits]
    · exact ⟨_, rfl, isDigit_toDigits, Nat.toDigits_ne_nil, Nat.ofDigitChars_ten_toDigits⟩
  have htext : Double.exponentText e = 'e' :: [if e < 0 then '-' else '+'] ++ ds := by
    rw [Double.exponentText, hds]
    rfl
  rw [htext]
  constructor
  · refine .inr ⟨'e', _, ds, rfl, rfl, ?_, hne, hdigits⟩
    split
    · exact .inr (.inr rfl)
    · exact .inr (.inl rfl)
  · have hminus := not_mem_of_isDigit hdigits
    split
    · have hnat : natValue ('e' :: ['-'] ++ ds) = e.natAbs := by
        rw [natValue, digitsOf_append, digitsOf_of_isDigit hdigits, ← hvalue]
        rfl
      rw [intValue, if_pos (by simp), hnat]
      omega
    · have hnat : natValue ('e' :: ['+'] ++ ds) = e.natAbs := by
        rw [natValue, digitsOf_append, digitsOf_of_isDigit hdigits, ← hvalue]
        rfl
      rw [intValue, if_neg (by simpa using hminus), hnat]
      omega

/-- A text without a sign that writes `n * 10^x`. Digits may have zeros after those of `n`. -/
def Writes (w : List Char) (n : Nat) (x : Int) : Prop :=
  ∃ (i f e : List Char) (k : Nat), w = i ++ f ++ e ∧ isWhole i = true ∧ (∀ c ∈ i, c.isDigit = true) ∧ IsFraction f ∧
    IsExponent e ∧ f ++ e ≠ [] ∧ natValue (i ++ f) = n * 10 ^ k ∧
    intValue e - (digitsOf f).length + k = x

/-- Digits in front of a point and behind it, with an exponent or without. -/
lemma writes_point {i f e : List Char} {n k : Nat} {x : Int} (hwhole : isWhole i = true)
    (hi : ∀ c ∈ i, c.isDigit = true) (hf : IsDigits f) (he : IsExponent e) (hn : natValue (i ++ f) = n * 10 ^ k)
    (hx : intValue e - f.length + k = x) : Writes (i ++ '.' :: f ++ e) n x := by
  have hpoint : digitsOf ('.' :: f) = digitsOf f := rfl
  refine ⟨i, '.' :: f, e, k, rfl, hwhole, hi, .inr ⟨f, rfl, hf⟩, he, by simp, ?_, ?_⟩
  · rw [← hn, natValue, natValue, digitsOf_append, hpoint, ← digitsOf_append]
  · rw [hpoint, digitsOf_of_isDigit hf.2, hx]

lemma writes_point_nil {i f : List Char} {n k : Nat} {x : Int} (hwhole : isWhole i = true)
    (hi : ∀ c ∈ i, c.isDigit = true) (hf : IsDigits f) (hn : natValue (i ++ f) = n * 10 ^ k) (hx : k - f.length = x) :
    Writes (i ++ '.' :: f) n x := by
  have hnone : intValue [] = 0 := rfl
  have hwrites := writes_point (x := x) hwhole hi hf (.inl rfl) hn (by rw [hnone, ← hx]; omega)
  rwa [List.append_nil] at hwrites

lemma isDigit_zeros (n : Nat) : ∀ c ∈ List.replicate n '0', c.isDigit = true := by simp [List.mem_replicate]

section

variable {c : Char} {r : List Char} {point : Int} {p : Nat} (hc : c ≠ '0')

include hc

lemma isWhole_cons (r : List Char) : isWhole (c :: r) = true := isWhole_of_head? (by simp) (by simpa using hc)

variable (hd : ∀ x ∈ c :: r, x.isDigit = true)

include hd

/-- Where the point is far away, there is an exponent. -/
lemma writes_layout_of_far (hfar : point < -3 ∨ 16 < point) :
    Writes (Double.layout (c :: r) point) (natValue (c :: r)) (point - (c :: r).length) := by
  obtain ⟨hexp, hvalue⟩ := exponentText_spec (point - 1)
  have hone : ∀ x ∈ [c], x.isDigit = true := by simpa using hd c (by simp)
  cases r with
  | nil =>
    have htext : Double.layout [c] point = [c] ++ [] ++ Double.exponentText (point - 1) := if_pos hfar
    rw [htext]
    refine ⟨[c], [], _, 0, rfl, isWhole_cons hc [], hone, .inl rfl, hexp, by simp [Double.exponentText], by simp, ?_⟩
    rw [hvalue]
    simp [digitsOf]
  | cons x r =>
    have htext : Double.layout (c :: x :: r) point = [c] ++ '.' :: x :: r ++ Double.exponentText (point - 1) :=
      if_pos hfar
    rw [htext]
    have htail : IsDigits (x :: r) := ⟨by simp, fun y hy => hd y (by simp [hy])⟩
    refine writes_point (k := 0) (isWhole_cons hc []) hone htail hexp (by simp) ?_
    rw [hvalue]
    simp only [List.length_cons]
    omega

omit hc in
/-- Where the point is in front of the digits, zeros stand between. -/
lemma writes_layout_of_nonpos (hnear : ¬(point < -3 ∨ 16 < point)) (hle : point ≤ 0) :
    Writes (Double.layout (c :: r) point) (natValue (c :: r)) (point - (c :: r).length) := by
  have htext : Double.layout (c :: r) point =
      ['0'] ++ '.' :: (List.replicate (-point).toNat '0' ++ c :: r) := by
    unfold Double.layout
    rw [if_neg hnear, if_pos hle]
    rfl
  have hall := List.forall_mem_append.2 ⟨isDigit_zeros (-point).toNat, hd⟩
  rw [htext]
  refine writes_point_nil (k := 0) rfl (by simp) ⟨by simp, hall⟩ ?_ ?_
  · rw [natValue_of_isDigit (List.forall_mem_append.2 ⟨by simp, hall⟩), natValue_of_isDigit hd, Nat.pow_zero,
      Nat.mul_one]
    change Nat.ofDigitChars 10 ('0' :: (List.replicate (-point).toNat '0' ++ c :: r)) 0 = _
    rw [ofDigitChars_zero_cons, Nat.ofDigitChars_append, Nat.ofDigitChars_replicate_zero, Nat.mul_zero]
  · simp only [List.length_append, List.length_replicate, List.length_cons]
    omega

/-- Where the point is behind the digits, zeros stand between, and one behind it. -/
lemma writes_layout_of_length_le (hnear : ¬((p : Int) < -3 ∨ 16 < (p : Int))) (hlen : (c :: r).length ≤ p) :
    Writes (Double.layout (c :: r) p) (natValue (c :: r)) (p - (c :: r).length) := by
  have hpos : ¬(p : Int) ≤ 0 := by
    rw [List.length_cons] at hlen
    omega
  have htext : Double.layout (c :: r) p = c :: r ++ List.replicate (p - (c :: r).length) '0' ++ '.' :: ['0'] := by
    unfold Double.layout
    rw [if_neg hnear, if_neg hpos, Int.toNat_natCast, List.take_of_length_le hlen, List.drop_eq_nil_of_le hlen]
    rfl
  have hall := List.forall_mem_append.2 ⟨hd, isDigit_zeros (p - (c :: r).length)⟩
  rw [htext]
  refine writes_point_nil (k := p - (c :: r).length + 1) (isWhole_cons hc _) hall ⟨by simp, by simp⟩ ?_ ?_
  · rw [natValue_of_isDigit (List.forall_mem_append.2 ⟨hall, by simp⟩), natValue_of_isDigit hd, List.append_assoc,
      Nat.ofDigitChars_append]
    change Nat.ofDigitChars 10 (List.replicate _ '0' ++ List.replicate 1 '0') _ = _
    rw [List.replicate_append_replicate, Nat.ofDigitChars_replicate_zero, Nat.mul_comm]
  · rw [List.length_singleton]
    omega

/-- Where the point is among the digits, it divides them. -/
lemma writes_layout_of_lt_length (hnear : ¬((p : Int) < -3 ∨ 16 < (p : Int))) (hpos : 0 < p)
    (hlen : p < (c :: r).length) :
    Writes (Double.layout (c :: r) p) (natValue (c :: r)) (p - (c :: r).length) := by
  have hdrop : (c :: r).drop p ≠ [] := fun h => absurd (List.drop_eq_nil_iff.1 h) (Nat.not_le.2 hlen)
  have htext : Double.layout (c :: r) p = (c :: r).take p ++ '.' :: (c :: r).drop p := by
    have hzeros : p - (c :: r).length = 0 := by omega
    unfold Double.layout
    rw [if_neg hnear, if_neg (by omega), Int.toNat_natCast, hzeros]
    simp only [List.replicate_zero, List.append_nil, List.isEmpty_iff, if_neg hdrop]
  have hwhole : isWhole ((c :: r).take p) = true := by
    obtain ⟨q, rfl⟩ : ∃ q, p = q + 1 := ⟨p - 1, by omega⟩
    exact isWhole_cons hc (r.take q)
  rw [htext]
  refine writes_point_nil (k := 0) hwhole (fun x hx => hd x (List.mem_of_mem_take hx))
    ⟨hdrop, fun x hx => hd x (List.mem_of_mem_drop hx)⟩ ?_ ?_
  · rw [List.take_append_drop, Nat.pow_zero, Nat.mul_one]
  · rw [List.length_drop]
    omega

/-- Digits are laid out as a decimal with the point at its place. -/
lemma writes_layout (point : Int) :
    Writes (Double.layout (c :: r) point) (natValue (c :: r)) (point - (c :: r).length) := by
  by_cases hfar : point < -3 ∨ 16 < point
  · exact writes_layout_of_far hc hd hfar
  by_cases hle : point ≤ 0
  · exact writes_layout_of_nonpos hd hfar hle
  obtain ⟨p, rfl⟩ : ∃ p : Nat, point = p := ⟨point.toNat, by omega⟩
  obtain hlen | hlen := Nat.lt_or_ge p (c :: r).length
  · exact writes_layout_of_lt_length hc hd hfar (by omega) hlen
  · exact writes_layout_of_length_le hc hd hfar hlen

end

/-- What is written without a sign is read, with or without one. -/
lemma floatValue?_of_writes {w : List Char} {n : Nat} {x : Int} (h : Writes w n x)
    (negative : Bool) : IsNumber (.float ((if negative then ['-'] else []) ++ w)) ∧
      floatValue? ((if negative then ['-'] else []) ++ w) =
        some (Double.ofDecimal negative n x) := by
  obtain ⟨i, f, e, k, rfl, hwhole, hi, hf, he, hne, hvalue, hexp⟩ := h
  obtain ⟨sgn, hsgn, hinteger, hsign, hdigits⟩ : ∃ sgn, (if negative then ['-'] else []) = sgn ∧
      IsInteger (sgn ++ i) ∧ (sgn ++ i).contains '-' = negative ∧ digitsOf sgn = [] := by
    cases negative with
    | true => exact ⟨['-'], rfl, ⟨i, .inr rfl, hwhole, hi⟩, by simp, rfl⟩
    | false => exact ⟨[], rfl, ⟨i, .inl rfl, hwhole, hi⟩, by simpa using not_mem_of_isDigit hi, rfl⟩
  have htext : sgn ++ (i ++ f ++ e) = sgn ++ i ++ f ++ e := by simp only [List.append_assoc]
  rw [hsgn, htext]
  refine ⟨⟨sgn ++ i, f, e, rfl, hinteger, hf, he, hne⟩, ?_⟩
  have hnat : natValue (sgn ++ i ++ f) = n * 10 ^ k := by
    rw [← hvalue, natValue, List.append_assoc, digitsOf_append, hdigits]
    rfl
  rw [floatValue?_parts hinteger hf he, hsign, hnat, Double.ofDecimal_mul_pow, hexp]

/-- A finite double is written as a float token that gives it back. -/
theorem floatValue?_text {d : Double} (hd : d.isFinite = true) :
    IsNumber (.float d.text) ∧ floatValue? d.text = some d := by
  cases d with
  | nan => cases hd
  | infinite _ => cases hd
  | finite negative m e h =>
    rw [Double.text]
    rcases Nat.eq_zero_or_pos m with rfl | hm
    · obtain rfl : e = -1074 := h.2.2.2.resolve_left (by decide)
      have hzero : Writes ['0', '.', '0'] 0 (-1) :=
        ⟨['0'], ['.', '0'], [], 0, rfl, rfl, by simp, .inr ⟨['0'], rfl, by simp, by simp⟩, .inl rfl,
          by simp, rfl, rfl⟩
      exact floatValue?_of_writes hzero negative
    · have hpos := Double.shortest_digits_pos hm h
      rw [if_neg (Nat.pos_iff_ne_zero.1 hm), ← Double.ofDecimal_shortest hm h negative]
      generalize Double.shortest m e h = decimal at hpos ⊢
      obtain ⟨digits, exponent⟩ := decimal
      simp only at hpos ⊢
      obtain ⟨c, r, hstrip, hc⟩ := stripZeros_eq_cons Nat.toDigits_ne_nil (head?_toDigits hpos)
      obtain ⟨j, hj⟩ := stripZeros_append (Nat.toDigits 10 digits)
      rw [hstrip] at hj
      have hdigits : ∀ x ∈ c :: r, x.isDigit = true := fun x hx =>
        isDigit_toDigits (n := digits) x (by rw [hj]; exact List.mem_append_left _ hx)
      -- the digits and the zeros that were stripped
      have hvalue : digits = natValue (c :: r) * 10 ^ j := by
        have := Nat.ofDigitChars_ten_toDigits (n := digits)
        rw [hj, Nat.ofDigitChars_append, Nat.ofDigitChars_replicate_zero] at this
        rw [natValue_of_isDigit hdigits, ← this, Nat.mul_comm]
      have hlength : ((Nat.toDigits 10 digits).length : Int) + exponent - (c :: r).length =
          exponent + j := by
        rw [hj, List.length_append, List.length_replicate]
        omega
      have hwrites := writes_layout hc hdigits ((Nat.toDigits 10 digits).length + exponent)
      rw [hlength] at hwrites
      rw [hstrip]
      have := floatValue?_of_writes hwrites negative
      rwa [← Double.ofDecimal_mul_pow, ← hvalue] at this

end VectorQuery.GraphQL
