import VectorQuery.Proofs.GraphQL.Lexing

/-! Braces among tokens. Only tokens count: a brace inside a string is no brace. -/
namespace VectorQuery.GraphQL

/-- The number of open braces after a token. -/
def Token.deepen : Nat → Token → Nat
  | d, .mark '{' => d + 1
  | d, .mark '}' => d - 1
  | d, _ => d

/-- The number of open braces after some tokens. -/
def depthAfter (d : Nat) (ts : List Token) : Nat := ts.foldl Token.deepen d

/-- Tokens from an opening brace to the brace that closes it. -/
structure IsBody (ts : List Token) : Prop where
  opens : ts.head? = some (.mark '{')
  inside : ∀ p, p <+: ts → p ≠ [] → p ≠ ts → 1 ≤ depthAfter 0 p
  closes : depthAfter 0 ts = 0

/-- The tokens of one field: a name, and after it at most one body. -/
def IsField (ts : List Token) : Prop :=
  ∃ n body, ts = .name n :: body ∧ (body = [] ∨ IsBody body)

/-- Tokens that close every brace they open, and no other brace. -/
def Nested (ts : List Token) : Prop :=
  ∀ d, (∀ p, p <+: ts → d ≤ depthAfter d p) ∧ depthAfter d ts = d

@[simp] lemma depthAfter_nil (d : Nat) : depthAfter d [] = d := rfl

@[simp] lemma depthAfter_cons (d : Nat) (t : Token) (ts : List Token) :
    depthAfter d (t :: ts) = depthAfter (t.deepen d) ts := rfl

lemma depthAfter_append (d : Nat) (ts us : List Token) :
    depthAfter d (ts ++ us) = depthAfter (depthAfter d ts) us := List.foldl_append

/-- Tokens that close `d` open braces, the last of them with the last token. -/
def closesAt : Nat → List Token → Bool
  | _, [] => false
  | d, t :: ts => if t = .mark '}' ∧ d ≤ 1 then ts.isEmpty else closesAt (t.deepen d) ts

lemma deepen_pos {d : Nat} {t : Token} (hd : 1 ≤ d) (ht : ¬(t = .mark '}' ∧ d ≤ 1)) :
    1 ≤ t.deepen d := by
  unfold Token.deepen
  split
  · omega
  · have : ¬d ≤ 1 := fun h => ht ⟨rfl, h⟩
    omega
  · exact hd

theorem closesAt_iff {d : Nat} {ts : List Token} (hd : 1 ≤ d) : closesAt d ts = true ↔
    (∀ p, p <+: ts → p ≠ ts → 1 ≤ depthAfter d p) ∧ depthAfter d ts = 0 := by
  induction ts generalizing d with
  | nil => simp [closesAt]; omega
  | cons t ts ih =>
    rw [closesAt]
    by_cases ht : t = .mark '}' ∧ d ≤ 1
    · rw [if_pos ht, List.isEmpty_iff]
      obtain ⟨rfl, hle⟩ := ht
      have hzero : Token.deepen d (.mark '}') = 0 := by simp [Token.deepen]; omega
      constructor
      · rintro rfl
        refine ⟨fun p hp hne => ?_, hzero⟩
        rcases List.prefix_cons_iff.1 hp with rfl | ⟨q, rfl, hq⟩
        · exact hd
        · exact absurd (by rw [List.prefix_nil.1 hq]) hne
      · rintro ⟨hin, -⟩
        cases ts with
        | nil => rfl
        | cons u us =>
          have := hin [.mark '}'] ⟨u :: us, rfl⟩ (by simp)
          rw [depthAfter_cons, hzero] at this
          exact absurd this (by simp)
    · rw [if_neg ht, ih (deepen_pos hd ht), depthAfter_cons]
      refine and_congr_left fun _ => ⟨fun h p hp hne => ?_, fun h p hp hne => ?_⟩
      · rcases List.prefix_cons_iff.1 hp with rfl | ⟨q, rfl, hq⟩
        · exact hd
        · exact h q hq fun he => hne (he ▸ rfl)
      · exact h (t :: p) (List.prefix_cons_inj t |>.2 hp) fun he => hne (List.cons.inj he).2

lemma isBody_iff {ts : List Token} :
    IsBody ts ↔ ∃ us, ts = .mark '{' :: us ∧ closesAt 1 us = true := by
  constructor
  · rintro ⟨ho, hi, hc⟩
    obtain ⟨us, rfl⟩ := List.head?_eq_some_iff.1 ho
    refine ⟨us, rfl, (closesAt_iff (by simp)).2 ⟨fun p hp hne => ?_, hc⟩⟩
    exact hi (.mark '{' :: p) ((List.prefix_cons_inj _).2 hp) (by simp)
      fun he => hne (List.cons.inj he).2
  · rintro ⟨us, rfl, h⟩
    obtain ⟨hi, hc⟩ := (closesAt_iff (by simp)).1 h
    refine ⟨rfl, fun p hp hne hne' => ?_, hc⟩
    rcases List.prefix_cons_iff.1 hp with rfl | ⟨q, rfl, hq⟩
    · exact absurd rfl hne
    · exact hi q hq fun he => hne' (he ▸ rfl)

lemma prefix_append_split {p ts us : List Token} (h : p <+: ts ++ us) :
    p <+: ts ∨ ∃ q, p = ts ++ q ∧ q <+: us := by
  rcases Nat.le_total p.length ts.length with hle | hle
  · exact .inl (List.prefix_of_prefix_length_le h (List.prefix_append ts us) hle)
  · obtain ⟨q, rfl⟩ := List.prefix_of_prefix_length_le (List.prefix_append ts us) h hle
    exact .inr ⟨q, rfl, (List.prefix_append_right_inj ts).1 h⟩

lemma nested_nil : Nested [] := by
  intro d
  refine ⟨fun p hp => ?_, rfl⟩
  rw [List.prefix_nil.1 hp]
  exact Nat.le_refl d

lemma Nested.append {ts us : List Token} (hts : Nested ts) (hus : Nested us) :
    Nested (ts ++ us) := by
  intro d
  refine ⟨fun p hp => ?_, by rw [depthAfter_append, (hts d).2, (hus d).2]⟩
  rcases prefix_append_split hp with hp | ⟨q, rfl, hq⟩
  · exact (hts d).1 p hp
  · rw [depthAfter_append, (hts d).2]
    exact (hus d).1 q hq

/-- Everything but braces leaves the depth as it is. -/
lemma nested_of_forall {ts : List Token} (h : ∀ t ∈ ts, t ≠ .mark '{' ∧ t ≠ .mark '}') :
    Nested ts := by
  have hstay (d : Nat) (t : Token) (ht : t ≠ .mark '{' ∧ t ≠ .mark '}') : t.deepen d = d := by
    unfold Token.deepen
    split
    · exact absurd rfl ht.1
    · exact absurd rfl ht.2
    · rfl
  have hdepth (d : Nat) (us : List Token) (hus : ∀ t ∈ us, t ≠ .mark '{' ∧ t ≠ .mark '}') :
      depthAfter d us = d := by
    induction us with
    | nil => rfl
    | cons t us ih =>
      rw [depthAfter_cons, hstay d t (hus t (by simp)), ih fun u hu => hus u (by simp [hu])]
  exact fun d => ⟨fun p hp => Nat.le_of_eq (hdepth d p fun t ht => h t (hp.subset ht)).symm, hdepth d ts h⟩

/-- What closes its own braces does so in braces, too. -/
lemma Nested.braces {ts : List Token} (h : Nested ts) :
    Nested (.mark '{' :: ts ++ [.mark '}']) := by
  intro d
  obtain ⟨hin, hclose⟩ := h (d + 1)
  refine ⟨fun p hp => ?_, ?_⟩
  · rcases List.prefix_cons_iff.1 hp with rfl | ⟨q, rfl, hq⟩
    · exact Nat.le_refl d
    · change d ≤ depthAfter (d + 1) q
      rcases prefix_append_split hq with hq | ⟨r, rfl, hr⟩
      · exact Nat.le_of_succ_le (hin q hq)
      rw [depthAfter_append, hclose]
      rcases List.prefix_cons_iff.1 hr with rfl | ⟨u, rfl, hu⟩
      · exact Nat.le_succ d
      · rw [List.prefix_nil.1 hu]
        exact Nat.le_refl d
  · rw [List.cons_append, depthAfter_cons, depthAfter_append]
    change Token.deepen (depthAfter (d + 1) ts) (.mark '}') = d
    rw [hclose]
    rfl

/-- What closes its own braces is a body once it stands in braces. -/
lemma Nested.isBody {ts : List Token} (h : Nested ts) :
    IsBody (.mark '{' :: ts ++ [.mark '}']) := by
  obtain ⟨hin, hclose⟩ := h 1
  refine ⟨rfl, fun p hp hne hne' => ?_, (h.braces 0).2⟩
  rcases List.prefix_cons_iff.1 hp with rfl | ⟨q, rfl, hq⟩
  · exact absurd rfl hne
  change 1 ≤ depthAfter 1 q
  rcases prefix_append_split hq with hq | ⟨r, rfl, hr⟩
  · exact hin q hq
  rcases List.prefix_cons_iff.1 hr with rfl | ⟨u, rfl, hu⟩
  · have hdepth : depthAfter 1 (ts ++ []) = 1 := by rw [List.append_nil, hclose]
    exact Nat.le_of_eq hdepth.symm
  · rw [List.prefix_nil.1 hu] at hne'
    exact absurd rfl hne'

lemma deepen_add {d e : Nat} {t : Token} (he : 1 ≤ e) : t.deepen (d + e) = d + t.deepen e := by
  unfold Token.deepen
  split <;> omega

lemma depthAfter_of_closesAt {e : Nat} {ts : List Token} (he : 1 ≤ e) (h : closesAt e ts = true)
    (d : Nat) : (∀ p, p <+: ts → d ≤ depthAfter (d + e) p) ∧ depthAfter (d + e) ts = d := by
  induction ts generalizing e with
  | nil => cases h
  | cons t ts ih =>
    have hstep (p : List Token) (hp : p <+: t :: ts)
        (hrest : ∀ q, q <+: ts → d ≤ depthAfter (t.deepen (d + e)) q) : d ≤ depthAfter (d + e) p := by
      rcases List.prefix_cons_iff.1 hp with rfl | ⟨q, rfl, hq⟩
      · exact Nat.le_add_right d e
      · exact hrest q hq
    rw [closesAt] at h
    split at h
    · rename_i ht
      obtain ⟨rfl, hle⟩ := ht
      obtain rfl := List.isEmpty_iff.1 h
      obtain rfl : e = 1 := by omega
      refine ⟨fun p hp => hstep p hp fun q hq => ?_, rfl⟩
      rw [List.prefix_nil.1 hq]
      exact Nat.le_refl d
    · rename_i ht
      obtain ⟨hin, hclose⟩ := ih (deepen_pos he ht) h
      rw [← deepen_add he] at hin hclose
      exact ⟨fun p hp => hstep p hp hin, hclose⟩

lemma IsBody.nested {ts : List Token} (h : IsBody ts) : Nested ts := by
  obtain ⟨us, rfl, hus⟩ := isBody_iff.1 h
  intro d
  obtain ⟨hin, hclose⟩ := depthAfter_of_closesAt (by simp) hus d
  refine ⟨fun p hp => ?_, hclose⟩
  rcases List.prefix_cons_iff.1 hp with rfl | ⟨q, rfl, hq⟩
  · exact Nat.le_refl d
  · exact hin q hq

/-- A field closes the braces of its body and no brace around it. -/
theorem IsField.nested {ts : List Token} (h : IsField ts) : Nested ts := by
  obtain ⟨n, body, rfl, hbody⟩ := h
  have hname : Nested [.name n] := nested_of_forall (by simp)
  rcases hbody with rfl | hbody
  · exact hname
  · exact hname.append hbody.nested

end VectorQuery.GraphQL
