import VectorQuery.Proofs.GraphQL.StringValue
import Mathlib.Algebra.Ring.Parity
import Mathlib.Data.List.DropRight

/-! Quoted texts. Whatever a text holds, nothing in its quoted form ends the string early: a reader takes the whole
form as one token, and gets the text back from it. -/
namespace VectorQuery.GraphQL
open VectorQuery.Text

/-! ### Quotes inside a string -/

/-- The backslashes at the end of a text. -/
def backslashes (p : List Char) : Nat := (p.rtakeWhile (· == '\\')).length

/-- The characters between two quotes stay between them: none is a control character or ends the line, and each
quote among them has an odd number of backslashes right in front of it, so the last of these escapes it. -/
structure Enclosed (b : List Char) : Prop where
  control : ∀ c ∈ b, 0x20 ≤ c.toNat
  lineEnd : ∀ c ∈ b, isLineEnd c = false
  quote : ∀ p q, b = p ++ '"' :: q → Odd (backslashes p)

lemma isLineEnd_eq_false {c : Char} (hc : 0x20 ≤ c.toNat) : isLineEnd c = false := by
  have hall : ∀ d ∈ ['\n', '\r'], c ≠ d := by
    rintro d hd rfl
    have hlow : ∀ d ∈ ['\n', '\r'], d.toNat < 0x20 := forall_mem_of_all (by decide)
    have := hlow c hd
    omega
  simp [isLineEnd, hall]

lemma backslashes_append {w : List Char} (hw : w.getLast? ≠ some '\\') (p : List Char) :
    backslashes (w ++ p) = backslashes p := by
  have hstop : w.reverse.takeWhile (· == '\\') = [] := by
    cases h : w.reverse with
    | nil => rfl
    | cons c r =>
      have hc : c ≠ '\\' := by
        rintro rfl
        exact hw (by rw [List.getLast?_eq_head?_reverse, h]; rfl)
      simp [hc]
  simp only [backslashes, List.rtakeWhile, List.reverse_append, List.takeWhile_append, hstop]
  split
  · rename_i h
    simp [h]
  · rfl

lemma backslashes_pair_append (p : List Char) :
    Odd (backslashes ('\\' :: '\\' :: p)) ↔ Odd (backslashes p) := by
  have h : backslashes ('\\' :: '\\' :: p) = backslashes p ∨
      backslashes ('\\' :: '\\' :: p) = backslashes p + 2 := by
    simp only [backslashes, List.rtakeWhile, List.reverse_cons, List.append_assoc, List.takeWhile_append]
    split
    · rename_i hall
      right
      simp [hall]
    · exact .inl rfl
  obtain h | h := h
  · rw [h]
  · rw [h, Nat.odd_add]
    simp

/-- What stands for one character leaves the number of backslashes after it odd or even as it is. -/
lemma odd_backslashes_escapedChar (c : Char) (p : List Char) :
    Odd (backslashes (Json.escapedChar c ++ p)) ↔ Odd (backslashes p) := by
  obtain ⟨e, he, -, -, -⟩ | ⟨he, hn⟩ | ⟨he, -, hslash, -⟩ := escapedChar_cases c
  · rw [he]
    by_cases hslash : e = '\\'
    · subst hslash
      exact backslashes_pair_append p
    · rw [backslashes_append (by simpa using hslash)]
  · have hlast : (Json.escapedChar c).getLast? ≠ some '\\' := by
      obtain ⟨hshape, -, -, -⟩ := hexText_of_lt hn
      have hdigit := ne_of_mem_hexText hn (hexChar (c.toNat % 16)) (by simp [hshape])
      simpa [he, hshape] using hdigit.2.1
    rw [backslashes_append hlast]
  · rw [he, backslashes_append (by simpa using hslash)]

/-- A quote in what stands for one character comes right after the backslash that begins it. -/
lemma eq_backslash_of_escapedChar {c : Char} {p q : List Char} (h : Json.escapedChar c = p ++ '"' :: q) :
    p = ['\\'] := by
  obtain ⟨e, he, -, -, -⟩ | ⟨he, hn⟩ | ⟨he, hquote, -, -⟩ := escapedChar_cases c
  · rw [he] at h
    rcases p with _ | ⟨a, _ | ⟨b, p⟩⟩
    · simp at h
    · rw [← (List.cons.inj h).1]
    · simp at h
  · have hmem : '"' ∈ Json.escapedChar c := by simp [h]
    rw [he] at hmem
    have hdigit : '"' ∈ hexText 4 c.toNat := by simpa using hmem
    exact absurd rfl (ne_of_mem_hexText hn '"' hdigit).1
  · rw [he] at h
    have hmem : '"' ∈ [c] := by simp [h]
    exact absurd (List.mem_singleton.1 hmem).symm hquote

lemma odd_backslashes_of_quote {s p q : List Char} (h : s.flatMap Json.escapedChar = p ++ '"' :: q) :
    Odd (backslashes p) := by
  -- the quote is in what stands for the first character, or further on, where the parity is that of the rest
  induction s generalizing p with
  | nil => simp at h
  | cons c s ih =>
    rw [List.flatMap_cons, List.append_eq_append_iff] at h
    obtain ⟨p, rfl, hp⟩ | ⟨r, hr, hq⟩ := h
    · exact (odd_backslashes_escapedChar c p).2 (ih hp)
    · cases r with
      | nil =>
        rw [List.append_nil] at hr
        rw [← hr, ← List.append_nil (Json.escapedChar c), odd_backslashes_escapedChar]
        exact ih (p := []) hq.symm
      | cons d r =>
        obtain rfl : '"' = d := (List.cons.inj hq).1
        rw [eq_backslash_of_escapedChar hr]
        exact odd_one

/-- The letters of escapes are no control characters. -/
lemma toNat_of_escape? {e c : Char} (h : escape? e = some c) : 0x20 ≤ e.toNat := by
  unfold escape? at h
  split at h
  case h_9 => cases h
  all_goals decide

lemma toNat_of_mem_escapedChar {c d : Char} (hd : d ∈ Json.escapedChar c) : 0x20 ≤ d.toNat := by
  have hslash : 0x20 ≤ '\\'.toNat := by decide
  obtain ⟨e, he, -, hvalue, -⟩ | ⟨he, hn⟩ | ⟨he, -⟩ := escapedChar_cases c
  · rw [he] at hd
    obtain rfl | rfl : d = '\\' ∨ d = e := by simpa using hd
    · exact hslash
    · exact toNat_of_escape? hvalue
  · have hdigits : ∀ n < 0x20, (hexText 4 n).all (fun d => decide (0x20 ≤ d.toNat)) = true := by decide
    rw [he] at hd
    obtain rfl | rfl | hd : d = '\\' ∨ d = 'u' ∨ d ∈ hexText 4 c.toNat := by simpa using hd
    · exact hslash
    · decide
    · exact forall_mem_of_all (hdigits _ hn) d hd
  · rw [he] at hd
    obtain rfl := List.mem_singleton.1 hd
    by_contra hlow
    have hlonger : ∀ n < 0x20, (Json.escapedChar (Char.ofNat n)).length ≠ 1 := by decide
    have hne := hlonger d.toNat (by omega)
    rw [Char.ofNat_toNat, he] at hne
    exact hne rfl

theorem enclosed_flatMap_escapedChar (s : List Char) : Enclosed (s.flatMap Json.escapedChar) := by
  have hcontrol : ∀ c ∈ s.flatMap Json.escapedChar, 0x20 ≤ c.toNat := by
    intro c hc
    obtain ⟨d, -, hd⟩ := List.mem_flatMap.1 hc
    exact toNat_of_mem_escapedChar hd
  exact ⟨hcontrol, fun c hc => isLineEnd_eq_false (hcontrol c hc), fun p q => odd_backslashes_of_quote⟩

/-! ### Readers of quoted texts -/

lemma isString_of_token? {w r : List Char} {t : Token} (h : token? ('"' :: w) = some (t, r)) :
    (∃ b, t = .string b) ∨ ∃ b, t = .block b := by
  unfold token? at h
  split at h
  · cases h
  · rename_i hpoint
    cases hpoint
  · obtain ⟨x, -, hx⟩ := Option.map_eq_some_iff.1 h
    cases hx
    exact .inr ⟨_, rfl⟩
  · obtain ⟨x, -, hx⟩ := Option.map_eq_some_iff.1 h
    cases hx
    exact .inl ⟨_, rfl⟩
  · rename_i hquote hc
    exact absurd (List.cons.inj hc).1.symm hquote

lemma token?_quotedLiteral_nil (s : List Char) :
    token? (quotedLiteral s) = some (.string (s.flatMap Json.escapedChar), []) := by
  have h := token?_quotedLiteral s (r := []) (by simp)
  rwa [List.append_nil] at h

/-- A quoted text does not begin like a block string. -/
lemma quotedLiteral_ne_triple (s u : List Char) : quotedLiteral s ≠ '"' :: '"' :: '"' :: u := by
  intro h
  have hread := token?_quotedLiteral_nil s
  rw [h, token?] at hread
  obtain ⟨x, -, hx⟩ := Option.map_eq_some_iff.1 hread
  cases hx

/-- What is left of a quoted text does not extend a token in front of it. -/
lemma before_of_append_quotedLiteral {s w u : List Char} {t : Token} (ht : token? ('"' :: w) = some (t, []))
    (hu : '"' :: w ++ u = quotedLiteral s) : t.Before u := by
  intro c hc
  obtain ⟨b, rfl⟩ | ⟨b, rfl⟩ := isString_of_token? ht
  · cases b with
    | cons d b => rfl
    | nil =>
      -- two quotes are no string before a third one
      obtain ⟨u, rfl⟩ := List.head?_eq_some_iff.1 hc
      have hw : '"' :: w = ['"', '"'] := by simpa [Token.text] using (leads_of_token? ht).text_append
      rw [hw] at hu
      have hquote : c ≠ '"' := by
        rintro rfl
        exact quotedLiteral_ne_triple s u hu.symm
      simpa [Token.admits] using hquote
  · rfl

/-- No beginning of a quoted text is a token, so the string ends at its last quote and not before. -/
lemma token?_eq_none_of_prefix {s p : List Char} (hp : p <+: quotedLiteral s) (hne : p ≠ quotedLiteral s) :
    token? p = none := by
  obtain ⟨u, hu⟩ := hp
  have hrest : u ≠ [] := by
    rintro rfl
    exact hne (by rw [← hu, List.append_nil])
  cases h : token? p with
  | none => rfl
  | some x =>
    obtain ⟨t, r⟩ := x
    have hlead := leads_of_token? h
    -- the token would be read in front of the rest of the literal too, and it is not the whole
    have hbefore : t.Before (r ++ u) := by
      cases r with
      | cons d r => exact hlead.before
      | nil =>
        obtain ⟨d, w, rfl⟩ : ∃ d w, p = d :: w := by
          apply List.exists_cons_of_ne_nil
          rintro rfl
          cases h
        obtain rfl : d = '"' := (List.cons.inj hu).1
        exact before_of_append_quotedLiteral h hu
    have hread := hlead.read (r ++ u) hbefore
    rw [← List.append_assoc, ← hlead.text_append, hu, token?_quotedLiteral_nil] at hread
    have hnil : [] = r ++ u := (Prod.mk.inj (Option.some.inj hread)).2
    exact absurd (List.append_eq_nil_iff.1 hnil.symm).2 hrest

/-- How a reader takes the quoted form of a text in front of another text. -/
structure ReadsBack (s b r : List Char) : Prop where
  literal : quotedLiteral s = '"' :: b ++ ['"']
  enclosed : Enclosed b
  token : token? (quotedLiteral s ++ r) = some (.string b, r)
  lexemes : lexemes? (quotedLiteral s ++ r) = (lexemes? r).map (.token (.string b) :: ·)
  value : (Token.string b).stringValue? = some s
  /-- nothing shorter is a token -/
  unfinished : ∀ p, p <+: quotedLiteral s → p ≠ quotedLiteral s → token? p = none

/-- **Quoted texts are read back.** In front of anything but a quote, a reader takes all of the quoted form and
nothing else as one string. No control character, no line end and no quote that is not escaped is inside it, and
it stands for the text. -/
theorem quotedLiteral_readsBack (s : List Char) {r : List Char} (hr : r.head? ≠ some '"') :
    ∃ b, ReadsBack s b r := by
  have htoken := token?_quotedLiteral s hr
  refine ⟨s.flatMap Json.escapedChar, rfl, enclosed_flatMap_escapedChar s, htoken, ?_,
    unescape?_flatMap_escapedChar s, fun p => token?_eq_none_of_prefix⟩
  exact lexemes?_of_lexeme? (lexeme?_of_token? htoken)

/-- A backslash in front of a quote, a bell, a delete and a line separator, before the next argument. -/
theorem quotedLiteral_readsBack_backslash :
    (", limit: 1".toList.head? ≠ some '"') ∧
      ReadsBack ['\\', '"', '\x07', '\x7f', '\u2028'] "\\\\\\\"\\u0007\x7f\u2028".toList ", limit: 1".toList := by
  have hr : ", limit: 1".toList.head? ≠ some '"' := by decide
  obtain ⟨b, hb⟩ := quotedLiteral_readsBack ['\\', '"', '\x07', '\x7f', '\u2028'] hr
  have hbody : "\\\\\\\"\\u0007\x7f\u2028".toList = b := by
    have hliteral : quotedLiteral ['\\', '"', '\x07', '\x7f', '\u2028'] =
        '"' :: "\\\\\\\"\\u0007\x7f\u2028".toList ++ ['"'] := by decide
    exact (List.cons.inj (List.append_cancel_right (hliteral.symm.trans hb.literal))).2
  rw [hbody]
  exact ⟨hr, hb⟩

end VectorQuery.GraphQL
