import VectorQuery.Proofs.GraphQL.Braces
import VectorQuery.GraphQL.Selection

/-! The scanner of selections. It reads one character after the other, and passes over every lexeme but
braces and comments as a whole. -/
namespace VectorQuery.GraphQL
open VectorQuery.Text

/-! ### Block strings -/

/-- What stands in front of the first triple quote tells whether it ends the block string, or is escaped and the block
string goes on after it. Without a triple quote there is no end. -/
lemma blockBody?_first (s : List Char) :
    tripleQuote? s = none ∧ blockBody? s = none ∨
      ∃ a v, s = a ++ tripleQuote ++ v ∧ tripleQuote? s = some a.length ∧
        blockBody? s = if a.getLast? = some '\\' then
          (blockBody? v).map fun x => (a ++ tripleQuote ++ x.1, x.2) else some (a, v) := by
  fun_induction blockBody? s with
  | case1 => exact .inl ⟨rfl, rfl⟩
  | case2 r => exact .inr ⟨[], r, rfl, rfl, rfl⟩
  | case3 r ih => exact .inr ⟨['\\'], r, rfl, rfl, rfl⟩
  | case4 c r hclose hescape ih =>
    rw [tripleQuote?.eq_3 _ _ hclose]
    obtain ⟨hnone, hread⟩ | ⟨a, v, rfl, hfirst, hread⟩ := ih
    · exact .inl ⟨by rw [hnone]; rfl, by rw [hread]; rfl⟩
    · refine .inr ⟨c :: a, v, rfl, by rw [hfirst]; rfl, ?_⟩
      rw [hread]
      cases a with
      | nil =>
        have hc : c ≠ '\\' := by
          rintro rfl
          exact hescape v rfl rfl
        simp [hc]
      | cons d a =>
        rw [List.getLast?_cons_cons]
        split
        · rw [Option.map_map]
          rfl
        · rfl

/-- A backslash stands right in front of a place. -/
def IsEscapedAt (body : List Char) (k : Nat) : Prop := 0 < k ∧ body[k-1]? = some '\\'

instance (body : List Char) (k : Nat) : Decidable (IsEscapedAt body k) :=
  inferInstanceAs (Decidable (_ ∧ _))

lemma isEscapedAt_append (p s : List Char) :
    IsEscapedAt (p ++ s) p.length ↔ p.getLast? = some '\\' := by
  rcases List.eq_nil_or_concat p with rfl | ⟨w, c, rfl⟩
  · simp [IsEscapedAt]
  · simp [IsEscapedAt]

lemma blockEnd?_eq_none {body : List Char} {start : Nat} (h : tripleQuoteFrom? body start = none) :
    blockEnd? body start = none := by
  rw [blockEnd?]
  split
  · rfl
  · rename_i k hk
    rw [h] at hk
    cases hk

lemma blockEnd?_eq_ite {body : List Char} {start k : Nat} (h : tripleQuoteFrom? body start = some k) :
    blockEnd? body start = if IsEscapedAt body k then blockEnd? body (k + 3) else some k := by
  rw [blockEnd?]
  split
  · rename_i hnone
    rw [h] at hnone
    cases hnone
  · rename_i j hj
    obtain rfl : k = j := Option.some.inj (h.symm.trans hj)
    rfl

/-- The search behind a text that does not end in a backslash finds the end that reading finds. -/
lemma blockEnd?_append {p : List Char} (hp : p.getLast? ≠ some '\\') (s : List Char) :
    blockEnd? (p ++ s) p.length = (blockBody? s).map (p.length + ·.1.length) := by
  have hfrom : tripleQuoteFrom? (p ++ s) p.length = (tripleQuote? s).map (p.length + ·) := by
    rw [tripleQuoteFrom?, List.drop_left]
  obtain ⟨hnone, hread⟩ | ⟨a, v, rfl, hfirst, hread⟩ := blockBody?_first s
  · rw [hnone] at hfrom
    rw [blockEnd?_eq_none hfrom, hread]
    rfl
  · rw [hfirst] at hfrom
    have htext : p ++ (a ++ tripleQuote ++ v) = (p ++ a) ++ (tripleQuote ++ v) := by simp
    have hescaped : IsEscapedAt (p ++ (a ++ tripleQuote ++ v)) (p.length + a.length) ↔
        a.getLast? = some '\\' := by
      rw [htext, ← List.length_append, isEscapedAt_append]
      cases h : a.getLast? <;> simp [List.getLast?_append, h, hp]
    rw [blockEnd?_eq_ite hfrom, hread]
    simp only [hescaped]
    split
    · have ih := blockEnd?_append (p := p ++ a ++ tripleQuote) (by simp [tripleQuote]) v
      have hnext : p.length + a.length + 3 = (p ++ a ++ tripleQuote).length := by
        simp [tripleQuote, Nat.add_assoc]
      rw [htext, ← List.append_assoc, hnext, ih, Option.map_map]
      refine congrArg (Option.map · (blockBody? v)) (funext fun x => ?_)
      simp [tripleQuote, Nat.add_assoc, Nat.add_comm 3]
    · rfl
termination_by s.length
decreasing_by simp_all [tripleQuote]; omega

lemma blockEnd?_zero (s : List Char) : blockEnd? s 0 = (blockBody? s).map (·.1.length) := by
  simpa using blockEnd?_append (p := []) (by simp) s

lemma closes_block {s b q : List Char} (h : blockBody? s = some (b, q)) (u : List Char) (d : Nat) :
    closes (tripleQuote ++ b ++ tripleQuote ++ u) d = closes u d := by
  have hopen : tripleQuote ++ b ++ tripleQuote ++ u =
      '"' :: '"' :: '"' :: (b ++ tripleQuote ++ u) := rfl
  have hend : blockEnd? (b ++ tripleQuote ++ u) 0 = some b.length := by
    rw [blockEnd?_zero, (blockBody?_eq_some h).2 u]
    rfl
  rw [hopen, closes]
  split
  · rename_i hnone
    rw [hend] at hnone
    cases hnone
  · rename_i k hk
    obtain rfl : b.length = k := Option.some.inj (hend.symm.trans hk)
    congr 1
    simp [tripleQuote, List.append_assoc]

/-! ### Strings -/

lemma afterString?_of_stringBody? {s b q : List Char} (h : stringBody? s = some (b, q)) :
    afterString? s = some q := by
  fun_induction stringBody? s generalizing b q with
  | case1 => cases h
  | case2 r => cases h; rfl
  | case3 c r he ih =>
    obtain ⟨⟨b', q'⟩, hb, h⟩ := Option.map_eq_some_iff.1 h
    cases h
    exact ih hb
  | case4 => cases h
  | case5 => cases h
  | case6 c r hquote hslash hend ih =>
    obtain ⟨⟨b', q'⟩, hb, h⟩ := Option.map_eq_some_iff.1 h
    cases h
    have hc : c ≠ '\n' := by
      rintro rfl
      exact hend rfl
    rw [afterString?.eq_5 _ _ hquote (fun h => absurd h hc) hslash, ih hb]

lemma closes_string {s b q : List Char} (h : stringBody? s = some (b, q)) {u : List Char}
    (hu : b = [] → u.head? ≠ some '"') (d : Nat) :
    closes ('"' :: b ++ ['"'] ++ u) d = closes u d := by
  have hread := afterString?_of_stringBody? ((stringBody?_eq_some h).2 u)
  have hopen (v : List Char) : b ++ '"' :: u ≠ '"' :: '"' :: v := by
    intro hv
    cases b with
    | cons c b => exact ne_quote_of_stringBody? h (List.cons.inj hv).1
    | nil => exact hu rfl (by rw [(List.cons.inj hv).2]; rfl)
  have htext : '"' :: b ++ ['"'] ++ u = '"' :: (b ++ '"' :: u) := by simp
  rw [htext, closes.eq_3 _ _ hopen]
  split
  · rename_i hnone
    rw [hread] at hnone
    cases hnone
  · rename_i r hr
    rw [Option.some.inj (hread.symm.trans hr)]

/-! ### Blanks -/

lemma trimRight_cons (c : Char) (s : List Char) :
    trimRight (c :: s) = if isBlank c = true ∧ trimRight s = [] then [] else c :: trimRight s := by
  simp only [trimRight, List.reverse_cons, List.dropWhile_append, List.isEmpty_iff,
    List.reverse_eq_nil_iff]
  by_cases hs : s.reverse.dropWhile isBlank = []
  · by_cases hc : isBlank c = true <;> simp [hs, hc]
  · simp [hs]

lemma trimRight_cons_of_not_isBlank {c : Char} (hc : isBlank c = false) (s : List Char) :
    trimRight (c :: s) = c :: trimRight s := by
  simp [trimRight_cons, hc]

lemma trimRight_append_of_not_isBlank {w : List Char} (hw : ∀ c ∈ w.getLast?, isBlank c = false)
    (s : List Char) : trimRight (w ++ s) = w ++ trimRight s := by
  induction w with
  | nil => rfl
  | cons c w ih =>
    cases w with
    | nil => exact trimRight_cons_of_not_isBlank (hw c (by simp)) s
    | cons d w =>
      rw [List.cons_append, trimRight_cons, ih fun a ha => hw a (by simpa using ha)]
      simp

lemma trimRight_of_not_isBlank {s : List Char} (hs : ∀ c ∈ s.getLast?, isBlank c = false) :
    trimRight s = s := by
  have htrim := trimRight_append_of_not_isBlank hs []
  rwa [List.append_nil, show trimRight [] = [] from rfl, List.append_nil] at htrim

lemma trimLeft_trimRight (s : List Char) : trimLeft (trimRight s) = trimRight (trimLeft s) := by
  induction s with
  | nil => rfl
  | cons c s ih =>
    by_cases hc : isBlank c = true
    · have hleft (u : List Char) : trimLeft (c :: u) = trimLeft u := by simp [trimLeft, hc]
      rw [hleft, ← ih, trimRight_cons]
      split
      · rename_i h
        rw [h.2]
      · rw [hleft]
    · rw [Bool.not_eq_true] at hc
      rw [trimRight_cons_of_not_isBlank hc, trimLeft, trimLeft]
      simp [hc, trimRight_cons_of_not_isBlank hc]

lemma not_isBlank_of_isWordChar {c : Char} (h : isWordChar c = true) : isBlank c = false := by
  have := toNat_of_isWordChar h
  simp only [isBlank, Bool.or_eq_false_iff, Bool.and_eq_false_iff, decide_eq_false_iff_not,
    beq_eq_false_iff_ne]
  omega

/-- The characters that the scanner passes over. -/
def isInert (c : Char) : Bool := c != '"' && c != '#' && c != '{' && c != '}'

lemma isInert_of_isWordChar {c : Char} (h : isWordChar c = true) : isInert c = true := by
  have hne (d : Char) (hd : isWordChar d = false) : (c != d) = true := by
    rw [bne_iff_ne]
    rintro rfl
    rw [h] at hd
    cases hd
  simp [isInert, hne '"' rfl, hne '#' rfl, hne '{' rfl, hne '}' rfl]

lemma closes_cons {c : Char} (hc : isInert c = true) (s : List Char) (d : Nat) :
    closes (c :: s) d = closes s d := by
  simp only [isInert, Bool.and_eq_true, bne_iff_ne] at hc
  obtain ⟨⟨⟨hquote, hhash⟩, hopen⟩, hclose⟩ := hc
  rw [closes.eq_7 _ _ _ (fun _ h => absurd h hquote) hquote hhash hopen hclose]

lemma closes_append {w : List Char} (hw : ∀ c ∈ w, isInert c = true) (s : List Char) (d : Nat) :
    closes (w ++ s) d = closes s d := by
  induction w with
  | nil => rfl
  | cons c w ih =>
    rw [List.cons_append, closes_cons (hw c (by simp)), ih fun a ha => hw a (by simp [ha])]

lemma not_isBlank_of_isMark {c : Char} (h : isMark c = true) : isBlank c = false := by
  have hmarks : ∀ c ∈ "!$&()[]\x7b|\x7d:=@".toList, isBlank c = false :=
    forall_mem_of_all (by decide)
  exact hmarks c (by simpa [isMark] using h)

lemma isInert_of_isMark {c : Char} (h : isMark c = true) (ho : c ≠ '{') (hc : c ≠ '}') :
    isInert c = true := by
  have hmarks : ∀ c ∈ "!$&()[]\x7b|\x7d:=@".toList, c ≠ '"' ∧ c ≠ '#' :=
    forall_mem_of_all (by decide)
  obtain ⟨hquote, hhash⟩ := hmarks c (by simpa [isMark] using h)
  simp [isInert, hquote, hhash, ho, hc]

/-- No token begins or ends with a blank. -/
lemma not_isBlank_of_written {t : Token} (ht : t.Written) (c : Char)
    (hc : c ∈ t.text.head? ∨ c ∈ t.text.getLast?) : isBlank c = false := by
  by_cases hw : (∃ d, t = .mark d) ∨ (∃ b, t = .string b) ∨ ∃ b, t = .block b
  · rcases hw with ⟨d, rfl⟩ | ⟨b, rfl⟩ | ⟨b, rfl⟩
    · obtain rfl : d = c := by simpa [Token.text] using hc
      exact not_isBlank_of_isMark ht
    · have hlast : (Token.string b).text.getLast? = some '"' := List.getLast?_concat
      rw [hlast] at hc
      obtain rfl : '"' = c := by simpa [Token.text] using hc
      rfl
    · have hlast : (Token.block b).text.getLast? = some '"' := by
        rw [Token.text, List.getLast?_append]
        rfl
      rw [hlast] at hc
      obtain rfl : '"' = c := by simpa [Token.text, tripleQuote] using hc
      rfl
  · have hmem : c ∈ t.text := hc.elim List.mem_of_mem_head? List.mem_of_mem_getLast?
    exact not_isBlank_of_isWordChar (isWordChar_of_written ht (fun d h => hw (.inl ⟨d, h⟩))
      (fun b h => hw (.inr (.inl ⟨b, h⟩))) (fun b h => hw (.inr (.inr ⟨b, h⟩))) c hmem)

/-- White space and line ends are blanks, and what is lexed has no other blank in front. -/
lemma isBlank_iff_of_lexeme? {c : Char} {s r : List Char} {x : Lexeme}
    (h : lexeme? (c :: s) = some (x, r)) : isBlank c = true ↔ x = .blank c := by
  rw [lexeme?] at h
  split at h
  · rename_i hb
    cases h
    simp only [isWhiteSpace, isLineEnd, Bool.or_eq_true, beq_iff_eq] at hb
    rcases hb with (rfl | rfl) | rfl | rfl <;> simp [isBlank]
  split at h
  · rename_i hc
    cases h
    simp [hc, isBlank]
  split at h
  · rename_i hc
    cases h
    simp [hc, isBlank]
  split at h
  · rename_i hc
    cases h
    simp [hc, isBlank]
  obtain ⟨⟨t, q⟩, ht, h⟩ := Option.map_eq_some_iff.1 h
  cases h
  have hlead := leads_of_token? ht
  obtain ⟨a, w, hw⟩ := List.exists_cons_of_ne_nil hlead.text_ne_nil
  obtain rfl : c = a := by
    have := hlead.text_append
    rw [hw] at this
    exact (List.cons.inj this).1
  simp [not_isBlank_of_written (written_of_token? ht) c (.inl (by simp [hw]))]

/-- What stands between tokens as white space or as the end of a line. -/
def Lexeme.isBlank : Lexeme → Bool
  | .blank _ => true
  | _ => false

lemma isBlank_of_lexeme? {c : Char} {s r : List Char} {x : Lexeme}
    (h : lexeme? (c :: s) = some (x, r)) : x.isBlank = isBlank c := by
  have hiff := isBlank_iff_of_lexeme? h
  cases x with
  | blank a =>
    obtain rfl : c = a := (List.cons.inj (leads_of_lexeme? h).text_append).1
    exact (hiff.2 rfl).symm
  | _ =>
    have : isBlank c = false := by simpa using mt hiff.1 (by simp)
    exact this.symm

/-! ### The scanner on tokens -/

/-- A token is passed over as a whole, unless it is a brace. -/
lemma closes_token {s r : List Char} {t : Token} (h : token? s = some (t, r))
    (ho : t ≠ .mark '{') (hc : t ≠ .mark '}') {u : List Char} (hu : t.Before u) (d : Nat) :
    closes (t.text ++ u) d = closes u d := by
  have ht := written_of_token? h
  by_cases hw : (∃ c, t = .mark c) ∨ (∃ b, t = .string b) ∨ ∃ b, t = .block b
  · rcases hw with ⟨c, rfl⟩ | ⟨b, rfl⟩ | ⟨b, rfl⟩
    · exact closes_cons (isInert_of_isMark ht (fun h => ho (h ▸ rfl)) fun h => hc (h ▸ rfl)) u d
    · refine closes_string ht (fun hb hq => ?_) d
      rw [hb] at hu
      exact absurd (hu '"' hq) (by decide)
    · exact closes_block ht u d
  · have hword := isWordChar_of_written ht (fun c h => hw (.inl ⟨c, h⟩))
      (fun b h => hw (.inr (.inl ⟨b, h⟩))) (fun b h => hw (.inr (.inr ⟨b, h⟩)))
    exact closes_append (fun c hc => isInert_of_isWordChar (hword c hc)) u d

/-- Whether lexemes close `d` open braces, the last of them with the last lexeme that is not blank. -/
def closing : Nat → List Lexeme → Bool
  | _, [] => false
  | _, .comment _ :: _ => false
  | d, .token t :: xs =>
    if t = .mark '}' ∧ d ≤ 1 then xs.all Lexeme.isBlank else closing (t.deepen d) xs
  | d, _ :: xs => closing d xs

/-- A text of blanks only is trimmed away, and no other text is. -/
lemma trimRight_eq_nil_iff {s : List Char} {xs : List Lexeme} (h : lexemes? s = some xs) :
    trimRight s = [] ↔ xs.all Lexeme.isBlank = true := by
  induction xs generalizing s with
  | nil =>
    rw [eq_nil_of_lexemes? h]
    simp [trimRight]
  | cons x xs ih =>
    obtain ⟨r, hx, hr⟩ := lexemes?_eq_cons h
    cases s with
    | nil => cases hx
    | cons c s =>
      rw [trimRight_cons, List.all_cons, isBlank_of_lexeme? hx]
      by_cases hc : isBlank c = true
      · obtain rfl := (isBlank_iff_of_lexeme? hx).1 hc
        obtain rfl : s = r := (List.cons.inj (leads_of_lexeme? hx).text_append).2
        simp [hc, ← ih hr]
      · simp [hc]

lemma head?_trimRight {s : List Char} {c : Char} (h : c ∈ (trimRight s).head?) : c ∈ s.head? := by
  cases s with
  | nil => exact h
  | cons a s =>
    rw [trimRight_cons] at h
    split at h
    · cases h
    · exact h

lemma deepen_eq_self {t : Token} (ho : t ≠ .mark '{') (hc : t ≠ .mark '}') (d : Nat) : t.deepen d = d := by
  unfold Token.deepen
  split
  · exact absurd rfl ho
  · exact absurd rfl hc
  · rfl

section

variable {s r : List Char} {xs : List Lexeme} (hr : lexemes? r = some xs)
  (ih : ∀ d, closes (trimRight r) d = closing d xs)

include hr ih

/-- A token stays when the text is trimmed. A brace that may be the last one is so when blanks alone follow it. -/
lemma closes_trimRight_token {t : Token} (ht : token? s = some (t, r)) (d : Nat) :
    closes (trimRight (t.text ++ r)) d = closing d (.token t :: xs) := by
  have hlast : ∀ c ∈ t.text.getLast?, isBlank c = false := fun c hc =>
    not_isBlank_of_written (written_of_token? ht) c (.inr hc)
  rw [trimRight_append_of_not_isBlank hlast, closing]
  by_cases ho : t = .mark '{'
  · rw [ho, if_neg (by simp)]
    change closes ('{' :: trimRight r) d = closing (d + 1) xs
    rw [closes, ih]
  by_cases hc : t = .mark '}'
  · subst hc
    change closes ('}' :: trimRight r) d = _
    rw [closes]
    by_cases hd : d ≤ 1
    · rw [if_pos hd, if_pos ⟨rfl, hd⟩, Bool.eq_iff_iff, List.isEmpty_iff, trimRight_eq_nil_iff hr]
    · rw [if_neg hd, if_neg (by simp [hd]), ih]
      rfl
  · have hbefore : t.Before (trimRight r) := fun c hc => (leads_of_token? ht).before c (head?_trimRight hc)
    rw [closes_token ht ho hc hbefore, if_neg (by simp [hc]), ih, deepen_eq_self ho hc]

omit hr

/-- A blank is cut off only when blanks alone follow it, and is passed over otherwise. -/
lemma closes_trimRight_blank {c : Char} (hc : isBlank c = true) (d : Nat) :
    closes (trimRight (c :: r)) d = closing d (.blank c :: xs) := by
  have hinert : isInert c = true := by
    have hne (a : Char) (ha : isBlank a = false) : c ≠ a := by
      rintro rfl
      rw [hc] at ha
      cases ha
    simp [isInert, hne '"' rfl, hne '#' rfl, hne '{' rfl, hne '}' rfl]
  change _ = closing d xs
  rw [trimRight_cons, ← ih]
  split
  · rename_i hn
    rw [hn.2]
  · exact closes_cons hinert _ d

end

/-- The scanner sees in a trimmed text what the lexemes show. -/
lemma closes_trimRight {s : List Char} {xs : List Lexeme} (h : lexemes? s = some xs) (d : Nat) :
    closes (trimRight s) d = closing d xs := by
  induction xs generalizing s d with
  | nil =>
    rw [eq_nil_of_lexemes? h]
    simp [trimRight, closes, closing]
  | cons x xs ih =>
    obtain ⟨r, hx, hr⟩ := lexemes?_eq_cons h
    have htext := (leads_of_lexeme? hx).text_append
    cases x with
    | token t =>
      rw [htext]
      exact closes_trimRight_token hr (ih hr) (token?_of_lexeme? hx) d
    | blank c =>
      obtain rfl : s = c :: r := htext
      exact closes_trimRight_blank (ih hr) ((isBlank_iff_of_lexeme? hx).2 rfl) d
    | comma =>
      obtain rfl : s = ',' :: r := htext
      rw [trimRight_cons_of_not_isBlank rfl, closes_cons rfl, ih hr]
      rfl
    | byteOrderMark =>
      obtain rfl : s = '\ufeff' :: r := htext
      rw [trimRight_cons_of_not_isBlank rfl, closes_cons rfl, ih hr]
      rfl
    | comment w =>
      obtain rfl : s = '#' :: (w ++ r) := htext
      rw [trimRight_cons_of_not_isBlank rfl, closes, closing]

end VectorQuery.GraphQL
