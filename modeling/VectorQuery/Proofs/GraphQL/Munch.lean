import VectorQuery.Proofs.GraphQL.Numeral
import VectorQuery.GraphQL.Literal

/-! Longest match. A lexeme is read where its characters stand and nothing after them extends it, and
what is read does not depend on the rest of the text in any other way. -/
namespace VectorQuery.GraphQL

namespace Token

/-- The characters of a token. -/
def text : Token → List Char
  | mark c => [c]
  | spread => ['.', '.', '.']
  | name w => w
  | int w => w
  | float w => w
  | string b => '"' :: b ++ ['"']
  | block b => tripleQuote ++ b ++ tripleQuote

/-- What may stand right after a token. -/
def admits : Token → Char → Bool
  | name _, c => !isNameChar c
  | int _, c => !extendsNumber c
  | float _, c => !extendsNumber c
  | string [], c => c != '"'
  | _, _ => true

/-- Nothing in front of a text extends the token. -/
def Before (t : Token) (r : List Char) : Prop := ∀ c ∈ r.head?, t.admits c = true

end Token

namespace Lexeme

/-- The characters of a lexeme. -/
def text : Lexeme → List Char
  | token t => t.text
  | blank c => [c]
  | comma => [',']
  | byteOrderMark => ['\ufeff']
  | comment w => '#' :: w

/-- What may stand right after a lexeme. -/
def admits : Lexeme → Char → Bool
  | token t, c => t.admits c
  | comment _, c => isLineEnd c
  | _, _ => true

/-- Nothing in front of a text extends the lexeme. -/
def Before (x : Lexeme) (r : List Char) : Prop := ∀ c ∈ r.head?, x.admits c = true

end Lexeme

lemma takeWhile_append_cons {p : Char → Bool} {b q : List Char} {c : Char} (hc : p c = false) :
    (b ++ c :: q).takeWhile p = b.takeWhile p := by
  induction b with
  | nil => simp [hc]
  | cons a b ih => simp only [List.cons_append, List.takeWhile_cons, ih]

lemma dropWhile_append_cons {p : Char → Bool} {b q : List Char} {c : Char} (hc : p c = false) :
    (b ++ c :: q).dropWhile p = b.dropWhile p ++ c :: q := by
  induction b with
  | nil => simp [hc]
  | cons a b ih =>
    simp only [List.cons_append, List.dropWhile_cons, ih]
    split <;> simp

/-- An escape ends before the quote that ends its string. -/
lemma isCodePoint_append_quote (b q q' : List Char) :
    isCodePoint (b ++ '"' :: q) = isCodePoint (b ++ '"' :: q') := by
  have hq : isHex '"' = false := by decide
  by_cases hb : b.head? = some '{'
  · obtain ⟨b, rfl⟩ := List.head?_eq_some_iff.1 hb
    simp only [List.cons_append, isCodePoint, takeWhile_append_cons hq, dropWhile_append_cons hq,
      List.head?_append, List.head?_cons]
  · have h (q : List Char) : isCodePoint (b ++ '"' :: q) = decide (4 ≤ (b.takeWhile isHex).length) := by
      rw [isCodePoint, takeWhile_append_cons hq]
      intro r hr
      cases b with
      | nil => cases hr
      | cons a b => exact hb (by rw [(List.cons.inj hr).1]; rfl)
    rw [h, h]

lemma isEscape_append_quote (c : Char) (b q q' : List Char) :
    isEscape (c :: (b ++ '"' :: q)) = isEscape (c :: (b ++ '"' :: q')) := by
  simp only [isEscape, isCodePoint_append_quote b q q']

lemma stringBody?_eq_some {s b q : List Char} (h : stringBody? s = some (b, q)) :
    s = b ++ '"' :: q ∧ ∀ q', stringBody? (b ++ '"' :: q') = some (b, q') := by
  fun_induction stringBody? s generalizing b q with
  | case1 => cases h
  | case2 r => cases h; exact ⟨rfl, fun q' => rfl⟩
  | case3 c r he ih =>
    obtain ⟨⟨b, q⟩, hb, h⟩ := Option.map_eq_some_iff.1 h
    cases h
    obtain ⟨rfl, hread⟩ := ih hb
    refine ⟨rfl, fun q' => ?_⟩
    rw [isEscape_append_quote c b q q'] at he
    rw [List.cons_append, List.cons_append, stringBody?, if_pos he, hread]
    rfl
  | case4 => cases h
  | case5 => cases h
  | case6 c r hquote hslash hend ih =>
    obtain ⟨⟨b, q⟩, hb, h⟩ := Option.map_eq_some_iff.1 h
    cases h
    obtain ⟨rfl, hread⟩ := ih hb
    refine ⟨rfl, fun q' => ?_⟩
    have hc : c ≠ '\\' := by
      rintro rfl
      cases b with
      | nil => exact hslash _ _ rfl rfl
      | cons a b => exact hslash _ _ rfl rfl
    rw [List.cons_append, stringBody?.eq_4 _ _ hquote fun _ _ h => absurd h hc, if_neg hend, hread]
    rfl

/-- A body that is not empty does not begin with a quote. -/
lemma ne_quote_of_stringBody? {c : Char} {s b q : List Char}
    (h : stringBody? s = some (c :: b, q)) : c ≠ '"' := by
  rintro rfl
  obtain ⟨rfl, -⟩ := stringBody?_eq_some h
  cases h

lemma blockBody?_eq_some {s b q : List Char} (h : blockBody? s = some (b, q)) :
    s = b ++ tripleQuote ++ q ∧ ∀ q', blockBody? (b ++ tripleQuote ++ q') = some (b, q') := by
  fun_induction blockBody? s generalizing b q with
  | case1 => cases h
  | case2 r => cases h; exact ⟨rfl, fun q' => rfl⟩
  | case3 r ih =>
    obtain ⟨⟨b, q⟩, hb, h⟩ := Option.map_eq_some_iff.1 h
    cases h
    obtain ⟨rfl, hread⟩ := ih hb
    refine ⟨rfl, fun q' => ?_⟩
    simp only [List.cons_append, blockBody?, hread]
    rfl
  | case4 c r hclose hescape ih =>
    obtain ⟨⟨b, q⟩, hb, h⟩ := Option.map_eq_some_iff.1 h
    cases h
    obtain ⟨rfl, hread⟩ := ih hb
    refine ⟨rfl, fun q' => ?_⟩
    -- both patterns look at no more than what stands before the rest
    have hclose' (r : List Char) (hc : c = '"') : b ++ tripleQuote ++ q' ≠ '"' :: '"' :: r := by
      intro h
      rcases b with _ | ⟨x, _ | ⟨y, b⟩⟩ <;> simp_all [tripleQuote]
    have hescape' (r : List Char) (hc : c = '\\') :
        b ++ tripleQuote ++ q' ≠ '"' :: '"' :: '"' :: r := by
      intro h
      rcases b with _ | ⟨x, _ | ⟨y, _ | ⟨z, b⟩⟩⟩ <;> simp_all [tripleQuote]
    rw [List.cons_append, List.cons_append, blockBody?.eq_4 _ _ hclose' hescape', hread]
    rfl

/-- Away from points and quotes the first character tells the kind of token. -/
lemma token?_cons {c : Char} (hp : c ≠ '.') (hq : c ≠ '"') (r : List Char) : token? (c :: r) =
    if isMark c then some (.mark c, r)
    else if isNameStart c then
      some (.name (c :: r.takeWhile isNameChar), r.dropWhile isNameChar)
    else number? (c :: r) :=
  token?.eq_5 c r (fun _ h => absurd h hp) (fun _ h => absurd h hq) (fun h => absurd h hq)

lemma isNameStart_iff_toNat {c : Char} : isNameStart c = true ↔
    c.toNat = 95 ∨ (65 ≤ c.toNat ∧ c.toNat ≤ 90) ∨ 97 ≤ c.toNat ∧ c.toNat ≤ 122 := by
  unfold isNameStart Char.isAlpha Char.isUpper Char.isLower
  simp only [Bool.or_eq_true, beq_iff_eq, Bool.and_eq_true, decide_eq_true_eq, ← Char.toNat_inj,
    UInt32.le_iff_toNat_le, ge_iff_le]
  exact Iff.rfl

lemma numberText_eq_text {t : Token} (h : IsNumber t) : numberText t = t.text := by
  cases t <;> first | rfl | exact h.elim

/-- A number begins with a character that no other token begins with. -/
lemma exists_cons_of_isNumber {t : Token} (h : IsNumber t) :
    ∃ c w, t.text = c :: w ∧ c ≠ '.' ∧ c ≠ '"' ∧ isMark c = false ∧ isNameStart c = false := by
  have hi (w : List Char) (hw : IsInteger w) : ∃ c v, w = c :: v ∧ (c = '-' ∨ c.isDigit = true) := by
    obtain ⟨ds, rfl | rfl, hne, hd⟩ := hw
    · cases w with
      | nil => simp [isWhole] at hne
      | cons c w => exact ⟨c, w, rfl, .inr (hd c (by simp))⟩
    · exact ⟨'-', ds, rfl, .inl rfl⟩
  have hc (c : Char) (hc : c = '-' ∨ c.isDigit = true) :
      c ≠ '.' ∧ c ≠ '"' ∧ isMark c = false ∧ isNameStart c = false := by
    have hn : c.toNat = 45 ∨ 48 ≤ c.toNat ∧ c.toNat ≤ 57 :=
      hc.imp (fun h : c = '-' => h ▸ rfl) Char.isDigit_iff_toNat.1
    refine ⟨?_, ?_, ?_, ?_⟩
    · rintro rfl; revert hn; decide
    · rintro rfl; revert hn; decide
    · rw [Bool.eq_false_iff]
      intro hm
      have hmarks : ∀ c ∈ "!$&()[]\x7b|\x7d:=@".toList,
          ¬(c.toNat = 45 ∨ 48 ≤ c.toNat ∧ c.toNat ≤ 57) := forall_mem_of_all (by decide)
      exact hmarks c (by simpa [isMark] using hm) hn
    · rw [Bool.eq_false_iff]
      intro hs
      have := isNameStart_iff_toNat.1 hs
      omega
  cases t with
  | int w =>
    obtain ⟨c, v, rfl, hcv⟩ := hi w h
    exact ⟨c, v, rfl, hc c hcv⟩
  | float w =>
    obtain ⟨i, f, e, rfl, hw, -⟩ := h
    obtain ⟨c, v, rfl, h⟩ := hi i hw
    exact ⟨c, v ++ f ++ e, rfl, hc c h⟩
  | _ => exact h.elim

/-- A token is what a text begins with: the text holds its characters, nothing after them extends it,
and the same characters are that token before every text that does not extend it. -/
structure Token.Leads (t : Token) (s r : List Char) : Prop where
  text_ne_nil : t.text ≠ []
  text_append : s = t.text ++ r
  before : t.Before r
  read (r' : List Char) : t.Before r' → token? (t.text ++ r') = some (t, r')

lemma leads_block {s b r : List Char} (h : blockBody? s = some (b, r)) :
    (Token.block b).Leads ('"' :: '"' :: '"' :: s) r := by
  obtain ⟨rfl, hread⟩ := blockBody?_eq_some h
  refine ⟨by simp [Token.text, tripleQuote], by simp [Token.text, tripleQuote], fun _ _ => rfl, fun r' _ => ?_⟩
  simp only [Token.text, tripleQuote, List.cons_append, List.nil_append, token?]
  rw [← tripleQuote, hread r']
  rfl

lemma leads_string {s b r : List Char} (hs : ∀ u, s ≠ '"' :: '"' :: u)
    (h : stringBody? s = some (b, r)) : (Token.string b).Leads ('"' :: s) r := by
  obtain ⟨rfl, hread⟩ := stringBody?_eq_some h
  refine ⟨by simp [Token.text], by simp [Token.text], ?_, fun r' hafter => ?_⟩
  · intro c hc
    cases b with
    | cons _ _ => rfl
    | nil =>
      obtain ⟨u, rfl⟩ := List.head?_eq_some_iff.1 hc
      simpa [Token.admits] using fun h : c = '"' => hs u (h ▸ rfl)
  · have hopen (u : List Char) : b ++ '"' :: r' ≠ '"' :: '"' :: u := by
      intro hu
      cases b with
      | cons c b => exact ne_quote_of_stringBody? h (List.cons.inj hu).1
      | nil => exact absurd (hafter '"' (by rw [(List.cons.inj hu).2]; rfl)) (by decide)
    have htext : (Token.string b).text ++ r' = '"' :: (b ++ '"' :: r') := by simp [Token.text]
    rw [htext, token?.eq_4 _ hopen, hread r']
    rfl

lemma leads_mark {c : Char} (hc : isMark c = true) (s : List Char) :
    (Token.mark c).Leads (c :: s) s := by
  refine ⟨by simp [Token.text], rfl, fun _ _ => rfl, fun r' _ => ?_⟩
  have hmarks : ∀ c ∈ "!$&()[]\x7b|\x7d:=@".toList, c ≠ '.' ∧ c ≠ '"' :=
    forall_mem_of_all (by decide)
  obtain ⟨hp, hq⟩ := hmarks c (by simpa [isMark] using hc)
  simp [Token.text, token?_cons hp hq, hc]

lemma leads_name {c : Char} (hm : isMark c = false) (hc : isNameStart c = true) (s : List Char) :
    (Token.name (c :: s.takeWhile isNameChar)).Leads (c :: s) (s.dropWhile isNameChar) := by
  have hp : c ≠ '.' := by rintro rfl; revert hc; decide
  have hq : c ≠ '"' := by rintro rfl; revert hc; decide
  refine ⟨by simp [Token.text], by simp [Token.text], ?_, fun r' hr' => ?_⟩
  · intro d hd
    simp [Token.admits, stops_dropWhile isNameChar s d hd]
  · have hr : Stops isNameChar r' := fun d hd => by simpa [Token.admits] using hr' d hd
    simp [Token.text, token?_cons hp hq, hm, hc, takeWhile_append_stops mem_takeWhile hr,
      dropWhile_append_stops mem_takeWhile hr]

lemma stops_extendsNumber_iff {t : Token} (ht : IsNumber t) (r : List Char) :
    Stops extendsNumber r ↔ t.Before r := by
  cases t with
  | int _ => simp [Stops, Token.Before, Token.admits]
  | float _ => simp [Stops, Token.Before, Token.admits]
  | _ => exact ht.elim

lemma leads_number {s r : List Char} {t : Token} (h : number? s = some (t, r)) : t.Leads s r := by
  obtain ⟨ht, hs, hr⟩ := number?_eq_some_iff.1 h
  rw [numberText_eq_text ht] at hs
  obtain ⟨c, w, hw, hp, hq, hm, hn⟩ := exists_cons_of_isNumber ht
  refine ⟨by simp [hw], hs, (stops_extendsNumber_iff ht r).1 hr, fun r' hr' => ?_⟩
  have hread : number? (t.text ++ r') = some (t, r') :=
    number?_eq_some_iff.2 ⟨ht, by rw [numberText_eq_text ht], (stops_extendsNumber_iff ht r').2 hr'⟩
  rw [hw, List.cons_append] at hread ⊢
  rw [token?_cons hp hq, if_neg (by simp [hm]), if_neg (by simp [hn]), hread]

/-- Every token that is read is one that the text begins with. -/
theorem leads_of_token? {s r : List Char} {t : Token} (h : token? s = some (t, r)) :
    t.Leads s r := by
  unfold token? at h
  split at h
  · cases h
  · cases h
    exact ⟨by simp [Token.text], rfl, fun _ _ => rfl, fun r' _ => rfl⟩
  · obtain ⟨⟨b, q⟩, hb, h⟩ := Option.map_eq_some_iff.1 h
    cases h
    exact leads_block hb
  · rename_i s hs
    obtain ⟨⟨b, q⟩, hb, h⟩ := Option.map_eq_some_iff.1 h
    cases h
    exact leads_string hs hb
  · rename_i c s _ _ _
    split at h
    · rename_i hm
      cases h
      exact leads_mark hm _
    · rename_i hm
      split at h
      · rename_i hn
        cases h
        exact leads_name (by simpa using hm) hn s
      · exact leads_number h

/-- What the characters of a token are like. -/
def Token.Written : Token → Prop
  | mark c => isMark c = true
  | spread => True
  | name w => ∃ c v, w = c :: v ∧ isNameStart c = true ∧ ∀ d ∈ v, isNameChar d = true
  | int w => IsInteger w
  | float w => IsNumber (.float w)
  | string b => stringBody? (b ++ ['"']) = some (b, [])
  | block b => blockBody? (b ++ tripleQuote) = some (b, [])

lemma written_of_isNumber {t : Token} (h : IsNumber t) : t.Written := by
  cases t with
  | int _ => exact h
  | float _ => exact h
  | _ => exact h.elim

theorem written_of_token? {s r : List Char} {t : Token} (h : token? s = some (t, r)) :
    t.Written := by
  unfold token? at h
  split at h
  · cases h
  · cases h
    trivial
  · obtain ⟨⟨b, q⟩, hb, h⟩ := Option.map_eq_some_iff.1 h
    cases h
    simpa [Token.Written] using (blockBody?_eq_some hb).2 []
  · obtain ⟨⟨b, q⟩, hb, h⟩ := Option.map_eq_some_iff.1 h
    cases h
    exact (stringBody?_eq_some hb).2 []
  · split at h
    · rename_i hm
      cases h
      exact hm
    · split at h
      · rename_i hn
        cases h
        exact ⟨_, _, rfl, hn, mem_takeWhile⟩
      · exact written_of_isNumber (number?_eq_some_iff.1 h).1

/-- The characters of names and numbers, and points. -/
def isWordChar (c : Char) : Bool := isNameChar c || "+-.".toList.contains c

lemma isWordChar_of_isNumberChar {c : Char} (h : isNumberChar c = true) : isWordChar c = true := by
  simp only [isNumberChar, Bool.or_eq_true] at h
  rcases h with h | h
  · simp [isWordChar, isNameChar, h]
  · have hall : ∀ c ∈ "+-.eE".toList, isWordChar c = true := forall_mem_of_all (by decide)
    exact hall c (by simpa using h)

lemma toNat_of_isWordChar {c : Char} (h : isWordChar c = true) : c.toNat = 43 ∨ c.toNat = 45 ∨
    c.toNat = 46 ∨ c.toNat = 95 ∨ (48 ≤ c.toNat ∧ c.toNat ≤ 57) ∨ (65 ≤ c.toNat ∧ c.toNat ≤ 90) ∨
    97 ≤ c.toNat ∧ c.toNat ≤ 122 := by
  simp only [isWordChar, isNameChar, Bool.or_eq_true] at h
  rcases h with (h | h) | h
  · have := isNameStart_iff_toNat.1 h
    omega
  · have : 48 ≤ c.toNat ∧ c.toNat ≤ 57 := Char.isDigit_iff_toNat.1 h
    omega
  · have hall : ∀ c ∈ "+-.".toList, c.toNat = 43 ∨ c.toNat = 45 ∨ c.toNat = 46 :=
      forall_mem_of_all (by decide)
    have := hall c (by simpa using h)
    omega

/-- Names, numbers and points are of word characters. -/
lemma isWordChar_of_written {t : Token} (ht : t.Written) (hm : ∀ c, t ≠ .mark c)
    (hs : ∀ b, t ≠ .string b) (hb : ∀ b, t ≠ .block b) : ∀ c ∈ t.text, isWordChar c = true := by
  have hnumber (u : Token) (hu : IsNumber u) : ∀ c ∈ u.text, isWordChar c = true := by
    rw [← numberText_eq_text hu]
    exact fun c hc => isWordChar_of_isNumberChar (isNumberChar_of_isNumber hu c hc)
  cases t with
  | mark c => exact absurd rfl (hm c)
  | spread => exact forall_mem_of_all (by decide)
  | name w =>
    obtain ⟨c, v, rfl, hc, hv⟩ := ht
    intro d hd
    rcases List.mem_cons.1 hd with rfl | hd
    · simp [isWordChar, isNameChar, hc]
    · simp [isWordChar, hv d hd]
  | int w => exact hnumber (.int w) ht
  | float w => exact hnumber (.float w) ht
  | string b => exact absurd rfl (hs b)
  | block b => exact absurd rfl (hb b)

/-- A lexeme is what a text begins with, as for tokens. -/
structure Lexeme.Leads (x : Lexeme) (s r : List Char) : Prop where
  text_ne_nil : x.text ≠ []
  text_append : s = x.text ++ r
  before : x.Before r
  read (r' : List Char) : x.Before r' → lexeme? (x.text ++ r') = some (x, r')

theorem leads_of_lexeme? {s r : List Char} {x : Lexeme} (h : lexeme? s = some (x, r)) :
    x.Leads s r := by
  cases s with
  | nil => cases h
  | cons c s =>
    rw [lexeme?] at h
    by_cases hb : (isWhiteSpace c || isLineEnd c) = true
    · rw [if_pos hb] at h
      cases h
      refine ⟨by simp [Lexeme.text], rfl, fun _ _ => rfl, fun r' _ => ?_⟩
      simp [Lexeme.text, lexeme?, hb]
    rw [if_neg hb] at h
    by_cases hcomma : c = ','
    · rw [if_pos hcomma] at h
      cases h
      exact ⟨by simp [Lexeme.text], by simp [Lexeme.text, hcomma], fun _ _ => rfl, fun r' _ => rfl⟩
    rw [if_neg hcomma] at h
    by_cases hbom : c = '\ufeff'
    · rw [if_pos hbom] at h
      cases h
      exact ⟨by simp [Lexeme.text], by simp [Lexeme.text, hbom], fun _ _ => rfl, fun r' _ => rfl⟩
    rw [if_neg hbom] at h
    by_cases hhash : c = '#'
    · rw [if_pos hhash] at h
      cases h
      refine ⟨by simp [Lexeme.text], by simp [Lexeme.text, hhash], fun d hd => ?_, fun r' hr' => ?_⟩
      · simpa [Lexeme.admits] using stops_dropWhile (!isLineEnd ·) s d hd
      · have hr : Stops (!isLineEnd ·) r' := fun d hd => by simpa [Lexeme.admits] using hr' d hd
        simp only [Lexeme.text, List.cons_append, lexeme?]
        rw [takeWhile_append_stops mem_takeWhile hr, dropWhile_append_stops mem_takeWhile hr]
        rfl
    rw [if_neg hhash] at h
    obtain ⟨⟨t, q⟩, ht, h⟩ := Option.map_eq_some_iff.1 h
    cases h
    obtain ⟨hne, hs, hr, hread⟩ := leads_of_token? ht
    refine ⟨hne, hs, hr, fun r' hr' => ?_⟩
    have hread := hread r' hr'
    obtain ⟨a, w, hw⟩ := List.exists_cons_of_ne_nil hne
    obtain rfl : c = a := by rw [hw] at hs; exact (List.cons.inj hs).1
    simp only [Lexeme.text, hw, List.cons_append] at hread ⊢
    rw [lexeme?, if_neg hb, if_neg hcomma, if_neg hbom, if_neg hhash, hread]
    rfl

lemma token?_of_lexeme? {s r : List Char} {t : Token} (h : lexeme? s = some (.token t, r)) :
    token? s = some (t, r) := by
  cases s with
  | nil => cases h
  | cons c s =>
    rw [lexeme?] at h
    split at h
    · cases h
    split at h
    · cases h
    split at h
    · cases h
    split at h
    · cases h
    obtain ⟨⟨u, q⟩, hu, h⟩ := Option.map_eq_some_iff.1 h
    cases h
    exact hu

lemma lexeme?_name {c : Char} (hc : isNameStart c = true) (s : List Char) : lexeme? (c :: s) =
    some (.token (.name (c :: s.takeWhile isNameChar)), s.dropWhile isNameChar) := by
  have hne (d : Char) (hd : isNameStart d = false) : c ≠ d := by
    rintro rfl
    rw [hc] at hd
    cases hd
  have hmark : isMark c = false := by
    rw [Bool.eq_false_iff]
    intro hm
    have hmarks : ∀ c ∈ "!$&()[]\x7b|\x7d:=@".toList, isNameStart c = false :=
      forall_mem_of_all (by decide)
    have := hmarks c (by simpa [isMark] using hm)
    rw [hc] at this
    cases this
  rw [lexeme?, if_neg (by simp [isWhiteSpace, isLineEnd, hne ' ' rfl, hne '\t' rfl,
    hne '\n' rfl, hne '\r' rfl]), if_neg (hne ',' rfl), if_neg (hne '\ufeff' rfl),
    if_neg (hne '#' rfl), token?_cons (hne '.' rfl) (hne '"' rfl), if_neg (by simp [hmark]), if_pos hc]
  rfl

/-- A token begins with a mark, a quote, or a character of names and numbers. -/
lemma head?_of_written {t : Token} (ht : t.Written) {c : Char} (hc : c ∈ t.text.head?) :
    isMark c = true ∨ c = '"' ∨ isWordChar c = true := by
  by_cases hw : (∃ d, t = .mark d) ∨ (∃ b, t = .string b) ∨ ∃ b, t = .block b
  · rcases hw with ⟨d, rfl⟩ | ⟨b, rfl⟩ | ⟨b, rfl⟩
    · obtain rfl : d = c := by simpa [Token.text] using hc
      exact .inl ht
    · obtain rfl : '"' = c := by simpa [Token.text] using hc
      exact .inr (.inl rfl)
    · obtain rfl : '"' = c := by simpa [Token.text, tripleQuote] using hc
      exact .inr (.inl rfl)
  · have hword := isWordChar_of_written ht (fun d h => hw (.inl ⟨d, h⟩))
      (fun b h => hw (.inr (.inl ⟨b, h⟩))) (fun b h => hw (.inr (.inr ⟨b, h⟩)))
    exact .inr (.inr (hword c (List.mem_of_mem_head? hc)))

lemma lexeme?_of_token? {s r : List Char} {t : Token} (h : token? s = some (t, r)) :
    lexeme? s = some (.token t, r) := by
  have hlead := leads_of_token? h
  obtain ⟨c, w, hw⟩ := List.exists_cons_of_ne_nil hlead.text_ne_nil
  have hs : s = c :: (w ++ r) := by rw [hlead.text_append, hw]; rfl
  have hclass := head?_of_written (written_of_token? h) (c := c) (by simp [hw])
  have hne : ∀ d ∈ " \t\n\r,\ufeff#".toList, c ≠ d := by
    have hmarks : ∀ d ∈ " \t\n\r,\ufeff#".toList,
        isMark d = false ∧ d ≠ '"' ∧ isWordChar d = false := forall_mem_of_all (by decide)
    rintro d hd rfl
    obtain ⟨hmark, hquote, hword⟩ := hmarks c hd
    rcases hclass with h | h | h
    · rw [hmark] at h
      cases h
    · exact hquote h
    · rw [hword] at h
      cases h
  have hblank : ¬(isWhiteSpace c || isLineEnd c) = true := by
    simp [isWhiteSpace, isLineEnd, hne ' ' (by decide), hne '\t' (by decide), hne '\n' (by decide),
      hne '\r' (by decide)]
  rw [hs] at h ⊢
  rw [lexeme?, if_neg hblank, if_neg (hne ',' (by decide)), if_neg (hne '\ufeff' (by decide)),
    if_neg (hne '#' (by decide)), h]
  rfl

end VectorQuery.GraphQL
