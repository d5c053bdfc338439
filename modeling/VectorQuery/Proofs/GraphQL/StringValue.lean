import VectorQuery.Proofs.GraphQL.Lexing

/-! The text that a string token stands for. A quoted string gives back the text that was quoted. -/
namespace VectorQuery.GraphQL
open VectorQuery.Text

/-! ### Quoted strings -/

/-- The number that hexadecimal digits write. -/
def hexValue? (ds : List Char) : Option Nat := (ds.mapM hexDigit?).map (ofDigits 16)

/-- The character of a code point; surrogates have none. -/
def scalar? (n : Nat) : Option Char := if n.isValidChar then some (Char.ofNat n) else none

/-- The number of four digits, and the text after them. -/
def codeUnit? : List Char → Option (Nat × List Char)
  | a :: b :: c :: d :: r => (hexValue? [a, b, c, d]).map (·, r)
  | _ => none

def isLeading (n : Nat) : Bool := 0xd800 ≤ n && n < 0xdc00
def isTrailing (n : Nat) : Bool := 0xdc00 ≤ n && n < 0xe000

/-- The character that an escape writes after its letter, and the rest. Beyond four digits there are
digits in braces, or a pair of surrogates. -/
def codePoint? : List Char → Option (Char × List Char)
  | '{' :: r =>
    match r.dropWhile isHex with
    | '}' :: q => do
      let n ← hexValue? (r.takeWhile isHex)
      let c ← scalar? n
      pure (c, q)
    | _ => none
  | s => do
    let (n, r) ← codeUnit? s
    if isLeading n then
      match r with
      | '\\' :: 'u' :: r => do
        let (m, q) ← codeUnit? r
        if isTrailing m then
          let c ← scalar? (0x10000 + (n - 0xd800) * 0x400 + (m - 0xdc00))
          pure (c, q)
        else none
      | _ => none
    else do
      let c ← scalar? n
      pure (c, r)

/-- The character of an escape with one letter. -/
def escape? : Char → Option Char
  | '"' => some '"'
  | '\\' => some '\\'
  | '/' => some '/'
  | 'b' => some (Char.ofNat 8)
  | 'f' => some (Char.ofNat 12)
  | 'n' => some '\n'
  | 'r' => some '\r'
  | 't' => some '\t'
  | _ => none

lemma length_codeUnit? {s r : List Char} {n : Nat} (h : codeUnit? s = some (n, r)) :
    r.length < s.length := by
  unfold codeUnit? at h
  split at h
  · obtain ⟨m, -, hm⟩ := Option.map_eq_some_iff.1 h
    cases hm
    simp only [List.length_cons]
    omega
  · cases h

lemma length_codePoint? {s r : List Char} {c : Char} (h : codePoint? s = some (c, r)) :
    r.length < s.length := by
  unfold codePoint? at h
  split at h
  · rename_i t
    split at h
    · rename_i q hq
      simp only [Option.bind_eq_bind, Option.bind_eq_some_iff, Option.pure_def, Option.some.injEq,
        Prod.mk.injEq] at h
      obtain ⟨n, -, d, -, -, rfl⟩ := h
      have := (List.dropWhile_suffix (l := t) isHex).length_le
      rw [hq] at this
      simp only [List.length_cons] at this ⊢
      omega
    · cases h
  · simp only [Option.bind_eq_bind, Option.bind_eq_some_iff, Prod.exists] at h
    obtain ⟨n, t, hn, h⟩ := h
    have hlt := length_codeUnit? hn
    split at h
    · split at h
      · rename_i u
        simp only [Option.bind_eq_some_iff, Prod.exists] at h
        obtain ⟨m, q, hm, h⟩ := h
        have := length_codeUnit? hm
        split at h
        · simp only [Option.bind_eq_some_iff, Option.pure_def, Option.some.injEq,
            Prod.mk.injEq] at h
          obtain ⟨d, -, -, rfl⟩ := h
          simp only [List.length_cons] at hlt
          omega
        · cases h
      · cases h
    · simp only [Option.bind_eq_some_iff, Option.pure_def, Option.some.injEq, Prod.mk.injEq] at h
      obtain ⟨d, -, -, rfl⟩ := h
      exact hlt

/-- The text that the characters between two quotes stand for. -/
def unescape? (s : List Char) : Option (List Char) :=
  match s with
  | [] => some []
  | '\\' :: 'u' :: r =>
    match _h : codePoint? r with
    | none => none
    | some (c, q) => (unescape? q).map (c :: ·)
  | '\\' :: c :: r => do
    let c ← escape? c
    (unescape? r).map (c :: ·)
  | ['\\'] => none
  | c :: r => (unescape? r).map (c :: ·)
termination_by s.length
decreasing_by
  · have := length_codePoint? _h
    simp only [List.length_cons]
    omega
  · simp only [List.length_cons]
    omega
  · simp only [List.length_cons]
    omega

/-- A character is quoted by a letter, by its code, or as itself. -/
lemma escapedChar_cases (c : Char) :
    (∃ e, Json.escapedChar c = ['\\', e] ∧ e ≠ 'u' ∧ escape? e = some c ∧
      ∀ r, isEscape (e :: r) = true) ∨
    (Json.escapedChar c = '\\' :: 'u' :: hexText 4 c.toNat ∧ c.toNat < 0x20) ∨
    (Json.escapedChar c = [c] ∧ c ≠ '"' ∧ c ≠ '\\' ∧ isLineEnd c = false) := by
  have hof (n : Nat) (h : c.toNat = n) : c = Char.ofNat n := by rw [← h, Char.ofNat_toNat]
  rw [Json.escapedChar]
  by_cases hquote : c = '"'
  · subst hquote
    exact .inl ⟨'"', rfl, by decide, rfl, fun _ => rfl⟩
  by_cases hslash : c = '\\'
  · subst hslash
    exact .inl ⟨'\\', rfl, by decide, rfl, fun _ => rfl⟩
  by_cases hfeed : c = '\n'
  · subst hfeed
    exact .inl ⟨'n', rfl, by decide, rfl, fun _ => rfl⟩
  by_cases hreturn : c = '\r'
  · subst hreturn
    exact .inl ⟨'r', rfl, by decide, rfl, fun _ => rfl⟩
  by_cases htab : c = '\t'
  · subst htab
    exact .inl ⟨'t', rfl, by decide, rfl, fun _ => rfl⟩
  rw [if_neg hquote, if_neg hslash, if_neg hfeed, if_neg hreturn, if_neg htab]
  by_cases hback : c.toNat = 8
  · rw [if_pos hback]
    exact .inl ⟨'b', rfl, by decide, by rw [hof 8 hback]; rfl, fun _ => rfl⟩
  by_cases hform : c.toNat = 12
  · rw [if_neg hback, if_pos hform]
    exact .inl ⟨'f', rfl, by decide, by rw [hof 12 hform]; rfl, fun _ => rfl⟩
  rw [if_neg hback, if_neg hform]
  by_cases hcontrol : c.toNat < 0x20
  · rw [if_pos hcontrol]
    exact .inr (.inl ⟨rfl, hcontrol⟩)
  · rw [if_neg hcontrol]
    exact .inr (.inr ⟨rfl, hquote, hslash, by simp [isLineEnd, hfeed, hreturn]⟩)

/-- The code of a control character: two zeros and two digits. -/
lemma hexText_of_lt {n : Nat} (hn : n < 0x20) :
    hexText 4 n = ['0', '0', hexChar (n / 16), hexChar (n % 16)] ∧
      hexValue? ['0', '0', hexChar (n / 16), hexChar (n % 16)] = some n ∧
      isHex (hexChar (n / 16)) = true ∧ isHex (hexChar (n % 16)) = true := by
  have h : ∀ n < 0x20, hexText 4 n = ['0', '0', hexChar (n / 16), hexChar (n % 16)] ∧
      hexValue? ['0', '0', hexChar (n / 16), hexChar (n % 16)] = some n ∧
      isHex (hexChar (n / 16)) = true ∧ isHex (hexChar (n % 16)) = true := by decide
  exact h n hn

lemma codePoint?_hexText {n : Nat} (hn : n < 0x20) (r : List Char) :
    codePoint? (hexText 4 n ++ r) = some (Char.ofNat n, r) := by
  obtain ⟨hshape, hvalue, -, -⟩ := hexText_of_lt hn
  have hlead : isLeading n = false := by
    simp only [isLeading, Bool.and_eq_false_iff, decide_eq_false_iff_not]
    omega
  have hvalid : n.isValidChar := .inl (by omega)
  simp [hshape, codePoint?, codeUnit?, hvalue, hlead, scalar?, hvalid]

lemma isCodePoint_hexText {n : Nat} (hn : n < 0x20) (r : List Char) :
    isCodePoint (hexText 4 n ++ r) = true := by
  obtain ⟨hshape, -, hhigh, hlow⟩ := hexText_of_lt hn
  have hzero : isHex '0' = true := rfl
  simp [hshape, isCodePoint, hzero, hhigh, hlow]

lemma ne_of_mem_hexText {n : Nat} (hn : n < 0x20) :
    ∀ c ∈ hexText 4 n, c ≠ '"' ∧ c ≠ '\\' ∧ isLineEnd c = false := by
  have h : ∀ n < 0x20, (hexText 4 n).all (fun c =>
      decide (c ≠ '"' ∧ c ≠ '\\' ∧ isLineEnd c = false)) = true := by decide
  exact forall_mem_of_all (h n hn)

/-- A character that does not end a string and begins no escape is one of its body. -/
lemma stringBody?_cons {c : Char} (hquote : c ≠ '"') (hslash : c ≠ '\\')
    (hend : isLineEnd c = false) (u : List Char) :
    stringBody? (c :: u) = (stringBody? u).map fun (b, q) => (c :: b, q) := by
  rw [stringBody?.eq_4 _ _ hquote fun _ _ h => absurd h hslash, if_neg (by simp [hend])]

lemma stringBody?_append {w : List Char}
    (hw : ∀ c ∈ w, c ≠ '"' ∧ c ≠ '\\' ∧ isLineEnd c = false) (u : List Char) :
    stringBody? (w ++ u) = (stringBody? u).map fun (b, q) => (w ++ b, q) := by
  induction w with
  | nil => simp
  | cons c w ih =>
    obtain ⟨hquote, hslash, hend⟩ := hw c (by simp)
    rw [List.cons_append, stringBody?_cons hquote hslash hend, ih fun d hd => hw d (by simp [hd]),
      Option.map_map]
    rfl

lemma stringBody?_escapedChar (c : Char) (u : List Char) :
    stringBody? (Json.escapedChar c ++ u) =
      (stringBody? u).map fun (b, q) => (Json.escapedChar c ++ b, q) := by
  obtain ⟨e, he, -, -, hread⟩ | ⟨he, hn⟩ | ⟨he, hquote, hslash, hend⟩ := escapedChar_cases c
  · simp only [he, List.cons_append, List.nil_append, stringBody?, hread, if_true]
  · have hesc : isEscape ('u' :: (hexText 4 c.toNat ++ u)) = true := isCodePoint_hexText hn u
    simp only [he, List.cons_append, stringBody?, hesc, if_true,
      stringBody?_append (ne_of_mem_hexText hn), Option.map_map]
    rfl
  · rw [he]
    exact stringBody?_cons hquote hslash hend u

lemma unescape?_escapedChar (c : Char) (u : List Char) :
    unescape? (Json.escapedChar c ++ u) = (unescape? u).map (c :: ·) := by
  obtain ⟨e, he, hu, hvalue, -⟩ | ⟨he, hn⟩ | ⟨he, -, hslash, -⟩ := escapedChar_cases c
  · rw [he, List.cons_append, List.cons_append, unescape?.eq_3 _ _ fun h => hu h, hvalue]
    rfl
  · rw [he, List.cons_append, List.cons_append, unescape?]
    split
    · rename_i hnone
      rw [codePoint?_hexText hn] at hnone
      cases hnone
    · rename_i d q hd
      rw [codePoint?_hexText hn, Char.ofNat_toNat] at hd
      cases hd
      rfl
  · rw [he, List.singleton_append, unescape?.eq_5 _ _ (fun _ h => absurd h hslash)
      (fun _ _ h => absurd h hslash) fun h => absurd h hslash]

theorem unescape?_flatMap_escapedChar (s : List Char) :
    unescape? (s.flatMap Json.escapedChar) = some s := by
  induction s with
  | nil => rw [List.flatMap_nil, unescape?]
  | cons c s ih => rw [List.flatMap_cons, unescape?_escapedChar, ih]; rfl

lemma stringBody?_flatMap_escapedChar (s r : List Char) :
    stringBody? (s.flatMap Json.escapedChar ++ '"' :: r) =
      some (s.flatMap Json.escapedChar, r) := by
  induction s with
  | nil => rfl
  | cons c s ih =>
    rw [List.flatMap_cons, List.append_assoc, stringBody?_escapedChar, ih]
    rfl

/-! ### Block strings -/

/-- The text with its escaped triple quotes as triple quotes. -/
def unescapeTriple : List Char → List Char
  | '\\' :: '"' :: '"' :: '"' :: r => '"' :: '"' :: '"' :: unescapeTriple r
  | c :: r => c :: unescapeTriple r
  | [] => []

/-- The lines of a text; a line feed, a carriage return, or both in this order end one. -/
def splitLines : List Char → List (List Char)
  | [] => [[]]
  | '\r' :: '\n' :: r => [] :: splitLines r
  | c :: r =>
    if isLineEnd c then [] :: splitLines r
    else match splitLines r with
      | [] => [[c]]
      | line :: lines => (c :: line) :: lines

/-- Nothing but white space. -/
def isEmptyLine (line : List Char) : Bool := line.all isWhiteSpace

/-- The white space that all lines begin with, not counting lines without anything else. -/
def commonIndent? (lines : List (List Char)) : Option Nat :=
  ((lines.filter (!isEmptyLine ·)).map fun line => (line.takeWhile isWhiteSpace).length).min?

/-- The lines without their common indentation; the first line has none. -/
def dedent : List (List Char) → List (List Char)
  | [] => []
  | first :: rest => first :: rest.map (List.drop ((commonIndent? rest).getD 0))

/-- The lines without empty ones at both ends. -/
def trimLines (lines : List (List Char)) : List (List Char) :=
  ((lines.dropWhile isEmptyLine).reverse.dropWhile isEmptyLine).reverse

/-- The text that the characters between two triple quotes stand for. -/
def blockStringValue (s : List Char) : List Char :=
  joinWith '\n' (trimLines (dedent (splitLines s)))

/-- The text that a token stands for, where it is a string. -/
def Token.stringValue? : Token → Option (List Char)
  | string b => unescape? b
  | block b => some (blockStringValue (unescapeTriple b))
  | _ => none

/-- A quoted text is one token. -/
lemma token?_quotedLiteral (s : List Char) {r : List Char} (hr : r.head? ≠ some '"') :
    token? (quotedLiteral s ++ r) = some (.string (s.flatMap Json.escapedChar), r) := by
  have hread := stringBody?_flatMap_escapedChar s r
  have hopen (u : List Char) : s.flatMap Json.escapedChar ++ '"' :: r ≠ '"' :: '"' :: u := by
    intro hu
    cases hb : s.flatMap Json.escapedChar with
    | nil =>
      rw [hb] at hu
      exact hr (by rw [(List.cons.inj hu).2]; rfl)
    | cons c b =>
      rw [hb] at hread hu
      exact ne_quote_of_stringBody? hread (List.cons.inj hu).1
  have htext : quotedLiteral s ++ r = '"' :: (s.flatMap Json.escapedChar ++ '"' :: r) := by
    simp [quotedLiteral, Json.quotedChars]
  rw [htext, token?.eq_4 _ hopen, hread]
  rfl

end VectorQuery.GraphQL
