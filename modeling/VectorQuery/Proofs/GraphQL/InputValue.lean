import VectorQuery.Proofs.GraphQL.ValueReader

/-! Input values are read back. The text of a value is its tokens, and its tokens are read as the value. -/
namespace VectorQuery.GraphQL
open TokenSource

/-- The names of the grammar, without the line feed that is let through elsewhere. -/
def isStrictName : List Char → Bool
  | [] => false
  | c :: r => isNameStart c && r.all isNameChar

/-- The names that are literals and no enum values. -/
def isLiteralName (w : List Char) : Bool :=
  ["null".toList, "true".toList, "false".toList].contains w

namespace Value

mutual

/-- The tokens of a value. -/
def tokens : Value → List Token
  | .null => [.name "null".toList]
  | .bool b => [.name (if b then "true".toList else "false".toList)]
  | .int i => [.int (intChars i)]
  | .float d => [.float d.text]
  | .string s => [.string (s.toList.flatMap Json.escapedChar)]
  | .block s => [blockToken s.toList]
  | .enum s => [.name s.toList]
  | .list xs => .mark '[' :: (itemsTokens xs ++ [.mark ']'])
  | .object fs => .mark '{' :: (fieldsTokens fs ++ [.mark '}'])

def itemsTokens : List Value → List Token
  | [] => []
  | x :: r => x.tokens ++ itemsTokens r

def fieldsTokens : List (String × Value) → List Token
  | [] => []
  | (n, v) :: r => .name n.toList :: .mark ':' :: (v.tokens ++ fieldsTokens r)

end

mutual

/-- Whether a value can be read back: its doubles are finite, and its names are names. -/
def isLegible : Value → Bool
  | .float d => d.isFinite
  | .enum s => isStrictName s.toList && !isLiteralName s.toList
  | .list xs => itemsLegible xs
  | .object fs => fieldsLegible fs
  | _ => true

def itemsLegible : List Value → Bool
  | [] => true
  | x :: r => x.isLegible && itemsLegible r

def fieldsLegible : List (String × Value) → Bool
  | [] => true
  | (n, v) :: r => isStrictName n.toList && v.isLegible && fieldsLegible r

end

mutual

/-- A value as it is read: block strings are strings. -/
def asRead : Value → Value
  | .block s => .string s
  | .list xs => .list (itemsAsRead xs)
  | .object fs => .object (fieldsAsRead fs)
  | v => v

def itemsAsRead : List Value → List Value
  | [] => []
  | x :: r => x.asRead :: itemsAsRead r

def fieldsAsRead : List (String × Value) → List (String × Value)
  | [] => []
  | (n, v) :: r => (n, v.asRead) :: fieldsAsRead r

end

lemma tokens_eq_cons (v : Value) : ∃ t ts, v.tokens = t :: ts ∧ t ≠ .mark ']' := by
  cases v with
  | block s =>
    refine ⟨blockToken s.toList, [], by rw [tokens], ?_⟩
    unfold blockToken
    split <;> simp
  | _ => exact ⟨_, _, by rw [tokens], by simp⟩

end Value

/-! ### From tokens to the value -/

variable {σ : Type} [TokenSource σ]

lemma readValue_of_value? {s r : σ} {t : Token} {v : Value} (ht : t.value? = some v)
    (h : Yields s [t] r) : readValue s = some (v, r) := by
  obtain ⟨q, hq, rfl⟩ := h
  have hmark (c : Char) : t ≠ .mark c := by
    rintro rfl
    cases ht
  rw [readValue_of_next? hq, if_neg (hmark _), if_neg (hmark _), ht]
  rfl

lemma value?_name_of_isLegible {s : String} (h : (Value.enum s).isLegible = true) :
    (Token.name s.toList).value? = some (.enum s) := by
  simp only [Value.isLegible, isLiteralName, Bool.and_eq_true, Bool.not_eq_true',
    List.contains_eq_mem, decide_eq_false_iff_not, List.mem_cons, List.not_mem_nil, or_false,
    not_or] at h
  obtain ⟨-, hnull, htrue, hfalse⟩ := h
  rw [Token.value?, if_neg hnull, if_neg htrue, if_neg hfalse, String.ofList_toList]

mutual

/-- A source that gives the tokens of a value is read as the value. -/
theorem readValue_of_yields : ∀ (v : Value) {s r : σ}, v.isLegible = true →
    Yields s v.tokens r → readValue s = some (v.asRead, r)
  | .null, _, _, _, h => readValue_of_value? rfl h
  | .bool true, _, _, _, h => readValue_of_value? rfl h
  | .bool false, _, _, _, h => readValue_of_value? rfl h
  | .int i, _, _, _, h => by
    have ht : (Token.int (intChars i)).value? = some (.int i) := by
      rw [Token.value?, (intValue_intChars i).2]
    exact readValue_of_value? ht h
  | .float d, _, _, hv, h => by
    have ht : (Token.float d.text).value? = some (.float d) := by
      rw [Token.value?, (floatValue?_text hv).2]
      rfl
    exact readValue_of_value? ht h
  | .string s, _, _, _, h => by
    have ht : (Token.string (s.toList.flatMap Json.escapedChar)).value? = some (.string s) := by
      rw [Token.value?, Token.stringValue?, unescape?_flatMap_escapedChar, Option.map_some,
        String.ofList_toList]
    exact readValue_of_value? ht h
  | .block s, _, _, _, h => by
    have ht : (blockToken s.toList).value? = some (.string s) := by
      have hvalue := blockToken_stringValue? s.toList
      unfold blockToken at hvalue ⊢
      split at hvalue
      · rename_i hfit
        rw [if_pos hfit, Token.value?, hvalue, Option.map_some, String.ofList_toList]
      · rename_i hfit
        rw [if_neg hfit, Token.value?, hvalue, Option.map_some, String.ofList_toList]
    exact readValue_of_value? ht h
  | .enum s, _, _, hv, h => readValue_of_value? (value?_name_of_isLegible hv) h
  | .list xs, _, _, hv, h => by
    obtain ⟨q, hq, hrest⟩ := h
    rw [readValue_of_next? hq, if_pos rfl, readItems_of_yields xs hv hrest]
    rfl
  | .object fs, _, _, hv, h => by
    obtain ⟨q, hq, hrest⟩ := h
    rw [readValue_of_next? hq, if_neg (by simp), if_pos rfl, readFields_of_yields fs hv hrest]
    rfl

theorem readItems_of_yields : ∀ (xs : List Value) {s r : σ}, Value.itemsLegible xs = true →
    Yields s (Value.itemsTokens xs ++ [.mark ']']) r →
      readItems s = some (Value.itemsAsRead xs, r)
  | [], _, _, _, h => by
    obtain ⟨q, hq, rfl⟩ := h
    exact readItems_close hq
  | x :: xs, _, _, hv, h => by
    rw [Value.itemsLegible, Bool.and_eq_true] at hv
    rw [Value.itemsTokens, List.append_assoc] at h
    obtain ⟨q, hx, hrest⟩ := h.split
    obtain ⟨t, ts, hts, ht⟩ := x.tokens_eq_cons
    have hlt := hx.size_lt (by simp [hts])
    have hread := readValue_of_yields x hv.1 hx
    rw [hts] at hx
    obtain ⟨u, hu, -⟩ := hx
    rw [readItems_cons hu ht hread hlt, readItems_of_yields xs hv.2 hrest]
    rfl

theorem readFields_of_yields : ∀ (fs : List (String × Value)) {s r : σ} {close : Char},
    Value.fieldsLegible fs = true → Yields s (Value.fieldsTokens fs ++ [.mark close]) r →
      readFields close s = some (Value.fieldsAsRead fs, r)
  | [], _, _, _, _, h => by
    obtain ⟨q, hq, rfl⟩ := h
    exact readFields_close hq
  | (n, v) :: fs, s, _, _, hv, h => by
    simp only [Value.fieldsLegible, Bool.and_eq_true] at hv
    rw [Value.fieldsTokens, List.cons_append, List.cons_append, List.append_assoc] at h
    obtain ⟨r₁, hn, r₂, hc, h⟩ := h
    obtain ⟨q, hread, hrest⟩ := h.split
    have hlt : size q < size s := Nat.lt_of_le_of_lt hread.size_le
      (Nat.lt_trans (size_lt hc) (size_lt hn))
    rw [readFields_cons hn hc (readValue_of_yields v hv.1.2 hread) hlt,
      readFields_of_yields fs hv.2 hrest, String.ofList_toList]
    rfl

end

/-! ### From the text to tokens -/

/-- No character that could belong to a token before it comes next. -/
def Delimited (s : List Char) : Prop :=
  ∀ c ∈ s.head?, isNameChar c = false ∧ c ≠ '.' ∧ c ≠ '"'

lemma delimited_cons {c : Char} (h : isNameChar c = false ∧ c ≠ '.' ∧ c ≠ '"') (s : List Char) :
    Delimited (c :: s) := by
  rintro d ⟨⟩
  exact h

lemma Delimited.stops_isNameChar {s : List Char} (h : Delimited s) : Stops isNameChar s :=
  fun c hc => (h c hc).1

lemma Delimited.stops_extendsNumber {s : List Char} (h : Delimited s) :
    Stops extendsNumber s := by
  intro c hc
  obtain ⟨hname, hpoint, -⟩ := h c hc
  simp only [isNameChar, Bool.or_eq_false_iff] at hname
  simp [extendsNumber, hname.1, hname.2, hpoint]

lemma Delimited.head?_ne_quote {s : List Char} (h : Delimited s) : s.head? ≠ some '"' :=
  fun hq => (h '"' hq).2.2 rfl

lemma yields_of_token? {s r : List Char} {t : Token} (h : token? s = some (t, r)) :
    Yields s [t] r := ⟨r, nextToken?_of_token (lexeme?_of_token? h), rfl⟩

lemma yields_of_lexeme? {s q r : List Char} {x : Lexeme} {t : Token} {ts : List Token}
    (hs : lexeme? s = some (x, q)) (hx : x.token? = none) (h : Yields q (t :: ts) r) :
    Yields s (t :: ts) r := by
  obtain ⟨u, hu, hrest⟩ := h
  exact ⟨u, (nextToken?_of_lexeme? hs hx).trans hu, hrest⟩

lemma yields_separator {s r : List Char} {t : Token} {ts : List Token} (h : Yields s (t :: ts) r) :
    Yields (separator ++ s) (t :: ts) r :=
  yields_of_lexeme? (x := .comma) rfl rfl (yields_of_lexeme? (x := .blank ' ') rfl rfl h)

lemma token?_of_number? {s r : List Char} {t : Token} (h : number? s = some (t, r)) :
    token? s = some (t, r) := by
  have hlead := leads_number h
  rw [hlead.text_append]
  exact hlead.read r hlead.before

lemma token?_name {w r : List Char} (hw : isStrictName w = true) (hr : Stops isNameChar r) :
    token? (w ++ r) = some (.name w, r) := by
  cases w with
  | nil => cases hw
  | cons c w =>
    obtain ⟨hc, hall⟩ := Bool.and_eq_true_iff.1 hw
    have hall := List.all_eq_true.1 hall
    have h := token?_of_lexeme? (lexeme?_name hc (w ++ r))
    rwa [takeWhile_append_stops hall hr, dropWhile_append_stops hall hr] at h

lemma token?_number {t : Token} {r : List Char} (ht : IsNumber t) (hr : Stops extendsNumber r) :
    token? (t.text ++ r) = some (t, r) :=
  token?_of_number? (number?_eq_some_iff.2 ⟨ht, by rw [numberText_eq_text ht], hr⟩)

lemma yields_close (close : Char) (r : List Char) (hclose : close = '}' ∨ close = ')') :
    Yields (close :: r) [.mark close] r := by
  refine yields_of_token? ?_
  rcases hclose with rfl | rfl <;> rfl

lemma yields_field {n : String} {v : Value} {s r : List Char}
    (hn : isStrictName n.toList = true) (h : Yields s v.tokens r) :
    Yields (n.toList ++ ':' :: ' ' :: s) (.name n.toList :: .mark ':' :: v.tokens) r := by
  obtain ⟨t, ts, hts, -⟩ := v.tokens_eq_cons
  have hname : Yields (n.toList ++ ':' :: ' ' :: s) [.name n.toList] (':' :: ' ' :: s) :=
    yields_of_token? (token?_name hn (delimited_cons (by decide) _).stops_isNameChar)
  have hcolon : Yields (':' :: ' ' :: s) [.mark ':'] (' ' :: s) := yields_of_token? rfl
  rw [hts] at h ⊢
  exact hname.append (hcolon.append (yields_of_lexeme? (x := .blank ' ') rfl rfl h))

mutual

/-- The text of a value gives the tokens of the value, and what follows is left. -/
theorem yields_chars : ∀ (v : Value) {r : List Char}, v.isLegible = true → Delimited r →
    Yields (v.chars ++ r) v.tokens r
  | .null, _, _, hr => yields_of_token? (token?_name rfl hr.stops_isNameChar)
  | .bool true, _, _, hr => yields_of_token? (token?_name rfl hr.stops_isNameChar)
  | .bool false, _, _, hr => yields_of_token? (token?_name rfl hr.stops_isNameChar)
  | .int i, _, _, hr => yields_of_token? (token?_number (t := .int (intChars i))
      (intValue_intChars i).1 hr.stops_extendsNumber)
  | .float d, _, hv, hr => yields_of_token? (token?_number (t := .float d.text)
      (floatValue?_text hv).1 hr.stops_extendsNumber)
  | .string s, _, _, hr => yields_of_token? (token?_quotedLiteral s.toList hr.head?_ne_quote)
  | .block s, _, _, hr => yields_of_token? (token?_blockToken s.toList hr.head?_ne_quote)
  | .enum s, _, hv, hr =>
    yields_of_token? (token?_name (Bool.and_eq_true_iff.1 hv).1 hr.stops_isNameChar)
  | .list xs, r, hv, _ => by
    have htext : (Value.list xs).chars ++ r = '[' :: (Value.itemsChars xs ++ ']' :: r) := by
      simp [Value.chars]
    rw [htext]
    have hopen : Yields ('[' :: (Value.itemsChars xs ++ ']' :: r)) [.mark '['] _ :=
      yields_of_token? rfl
    exact hopen.append (yields_itemsChars xs r hv)
  | .object fs, r, hv, _ => by
    have htext : (Value.object fs).chars ++ r = '{' :: (Value.fieldsChars fs ++ '}' :: r) := by
      simp [Value.chars]
    rw [htext]
    have hopen : Yields ('{' :: (Value.fieldsChars fs ++ '}' :: r)) [.mark '{'] _ :=
      yields_of_token? rfl
    exact hopen.append (yields_fieldsChars fs (.inl rfl) r hv)

theorem yields_itemsChars : ∀ (xs : List Value) (r : List Char), Value.itemsLegible xs = true →
    Yields (Value.itemsChars xs ++ ']' :: r) (Value.itemsTokens xs ++ [.mark ']']) r
  | [], _, _ => yields_of_token? rfl
  | [x], r, hv => by
    simp only [Value.itemsLegible, Bool.and_true] at hv
    have hx := yields_chars x hv (delimited_cons (c := ']') (by decide) r)
    rw [Value.itemsTokens, Value.itemsTokens, List.append_nil]
    exact hx.append (yields_of_token? rfl)
  | x :: y :: xs, r, hv => by
    rw [Value.itemsLegible, Bool.and_eq_true] at hv
    have hx := yields_chars x hv.1
      (delimited_cons (c := ',') (by decide) (' ' :: (Value.itemsChars (y :: xs) ++ ']' :: r)))
    -- the blank after a comma is passed over because the next item begins with a token
    obtain ⟨t, ts, hts, -⟩ := y.tokens_eq_cons
    have hrest := yields_itemsChars (y :: xs) r hv.2
    have htokens : Value.itemsTokens (y :: xs) ++ [.mark ']'] =
        t :: (ts ++ Value.itemsTokens xs ++ [.mark ']']) := by
      rw [Value.itemsTokens, hts]
      rfl
    have htext : Value.itemsChars (x :: y :: xs) ++ ']' :: r =
        x.chars ++ (separator ++ (Value.itemsChars (y :: xs) ++ ']' :: r)) := by
      simp only [Value.itemsChars, List.append_assoc]
    rw [htext, Value.itemsTokens, List.append_assoc, htokens]
    rw [htokens] at hrest
    exact hx.append (yields_separator hrest)

theorem yields_fieldsChars : ∀ (fs : List (String × Value)) {close : Char},
    close = '}' ∨ close = ')' → ∀ (r : List Char), Value.fieldsLegible fs = true →
      Yields (Value.fieldsChars fs ++ close :: r) (Value.fieldsTokens fs ++ [.mark close]) r
  | [], close, hclose, r, _ => yields_close close r hclose
  | [(n, v)], close, hclose, r, hv => by
    simp only [Value.fieldsLegible, Bool.and_true, Bool.and_eq_true] at hv
    have hend : Delimited (close :: r) := by
      rcases hclose with rfl | rfl
      · exact delimited_cons (by decide) r
      · exact delimited_cons (by decide) r
    have hfield := yields_field hv.1 (yields_chars v hv.2 hend)
    have htext : Value.fieldsChars [(n, v)] ++ close :: r =
        n.toList ++ ':' :: ' ' :: (v.chars ++ close :: r) := by
      simp [Value.fieldsChars]
    have htokens : Value.fieldsTokens [(n, v)] = .name n.toList :: .mark ':' :: v.tokens := by
      simp [Value.fieldsTokens]
    rw [htext, htokens]
    exact hfield.append (yields_close close r hclose)
  | (n, v) :: (m, w) :: fs, close, hclose, r, hv => by
    rw [Value.fieldsLegible, Bool.and_eq_true, Bool.and_eq_true] at hv
    have hrest := yields_fieldsChars ((m, w) :: fs) hclose r hv.2
    have hfield := yields_field hv.1.1 (yields_chars v hv.1.2 (delimited_cons (c := ',') (by decide)
      (' ' :: (Value.fieldsChars ((m, w) :: fs) ++ close :: r))))
    have htext : Value.fieldsChars ((n, v) :: (m, w) :: fs) ++ close :: r =
        n.toList ++ ':' :: ' ' ::
          (v.chars ++ (separator ++ (Value.fieldsChars ((m, w) :: fs) ++ close :: r))) := by
      simp only [Value.fieldsChars, List.append_assoc, List.cons_append]
    have htokens : Value.fieldsTokens ((n, v) :: (m, w) :: fs) ++ [.mark close] =
        (.name n.toList :: .mark ':' :: v.tokens) ++
          (Value.fieldsTokens ((m, w) :: fs) ++ [.mark close]) := by
      rw [Value.fieldsTokens]
      simp only [List.append_assoc, List.cons_append]
    rw [htext, htokens]
    exact hfield.append (yields_separator hrest)

end

/-! ### Plain data -/

/-- A key that is a name of the grammar. -/
def keyName? : Datum → Option String
  | .text (.word _) => none
  | .text t => if isStrictName t.content.toList then some t.content else none
  | _ => none

mutual

/-- What plain data mean as an input value. Text is a string, also where it is written as a block
string; bare text is an enum value. Infinite doubles, names that are none, and data of other kinds mean
nothing. -/
def denoted? : Datum → Option Value
  | .none => some .null
  | .bool b => some (.bool b)
  | .int i => some (.int i)
  | .float d => if d.isFinite then some (.float d) else none
  | .text (.bare s) =>
    if isStrictName s.toList && !isLiteralName s.toList then some (.enum s) else none
  | .text t => some (.string t.content)
  | .list xs => (denotedItems? xs).map .list
  | .tuple xs => (denotedItems? xs).map .list
  | .dict es => (denotedEntries? es).map .object
  | _ => none

def denotedItems? : List Datum → Option (List Value)
  | [] => some []
  | x :: r => do
    let v ← denoted? x
    let vs ← denotedItems? r
    pure (v :: vs)

def denotedEntries? : List (Datum × Datum) → Option (List (String × Value))
  | [] => some []
  | (k, x) :: r => do
    let n ← keyName? k
    let v ← denoted? x
    let vs ← denotedEntries? r
    pure ((n, v) :: vs)

end

lemma isNameChar_of_isNameStart {c : Char} (h : isNameStart c = true) : isNameChar c = true := by
  rw [isNameChar, h, Bool.true_or]

lemma all_isNameChar_of_isNameTail {w : List Char} (h : isNameTail w = true) (hn : '\n' ∉ w) :
    w.all isNameChar = true := by
  fun_induction isNameTail w with
  | case1 => rfl
  | case2 => simp at hn
  | case3 c r hr ih =>
    obtain ⟨hc, hrest⟩ := Bool.and_eq_true_iff.1 h
    rw [List.all_cons, hc, ih hrest fun hm => hn (List.mem_cons_of_mem c hm)]
    rfl

/-- What is accepted as a name has name characters in it, and a line feed. -/
lemma isNameChar_of_mem {w : List Char} {c : Char} (h : isName w = true) (hc : c ∈ w) :
    isNameChar c = true ∨ c = '\n' := by
  have htail {r : List Char} (hr : isNameTail r = true) (hmem : c ∈ r) :
      isNameChar c = true ∨ c = '\n' := by
    fun_induction isNameTail r with
    | case1 => cases hmem
    | case2 => exact .inr (List.mem_singleton.1 hmem)
    | case3 d r _ ih =>
      obtain ⟨hd, hrest⟩ := Bool.and_eq_true_iff.1 hr
      rcases List.mem_cons.1 hmem with rfl | hmem
      · exact .inl hd
      · exact ih hrest hmem
  cases w with
  | nil => cases hc
  | cons d r =>
    obtain ⟨hd, hrest⟩ := Bool.and_eq_true_iff.1 h
    rcases List.mem_cons.1 hc with rfl | hc
    · exact .inl (isNameChar_of_isNameStart hd)
    · exact htail hrest hc

/-- Without a line feed, what is accepted as a name is a name of the grammar. -/
lemma isStrictName_of_isName {w : List Char} (h : isName w = true) (hn : '\n' ∉ w) :
    isStrictName w = true := by
  cases w with
  | nil => cases h
  | cons c r =>
    obtain ⟨hc, hrest⟩ := Bool.and_eq_true_iff.1 h
    rw [isStrictName, hc, all_isNameChar_of_isNameTail hrest
      fun hm => hn (List.mem_cons_of_mem c hm)]
    rfl

lemma isName_of_isStrictName {w : List Char} (h : isStrictName w = true) : isName w = true := by
  have htail (r : List Char) (hr : r.all isNameChar = true) : isNameTail r = true := by
    induction r with
    | nil => rfl
    | cons c r ih =>
      rw [List.all_cons, Bool.and_eq_true] at hr
      unfold isNameTail
      split
      · rfl
      · rfl
      · rename_i c' r' _ heq
        obtain ⟨rfl, rfl⟩ := List.cons.inj heq
        rw [hr.1, ih hr.2]
        rfl
  cases w with
  | nil => cases h
  | cons c r =>
    rw [isStrictName, Bool.and_eq_true] at h
    rw [isName, h.1, htail r h.2]
    rfl

lemma check_of_keyName? {k : Datum} {n : String} (h : keyName? k = some n) (what : String) :
    isStrictName n.toList = true ∧ ∃ name, Name.check what k = .ok name ∧ name.text.shown = n := by
  unfold keyName? at h
  split at h
  · cases h
  · rename_i t hword
    simp only [Option.ite_none_right_eq_some, Option.some.injEq] at h
    obtain ⟨hstrict, rfl⟩ := h
    refine ⟨hstrict, ⟨t, isName_of_isStrictName hstrict⟩,
      dif_pos (isName_of_isStrictName hstrict), ?_⟩
    cases t with
    | word w => exact absurd rfl (hword w)
    | _ => rfl
  · cases h

mutual

/-- Data with a meaning are encoded as a value with that meaning. -/
theorem ofDatum_of_denoted? : ∀ (d : Datum) {v : Value}, denoted? d = some v →
    ∃ w, Value.ofDatum d = .ok w ∧ w.isLegible = true ∧ w.asRead = v
  | .none, _, h => ⟨.null, rfl, rfl, Option.some.inj h⟩
  | .bool b, _, h => ⟨.bool b, rfl, rfl, Option.some.inj h⟩
  | .int i, _, h => ⟨.int i, rfl, rfl, Option.some.inj h⟩
  | .float d, _, h => by
    simp only [denoted?, Option.ite_none_right_eq_some, Option.some.injEq] at h
    obtain ⟨hd, rfl⟩ := h
    exact ⟨.float d, by rw [Value.ofDatum, if_pos hd], hd, rfl⟩
  | .text (.bare s), _, h => by
    simp only [denoted?, Option.ite_none_right_eq_some, Option.some.injEq] at h
    obtain ⟨hs, rfl⟩ := h
    exact ⟨.enum s, rfl, hs, rfl⟩
  | .text (.plain s), _, h => ⟨.string s, rfl, rfl, Option.some.inj h⟩
  | .text (.block s), _, h => ⟨.block s, rfl, rfl, Option.some.inj h⟩
  | .text (.word w), _, h => ⟨.string w.symbol, rfl, rfl, Option.some.inj h⟩
  | .list xs, _, h => by
    rw [denoted?] at h
    obtain ⟨vs, hvs, rfl⟩ := Option.map_eq_some_iff.1 h
    obtain ⟨ws, hws, hlegible, rfl⟩ := ofItems_of_denoted? xs hvs
    exact ⟨.list ws, by rw [Value.ofDatum, hws]; rfl, hlegible, rfl⟩
  | .tuple xs, _, h => by
    rw [denoted?] at h
    obtain ⟨vs, hvs, rfl⟩ := Option.map_eq_some_iff.1 h
    obtain ⟨ws, hws, hlegible, rfl⟩ := ofItems_of_denoted? xs hvs
    exact ⟨.list ws, by rw [Value.ofDatum, hws]; rfl, hlegible, rfl⟩
  | .dict es, _, h => by
    rw [denoted?] at h
    obtain ⟨vs, hvs, rfl⟩ := Option.map_eq_some_iff.1 h
    obtain ⟨ws, hws, hlegible, rfl⟩ := ofEntries_of_denoted? es hvs
    exact ⟨.object ws, by rw [Value.ofDatum, hws]; rfl, hlegible, rfl⟩

theorem ofItems_of_denoted? : ∀ (xs : List Datum) {vs : List Value}, denotedItems? xs = some vs →
    ∃ ws, Value.ofItems xs = .ok ws ∧ Value.itemsLegible ws = true ∧ Value.itemsAsRead ws = vs
  | [], _, h => ⟨[], rfl, rfl, Option.some.inj h⟩
  | x :: xs, _, h => by
    simp only [denotedItems?, Option.bind_eq_bind, Option.bind_eq_some_iff, Option.pure_def,
      Option.some.injEq] at h
    obtain ⟨v, hv, vs, hvs, rfl⟩ := h
    obtain ⟨w, hw, hlegible, rfl⟩ := ofDatum_of_denoted? x hv
    obtain ⟨ws, hws, hrest, rfl⟩ := ofItems_of_denoted? xs hvs
    refine ⟨w :: ws, by rw [Value.ofItems, hw, hws]; rfl, ?_, rfl⟩
    rw [Value.itemsLegible, hlegible, hrest]
    rfl

theorem ofEntries_of_denoted? : ∀ (es : List (Datum × Datum)) {vs : List (String × Value)},
    denotedEntries? es = some vs → ∃ ws, Value.ofEntries es = .ok ws ∧
      Value.fieldsLegible ws = true ∧ Value.fieldsAsRead ws = vs
  | [], _, h => ⟨[], rfl, rfl, Option.some.inj h⟩
  | (k, x) :: es, _, h => by
    simp only [denotedEntries?, Option.bind_eq_bind, Option.bind_eq_some_iff, Option.pure_def,
      Option.some.injEq] at h
    obtain ⟨n, hn, v, hv, vs, hvs, rfl⟩ := h
    obtain ⟨hstrict, name, hname, rfl⟩ := check_of_keyName? hn "argument name"
    obtain ⟨w, hw, hlegible, rfl⟩ := ofDatum_of_denoted? x hv
    obtain ⟨ws, hws, hrest, rfl⟩ := ofEntries_of_denoted? es hvs
    refine ⟨(name.text.shown, w) :: ws, by rw [Value.ofEntries, hname, hw, hws]; rfl, ?_, rfl⟩
    rw [Value.fieldsLegible, hstrict, hlegible, hrest]
    rfl

end

/-- Reading undoes writing. Data with a meaning are written as a text from which the reader takes exactly
that text, and gets the meaning, whatever follows that does not go on with a token. -/
theorem readValue_render (d : Datum) {v : Value} (h : denoted? d = some v) {r : List Char}
    (hr : Delimited r) : ∃ w, Value.ofDatum d = .ok w ∧
      readValue (w.render.toList ++ r) = some (v, r) := by
  obtain ⟨w, hw, hlegible, rfl⟩ := ofDatum_of_denoted? d h
  refine ⟨w, hw, ?_⟩
  rw [Value.render, String.toList_ofList]
  exact readValue_of_yields w hlegible (yields_chars w hlegible hr)

/-- An object with a list, a block string and a bare name, in front of a bracket. -/
theorem readValue_render_object : ∃ w, Value.ofDatum (.dict [(.str "path", .tuple [.str "a\"]"]),
      (.str "prompt", .text (.block "\\")), (.str "operator", .text (.bare "Equal")),
      (.str "limit", .int (-3))]) = .ok w ∧
    readValue (w.render.toList ++ [']', '"']) = some (.object [("path", .list [.string "a\"]"]),
      ("prompt", .string "\\"), ("operator", .enum "Equal"), ("limit", .int (-3))], [']', '"']) :=
  readValue_render _ rfl (delimited_cons (by decide) _)

end VectorQuery.GraphQL
