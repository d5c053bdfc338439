import VectorQuery.Proofs.GraphQL.BlockString
import VectorQuery.Proofs.GraphQL.NumberValue

/-! Reading input values back. The reader takes its tokens from a text, or from a list of tokens. -/
namespace VectorQuery.GraphQL

/-! ### Sources of tokens -/

/-- What tokens are taken from, one at a time. -/
class TokenSource (σ : Type) where
  next? : σ → Option (Token × σ)
  size : σ → Nat
  size_lt {s r : σ} {t : Token} : next? s = some (t, r) → size r < size s

open TokenSource

instance : TokenSource (List Token) where
  next?
    | [] => none
    | t :: r => some (t, r)
  size := List.length
  size_lt {s r t} h := by
    cases s with
    | nil => cases h
    | cons u s =>
      cases h
      exact Nat.lt_succ_self _

lemma length_lt_of_nextToken? {s r : List Char} {t : Token} (h : nextToken? s = some (t, r)) :
    r.length < s.length := by
  fun_induction nextToken? s with
  | case1 => cases h
  | case2 s u q hs =>
    cases h
    exact length_lt_of_lexeme? hs
  | case3 s x q hx hs ih => exact Nat.lt_trans (ih h) (length_lt_of_lexeme? hs)

instance : TokenSource (List Char) where
  next? := nextToken?
  size := List.length
  size_lt := length_lt_of_nextToken?

variable {σ : Type} [TokenSource σ]

/-- The source gives these tokens one after the other, and the rest is left. -/
def Yields (s : σ) (ts : List Token) (r : σ) : Prop :=
  match ts with
  | [] => s = r
  | t :: ts => ∃ q, next? s = some (t, q) ∧ Yields q ts r

lemma Yields.append {s q r : σ} {ts us : List Token} (hts : Yields s ts q) (hus : Yields q us r) :
    Yields s (ts ++ us) r := by
  induction ts generalizing s with
  | nil =>
    obtain rfl : s = q := hts
    exact hus
  | cons t ts ih =>
    obtain ⟨u, hu, hrest⟩ := hts
    exact ⟨u, hu, ih hrest⟩

lemma Yields.split {s r : σ} {ts us : List Token} (h : Yields s (ts ++ us) r) :
    ∃ q, Yields s ts q ∧ Yields q us r := by
  induction ts generalizing s with
  | nil => exact ⟨s, rfl, h⟩
  | cons t ts ih =>
    obtain ⟨u, hu, hrest⟩ := h
    obtain ⟨q, hq, hr⟩ := ih hrest
    exact ⟨q, ⟨u, hu, hq⟩, hr⟩

lemma Yields.size_le {s r : σ} {ts : List Token} (h : Yields s ts r) : size r ≤ size s := by
  induction ts generalizing s with
  | nil =>
    obtain rfl : s = r := h
    exact Nat.le_refl _
  | cons t ts ih =>
    obtain ⟨q, hq, hrest⟩ := h
    exact Nat.le_trans (ih hrest) (Nat.le_of_lt (size_lt hq))

lemma Yields.size_lt {s r : σ} {ts : List Token} (h : Yields s ts r) (hne : ts ≠ []) :
    size r < size s := by
  cases ts with
  | nil => exact absurd rfl hne
  | cons t ts =>
    obtain ⟨q, hq, hrest⟩ := h
    exact Nat.lt_of_le_of_lt (Yields.size_le hrest) (TokenSource.size_lt hq)

/-- A list of tokens gives its tokens. -/
lemma yields_tokens (ts us : List Token) : Yields (ts ++ us) ts us := by
  induction ts with
  | nil => rfl
  | cons t ts ih => exact ⟨ts ++ us, rfl, ih⟩

/-! ### The reader -/

/-- The value of a token that is a value by itself. Names are enum values, but for the three that are
literals. -/
def Token.value? : Token → Option Value
  | name w =>
    if w = "null".toList then some .null
    else if w = "true".toList then some (.bool true)
    else if w = "false".toList then some (.bool false)
    else some (.enum (String.ofList w))
  | int w => some (.int (intValue w))
  | float w => (floatValue? w).map .float
  | string b => (Token.string b).stringValue?.map fun s => .string (String.ofList s)
  | block b => (Token.block b).stringValue?.map fun s => .string (String.ofList s)
  | _ => none

mutual

/-- The value in front of a source, and the rest. -/
def readValue (s : σ) : Option (Value × σ) :=
  match _h : next? s with
  | none => none
  | some (t, r) =>
    if t = .mark '[' then (readItems r).map fun (xs, q) => (.list xs, q)
    else if t = .mark '{' then (readFields '}' r).map fun (fs, q) => (.object fs, q)
    else t.value?.map (·, r)
termination_by (size s, 0)
decreasing_by all_goals exact Prod.Lex.left _ _ (size_lt _h)

/-- Values up to the closing bracket. -/
def readItems (s : σ) : Option (List Value × σ) :=
  match next? s with
  | none => none
  | some (t, r) =>
    if t = .mark ']' then some ([], r)
    else
      match readValue s with
      | none => none
      | some (v, q) =>
        -- a value takes a token at least, so this holds of every value that is read
        if _h : size q < size s then (readItems q).map fun (vs, u) => (v :: vs, u) else none
termination_by (size s, 1)
decreasing_by
  · exact Prod.Lex.right _ Nat.one_pos
  · exact Prod.Lex.left _ _ _h

/-- Names with their values, up to the character that closes them. -/
def readFields (close : Char) (s : σ) : Option (Arguments × σ) :=
  match _hs : next? s with
  | some (.name n, r) =>
    match _hr : next? r with
    | some (.mark ':', q) =>
      match readValue q with
      | none => none
      | some (v, u) =>
        if _h : size u < size s then
          (readFields close u).map fun (fs, w) => ((String.ofList n, v) :: fs, w)
        else none
    | _ => none
  | some (t, r) => if t = .mark close then some ([], r) else none
  | none => none
termination_by (size s, 0)
decreasing_by
  · exact Prod.Lex.left _ _ (Nat.lt_trans (size_lt _hr) (size_lt _hs))
  · exact Prod.Lex.left _ _ _h

end

/-- Arguments in parentheses, one at least. -/
def readArguments (s : σ) : Option (Arguments × σ) :=
  match next? s with
  | some (.mark '(', r) =>
    match readFields ')' r with
    | some (f :: fs, q) => some (f :: fs, q)
    | _ => none
  | _ => none

lemma readValue_of_next? {s r : σ} {t : Token} (h : next? s = some (t, r)) : readValue s =
    if t = .mark '[' then (readItems r).map fun (xs, q) => (.list xs, q)
    else if t = .mark '{' then (readFields '}' r).map fun (fs, q) => (.object fs, q)
    else t.value?.map (·, r) := by
  rw [readValue]
  split
  · rename_i hn
    rw [h] at hn
    cases hn
  · rename_i u q hu
    rw [h] at hu
    cases hu
    rfl

lemma readItems_close {s r : σ} (h : next? s = some (.mark ']', r)) : readItems s = some ([], r) := by
  rw [readItems, h]
  rfl

lemma readItems_cons {s r q : σ} {t : Token} {v : Value} (h : next? s = some (t, r))
    (ht : t ≠ .mark ']') (hv : readValue s = some (v, q)) (hq : size q < size s) :
    readItems s = (readItems q).map fun (vs, u) => (v :: vs, u) := by
  rw [readItems, h]
  simp only [if_neg ht, hv, dif_pos hq]

lemma readFields_close {s r : σ} {close : Char} (h : next? s = some (.mark close, r)) :
    readFields close s = some ([], r) := by
  rw [readFields]
  split
  · rename_i n q hn
    rw [h] at hn
    cases hn
  · rename_i t q _ ht
    rw [h] at ht
    cases ht
    exact if_pos rfl
  · rename_i hn
    rw [h] at hn
    cases hn

lemma readFields_cons {s r q u : σ} {close : Char} {n : List Char} {v : Value}
    (hn : next? s = some (.name n, r)) (hc : next? r = some (.mark ':', q))
    (hv : readValue q = some (v, u)) (hu : size u < size s) : readFields close s =
      (readFields close u).map fun (fs, w) => ((String.ofList n, v) :: fs, w) := by
  rw [readFields]
  split
  · rename_i n' r' hn'
    rw [hn] at hn'
    cases hn'
    split
    · rename_i q' hq'
      rw [hc] at hq'
      cases hq'
      simp only [hv, dif_pos hu]
    · rename_i hnot
      exact absurd hc (hnot q)
  · rename_i t r' hnot ht
    rw [hn] at ht
    cases ht
    exact absurd rfl (hnot n)
  · rename_i hnone
    rw [hn] at hnone
    cases hnone

lemma readArguments_of_readFields {s r q : σ} {f : String × Value} {fs : Arguments}
    (hs : next? s = some (.mark '(', r)) (hr : readFields ')' r = some (f :: fs, q)) :
    readArguments s = some (f :: fs, q) := by
  rw [readArguments, hs]
  simp only [hr]

end VectorQuery.GraphQL
