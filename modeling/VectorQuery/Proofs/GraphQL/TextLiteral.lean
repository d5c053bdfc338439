import VectorQuery.Proofs.GraphQL.InputValue

/-! Texts in a document. A text is written as a string literal that stands for it, whatever its characters
are, unless it is marked as bare: no literal stands for its own characters. -/
namespace VectorQuery
open Text (joinWith)

/-- Whether a text is written without quotes. -/
def MarkedText.isBare : MarkedText → Bool
  | bare _ => true
  | _ => false

namespace GraphQL

/-! ### Literals are longer than what they stand for -/

lemma length_le_of_unescape? {s v : List Char} (h : unescape? s = some v) : v.length ≤ s.length := by
  fun_induction unescape? s generalizing v with
  | case1 =>
    obtain rfl := Option.some.inj h
    exact Nat.le_refl _
  | case2 => cases h
  | case3 r c q hq ih =>
    obtain ⟨w, hw, rfl⟩ := Option.map_eq_some_iff.1 h
    have hrest := ih hw
    have hlt := length_codePoint? hq
    simp only [List.length_cons]
    omega
  | case4 c r hu ih =>
    obtain ⟨d, -, h⟩ := Option.bind_eq_some_iff.1 h
    obtain ⟨w, hw, rfl⟩ := Option.map_eq_some_iff.1 h
    have hrest := ih hw
    simp only [List.length_cons]
    omega
  | case5 => cases h
  | case6 c r _ _ _ ih =>
    obtain ⟨w, hw, rfl⟩ := Option.map_eq_some_iff.1 h
    have hrest := ih hw
    simp only [List.length_cons]
    omega

lemma length_unescapeTriple_le (s : List Char) : (unescapeTriple s).length ≤ s.length := by
  fun_induction unescapeTriple s with
  | case1 r ih => simp only [List.length_cons]; omega
  | case2 c r _ ih => simp only [List.length_cons]; omega
  | case3 => exact Nat.le_refl _

/-- The number of characters in lines, each counted with its end. -/
def linesLength (lines : List (List Char)) : Nat := (lines.map (·.length + 1)).sum

@[simp] lemma linesLength_nil : linesLength [] = 0 := rfl

@[simp] lemma linesLength_cons (line : List Char) (lines : List (List Char)) :
    linesLength (line :: lines) = line.length + 1 + linesLength lines := rfl

lemma linesLength_splitLines_le (s : List Char) : linesLength (splitLines s) ≤ s.length + 1 := by
  fun_induction splitLines s with
  | case1 => exact Nat.le_refl _
  | case2 r ih =>
    simp only [linesLength_cons, List.length_cons, List.length_nil]
    omega
  | case3 c r _ hc ih =>
    simp only [linesLength_cons, List.length_cons, List.length_nil]
    omega
  | case4 c r _ hc hnil ih =>
    simp only [linesLength_cons, linesLength_nil, List.length_cons, List.length_nil]
    omega
  | case5 c r _ hc line lines hlines ih =>
    rw [hlines] at ih
    simp only [linesLength_cons, List.length_cons] at ih ⊢
    omega

lemma linesLength_le_of_sublist {a b : List (List Char)} (h : a.Sublist b) :
    linesLength a ≤ linesLength b := by
  induction h with
  | slnil => exact Nat.le_refl _
  | cons line _ ih => exact Nat.le_add_left_of_le ih
  | cons_cons line _ ih => exact Nat.add_le_add_left ih _

lemma linesLength_dedent_le (lines : List (List Char)) :
    linesLength (dedent lines) ≤ linesLength lines := by
  have hdrop (n : Nat) (rest : List (List Char)) :
      linesLength (rest.map (List.drop n)) ≤ linesLength rest := by
    induction rest with
    | nil => exact Nat.le_refl _
    | cons line rest ih =>
      simp only [List.map_cons, linesLength_cons, List.length_drop]
      omega
  cases lines with
  | nil => exact Nat.le_refl _
  | cons first rest => exact Nat.add_le_add_left (hdrop _ rest) _

lemma trimLines_sublist (lines : List (List Char)) : (trimLines lines).Sublist lines := by
  have hback := ((lines.dropWhile isEmptyLine).reverse.dropWhile_sublist isEmptyLine).reverse
  rw [List.reverse_reverse] at hback
  exact hback.trans (lines.dropWhile_sublist isEmptyLine)

lemma length_joinWith_le (sep : Char) (lines : List (List Char)) :
    (joinWith sep lines).length ≤ linesLength lines := by
  fun_induction joinWith sep lines with
  | case1 => exact Nat.le_refl _
  | case2 line => simp only [linesLength_cons, linesLength_nil]; omega
  | case3 line next rest ih =>
    simp only [linesLength_cons, List.length_append, List.length_cons] at ih ⊢
    omega

lemma length_blockStringValue_le (s : List Char) : (blockStringValue s).length ≤ s.length + 1 :=
  calc (blockStringValue s).length
    _ ≤ linesLength (trimLines (dedent (splitLines s))) := length_joinWith_le _ _
    _ ≤ linesLength (dedent (splitLines s)) := linesLength_le_of_sublist (trimLines_sublist _)
    _ ≤ linesLength (splitLines s) := linesLength_dedent_le _
    _ ≤ s.length + 1 := linesLength_splitLines_le s

/-- A string token has more characters than the text that it stands for. -/
theorem length_lt_of_stringValue? {t : Token} {v : List Char} (h : t.stringValue? = some v) :
    v.length < t.text.length := by
  cases t with
  | string b =>
    have hle := length_le_of_unescape? h
    simp only [Token.text, List.length_append, List.length_cons, List.length_nil]
    omega
  | block b =>
    obtain rfl := Option.some.inj h
    have hblock := length_blockStringValue_le (unescapeTriple b)
    have htriple := length_unescapeTriple_le b
    simp only [Token.text, tripleQuote, List.length_append, List.length_cons, List.length_nil]
    omega
  | _ => cases h

/-! ### Texts -/

/-- The source begins with a string literal that stands for these characters; the rest comes after it. -/
def ReadsText (s v r : List Char) : Prop := ∃ t, token? s = some (t, r) ∧ t.stringValue? = some v

lemma readsText_quotedLiteral (v : List Char) {r : List Char} (hr : Delimited r) :
    ReadsText (quotedLiteral v ++ r) v r :=
  ⟨_, token?_quotedLiteral v hr.head?_ne_quote, unescape?_flatMap_escapedChar v⟩

lemma not_readsText_self (v r : List Char) : ¬ReadsText (v ++ r) v r := by
  rintro ⟨t, ht, hv⟩
  have htext : v = t.text := List.append_cancel_right (leads_of_token? ht).text_append
  have hlt := length_lt_of_stringValue? hv
  rw [← htext] at hlt
  exact Nat.lt_irrefl _ hlt

/-- What is written for a text is a string literal that stands for it exactly when the text is not bare. -/
theorem readsText_ofText_iff (t : MarkedText) {r : List Char} (hr : Delimited r) :
    ReadsText ((Value.ofText t).chars ++ r) t.content.toList r ↔ t.isBare = false := by
  cases t with
  | plain s => exact iff_of_true (readsText_quotedLiteral s.toList hr) rfl
  | word w => exact iff_of_true (readsText_quotedLiteral w.symbol.toList hr) rfl
  | block s =>
    exact iff_of_true ⟨_, token?_blockToken s.toList hr.head?_ne_quote, blockToken_stringValue? _⟩ rfl
  | bare s => exact iff_of_false (not_readsText_self s.toList r) Bool.noConfusion

end GraphQL

end VectorQuery
