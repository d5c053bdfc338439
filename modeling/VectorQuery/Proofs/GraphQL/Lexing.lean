import VectorQuery.Proofs.GraphQL.Munch

/-! A whole text as lexemes and as tokens. Main statement: the lexemes of two texts side by side are
those of the one and then those of the other, wherever the second text extends nothing of the first. -/
namespace VectorQuery.GraphQL

lemma length_lt_of_lexeme? {s r : List Char} {x : Lexeme} (h : lexeme? s = some (x, r)) :
    r.length < s.length := by
  have hx := leads_of_lexeme? h
  have := List.length_pos_iff.2 hx.text_ne_nil
  rw [hx.text_append, List.length_append]
  omega

/-- The lexemes of a text; a text that is not of the lexical grammar has none. -/
def lexemes? (s : List Char) : Option (List Lexeme) :=
  match s with
  | [] => some []
  | c :: s =>
    match _h : lexeme? (c :: s) with
    | none => none
    | some (x, r) => (lexemes? r).map (x :: ·)
termination_by s.length
decreasing_by exact length_lt_of_lexeme? _h

/-- The next token of a text, and what follows it. What has no meaning is passed over. -/
def nextToken? (s : List Char) : Option (Token × List Char) :=
  match _h : lexeme? s with
  | none => none
  | some (.token t, r) => some (t, r)
  | some (_, r) => nextToken? r
termination_by s.length
decreasing_by exact length_lt_of_lexeme? _h

namespace Lexeme

/-- The token, where the lexeme is one. -/
def token? : Lexeme → Option Token
  | token t => some t
  | _ => none

end Lexeme

/-- The tokens among lexemes. -/
def tokensOf (xs : List Lexeme) : List Token := xs.filterMap Lexeme.token?

/-- The tokens of a text of the lexical grammar. -/
def tokens? (s : List Char) : Option (List Token) := (lexemes? s).map tokensOf

@[simp] lemma tokensOf_nil : tokensOf [] = [] := rfl

@[simp] lemma tokensOf_token (t : Token) (xs : List Lexeme) :
    tokensOf (.token t :: xs) = t :: tokensOf xs := rfl

@[simp] lemma tokensOf_append (xs ys : List Lexeme) :
    tokensOf (xs ++ ys) = tokensOf xs ++ tokensOf ys := List.filterMap_append

@[simp] lemma lexemes?_nil : lexemes? [] = some [] := by rw [lexemes?]

@[simp] lemma tokens?_nil : tokens? [] = some [] := by simp [tokens?]

lemma lexemes?_of_lexeme? {s r : List Char} {x : Lexeme} (h : lexeme? s = some (x, r)) :
    lexemes? s = (lexemes? r).map (x :: ·) := by
  cases s with
  | nil => cases h
  | cons c s =>
    rw [lexemes?]
    split
    · rename_i hn
      rw [h] at hn
      cases hn
    · rename_i y q hy
      rw [h] at hy
      cases hy
      rfl

lemma lexemes?_cons {s r : List Char} {x : Lexeme} {xs : List Lexeme}
    (h : lexeme? s = some (x, r)) (hr : lexemes? r = some xs) : lexemes? s = some (x :: xs) := by
  rw [lexemes?_of_lexeme? h, hr]
  rfl

lemma eq_nil_of_lexemes? {s : List Char} (h : lexemes? s = some []) : s = [] := by
  cases s with
  | nil => rfl
  | cons c s =>
    rw [lexemes?] at h
    split at h
    · cases h
    · obtain ⟨xs, -, hxs⟩ := Option.map_eq_some_iff.1 h
      cases hxs

lemma lexemes?_eq_cons {s : List Char} {x : Lexeme} {xs : List Lexeme}
    (h : lexemes? s = some (x :: xs)) : ∃ r, lexeme? s = some (x, r) ∧ lexemes? r = some xs := by
  cases s with
  | nil => simp at h
  | cons c s =>
    rw [lexemes?] at h
    split at h
    · cases h
    · rename_i y r hy
      obtain ⟨ys, hys, hxs⟩ := Option.map_eq_some_iff.1 h
      cases hxs
      exact ⟨r, hy, hys⟩

lemma lexemes?_of_none {c : Char} {s : List Char} (h : lexeme? (c :: s) = none) :
    lexemes? (c :: s) = none := by
  rw [lexemes?]
  split
  · rfl
  · rename_i x r hx
    rw [h] at hx
    cases hx

/-- A text is that of its lexemes. -/
lemma eq_text_of_lexemes? {s : List Char} {xs : List Lexeme} (h : lexemes? s = some xs) :
    s = xs.flatMap Lexeme.text := by
  induction xs generalizing s with
  | nil => exact eq_nil_of_lexemes? h
  | cons x xs ih =>
    obtain ⟨r, hx, hr⟩ := lexemes?_eq_cons h
    rw [(leads_of_lexeme? hx).text_append, ih hr, List.flatMap_cons]

/-- A text can be cut where its lexemes are cut. -/
theorem lexemes?_of_append {s : List Char} {xs ys : List Lexeme} (h : lexemes? s = some (xs ++ ys)) :
    lexemes? (xs.flatMap Lexeme.text) = some xs ∧ lexemes? (ys.flatMap Lexeme.text) = some ys := by
  induction xs generalizing s with
  | nil => exact ⟨lexemes?_nil, eq_text_of_lexemes? h ▸ h⟩
  | cons x xs ih =>
    obtain ⟨r, hx, hr⟩ := lexemes?_eq_cons h
    obtain ⟨hxs, hys⟩ := ih hr
    have hlead := leads_of_lexeme? hx
    -- without what is cut off, the next lexeme begins as before, or the text ends
    have htext : r = xs.flatMap Lexeme.text ++ ys.flatMap Lexeme.text :=
      (eq_text_of_lexemes? hr).trans List.flatMap_append
    have hbefore : x.Before (xs.flatMap Lexeme.text) := fun c hc =>
      hlead.before c (by rw [htext, List.head?_append, Option.mem_def.1 hc]; rfl)
    rw [List.flatMap_cons]
    exact ⟨lexemes?_cons (hlead.read _ hbefore) hxs, hys⟩

lemma before_append {x : Lexeme} {r u : List Char} (hr : x.Before r) (hu : x.Before u) :
    x.Before (r ++ u) := by
  cases r with
  | nil => exact hu
  | cons c r => exact fun d hd => hr d hd

lemma nextToken?_of_token {s r : List Char} {t : Token} (h : lexeme? s = some (.token t, r)) :
    nextToken? s = some (t, r) := by
  rw [nextToken?]
  split
  · rename_i hn
    rw [h] at hn
    cases hn
  · rename_i u q hu
    rw [h] at hu
    cases hu
    rfl
  · rename_i x q hnot hu
    rw [h] at hu
    cases hu
    exact absurd rfl (hnot t)

/-- What is no token is passed over. -/
lemma nextToken?_of_lexeme? {s r : List Char} {x : Lexeme} (h : lexeme? s = some (x, r))
    (hx : x.token? = none) : nextToken? s = nextToken? r := by
  rw [nextToken?]
  split
  · rename_i hn
    rw [h] at hn
    cases hn
  · rename_i t q ht
    rw [h] at ht
    cases ht
    cases hx
  · rename_i y q _ hq
    rw [h] at hq
    cases hq
    rfl

/-- The lexemes of two texts side by side, where the second text extends no lexeme of the first. -/
theorem lexemes?_append {s u : List Char} {xs : List Lexeme} (h : lexemes? s = some xs)
    (hu : ∀ x ∈ xs, x.Before u) : lexemes? (s ++ u) = (lexemes? u).map (xs ++ ·) := by
  -- a lexeme stops as before: at the next one of its own text, or in front of the second text
  induction xs generalizing s with
  | nil =>
    rw [eq_nil_of_lexemes? h]
    cases hu : lexemes? u <;> simp [hu]
  | cons x xs ih =>
    obtain ⟨r, hx, hr⟩ := lexemes?_eq_cons h
    have hlead := leads_of_lexeme? hx
    have hread : lexeme? (s ++ u) = some (x, r ++ u) := by
      rw [hlead.text_append, List.append_assoc]
      exact hlead.read _ (before_append hlead.before (hu x (by simp)))
    rw [lexemes?_of_lexeme? hread, ih hr fun y hy => hu y (by simp [hy])]
    cases lexemes? u <;> simp

/-- A line end extends nothing. -/
lemma before_lineEnd (x : Lexeme) (u : List Char) : x.Before ('\n' :: u) := by
  intro c hc
  obtain rfl : '\n' = c := by simpa using hc
  rcases x with (_ | _ | _ | _ | _ | ⟨_ | _⟩ | _) | _ | _ | _ | _ <;> rfl

lemma tokens?_lineEnd (u : List Char) : tokens? ('\n' :: u) = tokens? u := by
  have h : lexeme? ('\n' :: u) = some (.blank '\n', u) := rfl
  rw [tokens?, lexemes?_of_lexeme? h, tokens?]
  cases lexemes? u <;> rfl

/-- The tokens of a line and of the lines after it. -/
theorem tokens?_line {s : List Char} {ts : List Token} (h : tokens? s = some ts) (u : List Char) :
    tokens? (s ++ '\n' :: u) = (tokens? u).map (ts ++ ·) := by
  obtain ⟨xs, hxs, rfl⟩ := Option.map_eq_some_iff.1 h
  rw [tokens?, lexemes?_append hxs fun x _ => before_lineEnd x u, Option.map_map,
    ← tokens?_lineEnd u, tokens?, Option.map_map]
  congr 1
  funext ys
  simp

end VectorQuery.GraphQL
