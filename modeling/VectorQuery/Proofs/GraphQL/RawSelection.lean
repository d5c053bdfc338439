import VectorQuery.Proofs.GraphQL.FieldParts

/-! Selections as callers write them. The scanner and the lexer agree on what is one field with at most one
body. -/
namespace VectorQuery.GraphQL
open VectorQuery.Text

/-! ### Comments and separators -/

/-- Whether a lexeme is a comma or a byte order mark. -/
def Lexeme.isSeparator : Lexeme → Bool
  | .comma => true
  | .byteOrderMark => true
  | _ => false

/-- Every comma and every byte order mark is inside braces, where `d` of them are open in front. -/
def SeparatorsInside (d : Nat) (xs : List Lexeme) : Prop :=
  ∀ p x r, xs = p ++ x :: r → x.isSeparator = true → 0 < depthAfter d (tokensOf p)

def HasComment (xs : List Lexeme) : Prop := ∃ w, Lexeme.comment w ∈ xs

lemma closing_of_hasComment {xs : List Lexeme} (h : HasComment xs) (d : Nat) :
    closing d xs = false := by
  induction xs generalizing d with
  | nil => rfl
  | cons x xs ih =>
    obtain ⟨w, hw⟩ := h
    rcases List.mem_cons.1 hw with rfl | hmem
    · rfl
    have hrest : HasComment xs := ⟨w, hmem⟩
    cases x with
    | token t =>
      rw [closing]
      split
      · rw [List.all_eq_false]
        exact ⟨_, hmem, by simp [Lexeme.isBlank]⟩
      · exact ih hrest _
    | comment _ => rfl
    | _ => exact ih hrest d

lemma separatorsInside_nil (d : Nat) : SeparatorsInside d [] := by
  intro p x r hp
  cases p <;> cases hp

lemma separatorsInside_cons {d : Nat} {x : Lexeme} {xs : List Lexeme} :
    SeparatorsInside d (x :: xs) ↔
      (x.isSeparator = true → 0 < d) ∧ SeparatorsInside (depthAfter d (tokensOf [x])) xs := by
  have hdepth (p : List Lexeme) : depthAfter (depthAfter d (tokensOf [x])) (tokensOf p) =
      depthAfter d (tokensOf (x :: p)) := by
    rw [← depthAfter_append, ← tokensOf_append]
    rfl
  constructor
  · intro h
    refine ⟨fun hx => h [] x xs rfl hx, fun p y r hp hy => ?_⟩
    rw [hdepth]
    exact h (x :: p) y r (by rw [hp]; rfl) hy
  · rintro ⟨hhead, htail⟩ p y r hp hy
    cases p with
    | nil =>
      obtain ⟨rfl, -⟩ := List.cons.inj hp
      exact hhead hy
    | cons z p =>
      obtain ⟨rfl, hrest⟩ := List.cons.inj hp
      rw [← hdepth]
      exact htail p y r hrest hy

lemma SeparatorsInside.tail {d : Nat} {x : Lexeme} {xs : List Lexeme}
    (h : SeparatorsInside d (x :: xs)) : SeparatorsInside (depthAfter d (tokensOf [x])) xs :=
  (separatorsInside_cons.1 h).2

lemma tokensOf_of_all_isBlank {xs : List Lexeme} (h : xs.all Lexeme.isBlank = true) :
    tokensOf xs = [] := by
  induction xs with
  | nil => rfl
  | cons x xs ih =>
    rw [List.all_cons, Bool.and_eq_true] at h
    cases x with
    | blank c => exact ih h.2
    | _ => exact absurd h.1 (by simp [Lexeme.isBlank])

/-- Outside braces nothing but blanks stands between tokens. -/
lemma all_isBlank_of_tokensOf {xs : List Lexeme} (hc : ¬HasComment xs)
    (hs : SeparatorsInside 0 xs) (h : tokensOf xs = []) : xs.all Lexeme.isBlank = true := by
  induction xs with
  | nil => rfl
  | cons x xs ih =>
    have hc' : ¬HasComment xs := fun ⟨w, hw⟩ => hc ⟨w, List.mem_cons_of_mem x hw⟩
    cases x with
    | token t => cases h
    | blank c => exact ih hc' hs.tail h
    | comma => exact absurd (hs [] .comma xs rfl rfl) (by simp)
    | byteOrderMark => exact absurd (hs [] .byteOrderMark xs rfl rfl) (by simp)
    | comment w => exact absurd ⟨w, by simp⟩ hc

lemma closesAt_of_closing {xs : List Lexeme} {d : Nat} (h : closing d xs = true) :
    closesAt d (tokensOf xs) = true := by
  induction xs generalizing d with
  | nil => exact h
  | cons x xs ih =>
    cases x with
    | token t =>
      rw [closing] at h
      rw [tokensOf_token, closesAt]
      split at h
      · rename_i ht
        rw [if_pos ht, tokensOf_of_all_isBlank h]
        rfl
      · rename_i ht
        rw [if_neg ht]
        exact ih h
    | comment w => cases h
    | _ => exact ih h

lemma closing_of_closesAt {xs : List Lexeme} {d : Nat} (hd : 1 ≤ d) (hc : ¬HasComment xs)
    (hs : SeparatorsInside d xs) (h : closesAt d (tokensOf xs) = true) : closing d xs = true := by
  induction xs generalizing d with
  | nil => exact h
  | cons x xs ih =>
    have hc' : ¬HasComment xs := fun ⟨w, hw⟩ => hc ⟨w, List.mem_cons_of_mem x hw⟩
    cases x with
    | token t =>
      rw [tokensOf_token, closesAt] at h
      rw [closing]
      split at h
      · rename_i ht
        have hzero : t.deepen d = 0 := by
          rw [ht.1]
          exact Nat.sub_eq_zero_of_le ht.2
        rw [if_pos ht]
        exact all_isBlank_of_tokensOf hc' (hzero ▸ hs.tail) (List.isEmpty_iff.1 h)
      · rename_i ht
        rw [if_neg ht]
        exact ih (deepen_pos hd ht) hc' hs.tail h
    | comment w => exact absurd ⟨w, by simp⟩ hc
    | _ => exact ih hd hc' hs.tail h

/-! ### Selections -/

/-- What may follow the name of a field: a body, or nothing. -/
def closingBody (xs : List Lexeme) : Bool :=
  match xs.dropWhile Lexeme.isBlank with
  | [] => true
  | .token (.mark '{') :: ys => closing 1 ys
  | _ => false

/-- What is accepted, on lexemes: a name, and a body after it or nothing. -/
def selecting (xs : List Lexeme) : Bool :=
  match xs.dropWhile Lexeme.isBlank with
  | .token (.name _) :: ys => closingBody ys
  | _ => false

lemma lexemes?_trimLeft {s : List Char} {xs : List Lexeme} (h : lexemes? s = some xs) :
    lexemes? (trimLeft s) = some (xs.dropWhile Lexeme.isBlank) := by
  induction xs generalizing s with
  | nil =>
    rw [eq_nil_of_lexemes? h]
    exact lexemes?_nil
  | cons x xs ih =>
    obtain ⟨r, hx, hr⟩ := lexemes?_eq_cons h
    cases s with
    | nil => cases hx
    | cons c s =>
      by_cases hc : isBlank c = true
      · obtain rfl := (isBlank_iff_of_lexeme? hx).1 hc
        obtain rfl : s = r := (List.cons.inj (leads_of_lexeme? hx).text_append).2
        rw [trimLeft, List.dropWhile_cons_of_pos hc, ← trimLeft, ih hr]
        rfl
      · have hxb : x.isBlank = false := by simpa [isBlank_of_lexeme? hx] using hc
        rw [trimLeft, List.dropWhile_cons_of_neg hc, h, List.dropWhile_cons_of_neg (by simp [hxb])]

lemma not_isBlank_of_dropWhile {s : List Char} {x : Lexeme} {xs ys : List Lexeme}
    (h : lexemes? s = some (ys.dropWhile Lexeme.isBlank))
    (hx : ys.dropWhile Lexeme.isBlank = x :: xs) :
    ∃ c u r, s = c :: u ∧ isBlank c = false ∧ lexeme? (c :: u) = some (x, r) ∧
      lexemes? r = some xs := by
  rw [hx] at h
  obtain ⟨r, hread, hr⟩ := lexemes?_eq_cons h
  have hblank : x.isBlank = false := by
    have := List.head?_dropWhile_not Lexeme.isBlank ys
    rw [hx] at this
    simpa using this
  cases s with
  | nil => cases hread
  | cons c u => exact ⟨c, u, r, rfl, by rw [← isBlank_of_lexeme? hread, hblank], hread, hr⟩

lemma isBody_trimRight {s : List Char} {ys : List Lexeme}
    (h : lexemes? s = some (ys.dropWhile Lexeme.isBlank)) :
    ((trimRight s).isEmpty || isBody (trimRight s)) = closingBody ys := by
  rw [closingBody]
  split
  · rename_i hy
    rw [hy] at h
    rw [eq_nil_of_lexemes? h]
    rfl
  · rename_i zs hy
    obtain ⟨c, u, r, rfl, hc, hread, hr⟩ := not_isBlank_of_dropWhile h hy
    obtain ⟨rfl, rfl⟩ := List.cons.inj (leads_of_lexeme? hread).text_append
    rw [trimRight_cons_of_not_isBlank hc]
    exact closes_trimRight hr 1
  · rename_i hnil hopen
    cases hy : ys.dropWhile Lexeme.isBlank with
    | nil => exact absurd hy hnil
    | cons x zs =>
      obtain ⟨c, u, r, rfl, hc, hread, hr⟩ := not_isBlank_of_dropWhile h hy
      have hbrace : c ≠ '{' := by
        rintro rfl
        have : lexeme? ('{' :: u) = some (.token (.mark '{'), u) := rfl
        rw [this] at hread
        cases hread
        exact hopen zs hy
      rw [trimRight_cons_of_not_isBlank hc, isBody.eq_2]
      · rfl
      · exact fun v hv => hbrace (List.cons.inj hv).1

theorem isSelection_eq {s : List Char} {xs : List Lexeme} (h : lexemes? s = some xs) :
    isSelection s = selecting xs := by
  have hleft := lexemes?_trimLeft h
  have hname : (partsOf s).name = (trimLeft s).takeWhile isNameChar := rfl
  have hbody : (partsOf s).body = trimRight (trimLeft ((trimLeft s).dropWhile isNameChar)) := rfl
  rw [isSelection_eq_parts, selecting]
  cases hx : xs.dropWhile Lexeme.isBlank with
  | nil =>
    rw [hx] at hleft
    rw [hname, eq_nil_of_lexemes? hleft]
    rfl
  | cons x ys =>
    obtain ⟨c, u, r, hs, hc, hread, hr⟩ := not_isBlank_of_dropWhile hleft hx
    rw [hs] at hname hbody
    by_cases hn : isNameStart c = true
    · rw [lexeme?_name hn] at hread
      cases hread
      have hchar : isNameChar c = true := isNameChar_of_isNameStart hn
      rw [hname, isStrictName_takeWhile, hn, hbody, List.dropWhile_cons_of_pos hchar,
        isBody_trimRight (lexemes?_trimLeft hr)]
      rfl
    · rw [hname, isStrictName_takeWhile, Bool.eq_false_iff.2 hn, Bool.false_and]
      split
      · rename_i n ys' hy
        obtain ⟨rfl, rfl⟩ := List.cons.inj hy
        obtain ⟨d, v, rfl, hd, -⟩ := written_of_token? (token?_of_lexeme? hread)
        obtain rfl : c = d := (List.cons.inj (leads_of_lexeme? hread).text_append).1
        exact absurd hd hn
      · rfl

/-! ### Blanks in front -/

lemma dropWhile_isBlank_append (xs : List Lexeme) :
    xs = xs.takeWhile Lexeme.isBlank ++ xs.dropWhile Lexeme.isBlank :=
  List.takeWhile_append_dropWhile.symm

lemma tokensOf_dropWhile (xs : List Lexeme) :
    tokensOf (xs.dropWhile Lexeme.isBlank) = tokensOf xs := by
  have h := congrArg tokensOf (dropWhile_isBlank_append xs)
  rw [tokensOf_append, tokensOf_of_all_isBlank List.all_takeWhile] at h
  exact h.symm

lemma hasComment_dropWhile {xs : List Lexeme} (h : HasComment xs) :
    HasComment (xs.dropWhile Lexeme.isBlank) := by
  obtain ⟨w, hw⟩ := h
  rw [dropWhile_isBlank_append xs] at hw
  rcases List.mem_append.1 hw with hw | hw
  · exact absurd (List.all_eq_true.1 List.all_takeWhile _ hw) (by simp [Lexeme.isBlank])
  · exact ⟨w, hw⟩

lemma SeparatorsInside.dropWhile {d : Nat} {xs : List Lexeme} (h : SeparatorsInside d xs) :
    SeparatorsInside d (xs.dropWhile Lexeme.isBlank) := by
  intro p x r hp hx
  have := h (xs.takeWhile Lexeme.isBlank ++ p) x r
    (by rw [List.append_assoc, ← hp, ← dropWhile_isBlank_append]) hx
  rwa [tokensOf_append, tokensOf_of_all_isBlank List.all_takeWhile] at this

lemma closingBody_sound {xs : List Lexeme} (h : closingBody xs = true) :
    tokensOf xs = [] ∨ IsBody (tokensOf xs) := by
  rw [← tokensOf_dropWhile xs]
  rw [closingBody] at h
  split at h
  · rename_i hx
    rw [hx]
    exact .inl rfl
  · rename_i ys hx
    rw [hx]
    exact .inr (isBody_iff.2 ⟨_, rfl, closesAt_of_closing h⟩)
  · cases h

lemma closingBody_complete {xs : List Lexeme} (hc : ¬HasComment xs) (hs : SeparatorsInside 0 xs)
    (h : tokensOf xs = [] ∨ IsBody (tokensOf xs)) : closingBody xs = true := by
  have hc' : ¬HasComment (xs.dropWhile Lexeme.isBlank) := fun ⟨w, hw⟩ =>
    hc ⟨w, (List.dropWhile_sublist _).subset hw⟩
  have hs' := hs.dropWhile
  have hhead := List.head?_dropWhile_not Lexeme.isBlank xs
  rw [← tokensOf_dropWhile xs] at h
  rw [closingBody]
  cases hx : xs.dropWhile Lexeme.isBlank with
  | nil => rfl
  | cons x ys =>
    rw [hx] at hc' hs' hhead h
    cases x with
    | token t =>
      rcases h with h | h
      · cases h
      obtain ⟨us, hus, hclose⟩ := isBody_iff.1 h
      obtain ⟨rfl, rfl⟩ := List.cons.inj hus
      have hrest : ¬HasComment ys := fun ⟨w, hw⟩ => hc' ⟨w, List.mem_cons_of_mem _ hw⟩
      exact closing_of_closesAt (Nat.le_refl 1) hrest hs'.tail hclose
    | blank c => cases hhead
    | comma => exact absurd (hs' [] .comma ys rfl rfl) (by simp)
    | byteOrderMark => exact absurd (hs' [] .byteOrderMark ys rfl rfl) (by simp)
    | comment w => exact absurd ⟨w, by simp⟩ hc'

lemma closingBody_of_hasComment {xs : List Lexeme} (h : HasComment xs) :
    closingBody xs = false := by
  have h := hasComment_dropWhile h
  rw [closingBody]
  split
  · rename_i hx
    rw [hx] at h
    obtain ⟨w, hw⟩ := h
    cases hw
  · rename_i ys hx
    rw [hx] at h
    obtain ⟨w, hw⟩ := h
    exact closing_of_hasComment ⟨w, by simpa using hw⟩ 1
  · rfl

/-- What is accepted has the tokens of a field. -/
theorem isField_of_selecting {xs : List Lexeme} (h : selecting xs = true) :
    IsField (tokensOf xs) := by
  rw [← tokensOf_dropWhile xs]
  rw [selecting] at h
  split at h
  · rename_i n ys hx
    rw [hx]
    exact ⟨n, tokensOf ys, rfl, closingBody_sound h⟩
  · cases h

lemma selecting_of_isField {xs : List Lexeme} (hc : ¬HasComment xs) (hs : SeparatorsInside 0 xs)
    (h : IsField (tokensOf xs)) : selecting xs = true := by
  have hc' : ¬HasComment (xs.dropWhile Lexeme.isBlank) := fun ⟨w, hw⟩ =>
    hc ⟨w, (List.dropWhile_sublist _).subset hw⟩
  have hs' := hs.dropWhile
  have hhead := List.head?_dropWhile_not Lexeme.isBlank xs
  rw [← tokensOf_dropWhile xs] at h
  obtain ⟨n, body, htokens, hbody⟩ := h
  rw [selecting]
  cases hx : xs.dropWhile Lexeme.isBlank with
  | nil =>
    rw [hx] at htokens
    cases htokens
  | cons x ys =>
    rw [hx] at hc' hs' hhead htokens
    cases x with
    | token t =>
      obtain ⟨rfl, rfl⟩ := List.cons.inj htokens
      have hrest : ¬HasComment ys := fun ⟨w, hw⟩ => hc' ⟨w, List.mem_cons_of_mem _ hw⟩
      exact closingBody_complete hrest hs'.tail hbody
    | blank c => cases hhead
    | comma => exact absurd (hs' [] .comma ys rfl rfl) (by simp)
    | byteOrderMark => exact absurd (hs' [] .byteOrderMark ys rfl rfl) (by simp)
    | comment w => exact absurd ⟨w, by simp⟩ hc'

lemma selecting_of_hasComment {xs : List Lexeme} (h : HasComment xs) : selecting xs = false := by
  have h := hasComment_dropWhile h
  rw [selecting]
  split
  · rename_i n ys hx
    rw [hx] at h
    obtain ⟨w, hw⟩ := h
    exact closingBody_of_hasComment ⟨w, by simpa using hw⟩
  · rfl

end VectorQuery.GraphQL

namespace VectorQuery.FieldText
open VectorQuery.GraphQL

lemma check_of_isSelection {t : MarkedText} (h : isSelection t.content.toList = true)
    (what : String) : check what (.text t) = .ok ⟨t, h⟩ := dif_pos h

lemma check_of_not_isSelection {t : MarkedText} (h : isSelection t.content.toList = false)
    (what : String) : check what (.text t) = reject (.invalid what (.text t)) :=
  dif_neg (by simp [h])

/-- A text of the lexical grammar whose commas and byte order marks are all inside braces is accepted as
it is exactly when its tokens are those of one field. A text with a comment is refused. -/
theorem check_iff_isField (what : String) (t : MarkedText) (xs : List Lexeme)
    (h : lexemes? t.content.toList = some xs) :
    (¬HasComment xs → SeparatorsInside 0 xs →
      ((∃ f, check what (.text t) = .ok f ∧ f.text = t) ↔ IsField (tokensOf xs))) ∧
    (HasComment xs → check what (.text t) = reject (.invalid what (.text t))) := by
  have hsel := isSelection_eq h
  refine ⟨fun hc hs => ⟨?_, fun hfield => ?_⟩, fun hc => ?_⟩
  · rintro ⟨f, hf, rfl⟩
    exact isField_of_selecting (hsel ▸ f.valid)
  · have hvalid := hsel.trans (selecting_of_isField hc hs hfield)
    exact ⟨⟨t, hvalid⟩, check_of_isSelection hvalid what, rfl⟩
  · exact check_of_not_isSelection (hsel.trans (selecting_of_hasComment hc)) what

/-- Neither a brace in a string nor a comma between fields ends the body. -/
theorem check_brace_in_string :
    ∃ f, check "field" (.str "a\x7bb(c:\"\x7d\"),d\x7d") = .ok f ∧
      f.text = .plain "a\x7bb(c:\"\x7d\"),d\x7d" := by
  have h : lexemes? "a\x7bb(c:\"\x7d\"),d\x7d".toList = some
      [.token (.name ['a']), .token (.mark '{'), .token (.name ['b']), .token (.mark '('),
        .token (.name ['c']), .token (.mark ':'), .token (.string ['}']), .token (.mark ')'),
        .comma, .token (.name ['d']), .token (.mark '}')] :=
    lexemes?_cons rfl <| lexemes?_cons rfl <| lexemes?_cons rfl <| lexemes?_cons rfl <|
      lexemes?_cons rfl <| lexemes?_cons rfl <| lexemes?_cons rfl <| lexemes?_cons rfl <|
      lexemes?_cons rfl <| lexemes?_cons rfl <| lexemes?_cons rfl lexemes?_nil
  refine ((check_iff_isField "field" (.plain _) _ h).1 ?_ ?_).2 ?_
  · rintro ⟨w, hw⟩
    simp at hw
  · simp [separatorsInside_cons, separatorsInside_nil, Lexeme.isSeparator, Token.deepen]
  · exact ⟨['a'], _, rfl, .inr (isBody_iff.2 ⟨_, rfl, by decide⟩)⟩

end VectorQuery.FieldText
