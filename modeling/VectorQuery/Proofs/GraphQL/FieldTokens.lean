import VectorQuery.Proofs.GraphQL.DocumentTokens
import VectorQuery.Proofs.GraphQL.RawSelection

/-! The tokens of fields as callers write them. The grammar passes over four of the blanks that may stand around
a name and a body; a text with any other blank has no tokens. -/
namespace VectorQuery.GraphQL
open VectorQuery.Text

/-- The blanks that the grammar passes over: space, tab, line feed and carriage return. -/
def isLayout (c : Char) : Bool := isWhiteSpace c || isLineEnd c

/-! ### Blanks -/

lemma lexeme?_layout {c : Char} (hc : isLayout c = true) (s : List Char) :
    lexeme? (c :: s) = some (.blank c, s) := if_pos hc

lemma lexeme?_blank {c : Char} (hc : isBlank c = true) (hl : isLayout c = false) (s : List Char) :
    lexeme? (c :: s) = none := by
  rw [Option.eq_none_iff_forall_ne_some]
  rintro ⟨x, r⟩ h
  obtain rfl := (isBlank_iff_of_lexeme? h).1 hc
  rw [lexeme?, if_neg (by simpa [isLayout] using hl)] at h
  split at h
  · cases h
  split at h
  · cases h
  split at h
  · cases h
  obtain ⟨⟨t, q⟩, -, h⟩ := Option.map_eq_some_iff.1 h
  cases h

/-- In front of a text, blanks are passed over or spoil it. -/
theorem tokens?_blanks {w : List Char} (hw : ∀ c ∈ w, isBlank c = true) (s : List Char) :
    tokens? (w ++ s) = if w.all isLayout then tokens? s else none := by
  induction w with
  | nil => rfl
  | cons c w ih =>
    obtain ⟨hc, hw⟩ := List.forall_mem_cons.1 hw
    rw [List.cons_append, List.all_cons]
    cases hl : isLayout c with
    | true =>
      rw [tokens?_of_lexeme? (lexeme?_layout hl _), ih hw, Bool.true_and]
      cases tokens? s <;> split <;> rfl
    | false =>
      rw [tokens?, lexemes?_of_none (lexeme?_blank hc hl _)]
      rfl

/-! ### Blanks behind a body -/

/-- Lexemes that close the open braces end with a brace, and blanks behind it. -/
lemma exists_of_closing {d : Nat} {xs : List Lexeme} (h : closing d xs = true) :
    ∃ ys zs, xs = ys ++ zs ∧ (ys.flatMap Lexeme.text).getLast? = some '}' ∧
      zs.all Lexeme.isBlank = true := by
  induction xs generalizing d with
  | nil => cases h
  | cons x xs ih =>
    have hrest {d : Nat} (h : closing d xs = true) : ∃ ys zs, x :: xs = ys ++ zs ∧
        (ys.flatMap Lexeme.text).getLast? = some '}' ∧ zs.all Lexeme.isBlank = true := by
      obtain ⟨ys, zs, rfl, hlast, hzs⟩ := ih h
      refine ⟨x :: ys, zs, rfl, ?_, hzs⟩
      rw [List.flatMap_cons, List.getLast?_append, hlast]
      rfl
    cases x with
    | token t =>
      rw [closing] at h
      split at h
      · rename_i ht
        rw [ht.1]
        exact ⟨[.token (.mark '}')], xs, rfl, rfl, h⟩
      · exact hrest h
    | comment w => cases h
    | _ => exact hrest h

/-- Blanks extend nothing but comments. -/
lemma before_layout {x : Lexeme} (hx : ∀ w, x ≠ .comment w) {w : List Char}
    (hw : w.all isLayout = true) : x.Before w := by
  intro c hc
  have hc := List.all_eq_true.1 hw c (List.mem_of_mem_head? hc)
  simp only [isLayout, isWhiteSpace, isLineEnd, Bool.or_eq_true, beq_iff_eq] at hc
  rcases x with (_ | _ | _ | _ | _ | ⟨_ | _⟩ | _) | _ | _ | _ | u
  all_goals first
    | exact absurd rfl (hx u)
    | rcases hc with (rfl | rfl) | rfl | rfl <;> rfl

variable {d : Nat} {r w : List Char}

lemma not_hasComment_of_closes (h : closes r d = true) {xs : List Lexeme}
    (hxs : lexemes? r = some xs) : ¬HasComment xs := by
  intro hcomment
  rw [← trimRight_of_closes h, closes_trimRight hxs, closing_of_hasComment hcomment] at h
  cases h

lemma tokens?_append_of_closes (h : closes r d = true) {xs : List Lexeme}
    (hxs : lexemes? r = some xs) (hw : ∀ c ∈ w, isBlank c = true) (hlayout : w.all isLayout = true) :
    tokens? (r ++ w) = tokens? r := by
  have hbefore : ∀ x ∈ xs, x.Before w := fun x hx =>
    before_layout (fun u hu => not_hasComment_of_closes h hxs ⟨u, hu ▸ hx⟩) hlayout
  have hblanks := tokens?_blanks hw []
  rw [List.append_nil, if_pos hlayout, tokens?_nil] at hblanks
  obtain ⟨ys, hys, hnone⟩ := Option.map_eq_some_iff.1 hblanks
  rw [tokens?, tokens?, lexemes?_append hxs hbefore, hxs, hys]
  simp [hnone]

/-- The lexemes of the whole are cut behind the last brace. -/
lemma lexemes?_of_closes (h : closes r d = true) (hw : ∀ c ∈ w, isBlank c = true)
    {xs : List Lexeme} (hxs : lexemes? (r ++ w) = some xs) :
    (∃ ys, lexemes? r = some ys) ∧ w.all isLayout = true := by
  have htrim : trimRight (r ++ w) = r :=
    (trimRight_append_blanks hw r).trans (trimRight_of_closes h)
  have hclosing : closing d xs = true := by rw [← closes_trimRight hxs, htrim, h]
  obtain ⟨ys, zs, rfl, hlast, hzs⟩ := exists_of_closing hclosing
  obtain ⟨hfront, hback⟩ := lexemes?_of_append hxs
  have htext : r ++ w = ys.flatMap Lexeme.text ++ zs.flatMap Lexeme.text :=
    (eq_text_of_lexemes? hxs).trans List.flatMap_append
  have hbrace : ∀ c ∈ (ys.flatMap Lexeme.text).getLast?, isBlank c = false := by
    rw [hlast]
    rintro c ⟨⟩
    rfl
  have hr : r = ys.flatMap Lexeme.text := by
    rw [← htrim, htext, trimRight_append_of_not_isBlank hbrace, (trimRight_eq_nil_iff hback).2 hzs,
      List.append_nil]
  have hback_text : w = zs.flatMap Lexeme.text := List.append_cancel_left (htext.trans (by rw [← hr]))
  refine ⟨⟨ys, by rw [hr, hfront]⟩, ?_⟩
  by_contra hlayout
  have hblanks := tokens?_blanks hw []
  rw [List.append_nil, if_neg hlayout, hback_text, tokens?, hback] at hblanks
  cases hblanks

theorem tokens?_closes_blanks (h : closes r d = true) (hw : ∀ c ∈ w, isBlank c = true) :
    tokens? (r ++ w) = if w.all isLayout then tokens? r else none := by
  cases hxs : lexemes? (r ++ w) with
  | some xs =>
    obtain ⟨⟨ys, hys⟩, hlayout⟩ := lexemes?_of_closes h hw hxs
    rw [if_pos hlayout, tokens?_append_of_closes h hys hw hlayout]
  | none =>
    have hnone : tokens? (r ++ w) = none := by rw [tokens?, hxs]; rfl
    split
    · rename_i hlayout
      cases hys : lexemes? r with
      | none => rw [hnone, tokens?, hys]; rfl
      | some ys => rw [tokens?_append_of_closes h hys hw hlayout]
    · exact hnone

/-! ### Fields -/

lemma tokens?_body_blanks {b : List Char} (hb : b = [] ∨ isBody b = true)
    (hw : ∀ c ∈ w, isBlank c = true) :
    tokens? (b ++ w) = if w.all isLayout then tokens? b else none := by
  rcases hb with rfl | hb
  · have hblanks := tokens?_blanks hw []
    rwa [List.append_nil] at hblanks
  · obtain ⟨r, rfl, hclose⟩ := exists_cons_of_isBody hb
    have hopen (u : List Char) : lexeme? ('{' :: u) = some (.token (.mark '{'), u) := rfl
    rw [List.cons_append, tokens?_of_lexeme? (hopen _), tokens?_closes_blanks hclose hw,
      tokens?_of_lexeme? (hopen r)]
    split <;> rfl

/-- A field has the tokens of its name and of its body, unless a blank around them is no layout. -/
theorem tokens?_of_valid {p : FieldParts} (h : p.Valid) :
    tokens? p.text = if p.blanks.all isLayout then
      (tokens? p.body).map (.name p.name :: ·) else none := by
  have hblank := h.blank
  simp only [FieldParts.blanks, List.mem_append] at hblank
  have htrail := tokens?_body_blanks h.body fun c hc => hblank c (.inr (.inr hc))
  have hgap := tokens?_blanks (fun c hc => hblank c (.inr (.inl hc))) (p.body ++ p.trail)
  have hname := tokens?_of_yields
    (yields_of_token? (token?_name (isStrictName_iff.2 h.named) h.stops_behind_name))
  have hlead := tokens?_blanks (fun c hc => hblank c (.inl hc))
    (p.name ++ (p.gap ++ (p.body ++ p.trail)))
  rw [FieldParts.text, hlead, hname, hgap, htrail, FieldParts.blanks, List.all_append,
    List.all_append]
  cases p.lead.all isLayout <;> cases p.gap.all isLayout <;> cases p.trail.all isLayout <;> rfl

end VectorQuery.GraphQL
