import VectorQuery.Proofs.GraphQL.Names
import VectorQuery.Proofs.GraphQL.SelectionScanner

/-! The parts of a field as a caller writes it: a name, a body or none, and blanks around them. Every text is
the sequence of its parts; it is accepted exactly when the name is one of the grammar and the body is one. -/
namespace VectorQuery.GraphQL
open VectorQuery.Text

structure FieldParts where
  lead : List Char
  name : List Char
  gap : List Char
  body : List Char
  trail : List Char

namespace FieldParts

/-- The whole text. -/
def text (p : FieldParts) : List Char := p.lead ++ (p.name ++ (p.gap ++ (p.body ++ p.trail)))

/-- What stands around the name and the body. -/
def blanks (p : FieldParts) : List Char := p.lead ++ (p.gap ++ p.trail)

end FieldParts

/-- The parts of a text. -/
def partsOf (s : List Char) : FieldParts :=
  let front := trimLeft s
  let rest := front.dropWhile isNameChar
  let behind := trimLeft rest
  ⟨s.takeWhile isBlank, front.takeWhile isNameChar, rest.takeWhile isBlank, trimRight behind,
    (behind.reverse.takeWhile isBlank).reverse⟩

lemma trimRight_append_takeWhile (s : List Char) :
    trimRight s ++ (s.reverse.takeWhile isBlank).reverse = s := by
  rw [trimRight, ← List.reverse_append, List.takeWhile_append_dropWhile, List.reverse_reverse]

lemma trimRight_append_blanks {w : List Char} (hw : ∀ c ∈ w, isBlank c = true) (s : List Char) :
    trimRight (s ++ w) = trimRight s := by
  rw [trimRight, trimRight, List.reverse_append,
    List.dropWhile_append_of_pos fun c hc => hw c (List.mem_reverse.1 hc)]

/-- The parts of a text are all of it. -/
theorem text_partsOf (s : List Char) : (partsOf s).text = s := by
  have hleft (u : List Char) : u.takeWhile isBlank ++ trimLeft u = u :=
    List.takeWhile_append_dropWhile
  simp only [partsOf, FieldParts.text, trimRight_append_takeWhile]
  rw [hleft, List.takeWhile_append_dropWhile, hleft]

lemma isBlank_of_mem_blanks {s : List Char} {c : Char} (h : c ∈ (partsOf s).blanks) :
    isBlank c = true := by
  simp only [partsOf, FieldParts.blanks, List.mem_append, List.mem_reverse] at h
  rcases h with h | h | h <;> exact mem_takeWhile c h

lemma isStrictName_takeWhile (c : Char) (u : List Char) :
    isStrictName ((c :: u).takeWhile isNameChar) = isNameStart c := by
  cases hc : isNameStart c with
  | true =>
    have hchar : isNameChar c = true := isNameChar_of_isNameStart hc
    rw [List.takeWhile_cons_of_pos hchar, isStrictName, hc, List.all_takeWhile, Bool.true_and]
  | false =>
    rw [List.takeWhile_cons]
    split
    · rw [isStrictName, hc, Bool.false_and]
    · rfl

lemma isSelection_eq_parts (s : List Char) : isSelection s =
    (isStrictName (partsOf s).name && ((partsOf s).body.isEmpty || isBody (partsOf s).body)) := by
  simp only [isSelection, partsOf, trim]
  cases hfront : trimLeft s with
  | nil => rfl
  | cons c u =>
    have hblank : isBlank c = false := by
      have hhead := List.head?_dropWhile_not isBlank s
      rw [← trimLeft, hfront] at hhead
      simpa using hhead
    rw [trimRight_cons_of_not_isBlank hblank]
    by_cases hc : isNameStart c = true
    · -- the name ends before the blanks that are cut off behind it
      have hword : ∀ d ∈ (u.takeWhile isNameChar).getLast?, isBlank d = false := fun d hd =>
        not_isBlank_of_isWordChar
          (by simp [isWordChar, mem_takeWhile d (List.mem_of_mem_getLast? hd)])
      have htrim : trimRight u = u.takeWhile isNameChar ++ trimRight (u.dropWhile isNameChar) := by
        rw [← trimRight_append_of_not_isBlank hword, List.takeWhile_append_dropWhile]
      have hstop : Stops isNameChar (trimRight (u.dropWhile isNameChar)) := fun d hd =>
        stops_dropWhile isNameChar u d (head?_trimRight hd)
      have hname : leadingName (c :: trimRight u) = c :: u.takeWhile isNameChar := by
        rw [leadingName, if_pos hc, htrim, takeWhile_append_stops mem_takeWhile hstop]
      have hchar : isNameChar c = true := isNameChar_of_isNameStart hc
      rw [isStrictName_takeWhile, hc]
      simp only [hname, List.length_cons, List.drop_succ_cons, List.dropWhile_cons_of_pos hchar]
      rw [htrim, List.drop_left, trimLeft_trimRight]
      rfl
    · have hname : leadingName (c :: trimRight u) = [] := by rw [leadingName, if_neg hc]
      rw [isStrictName_takeWhile, Bool.eq_false_iff.2 hc]
      simp only [hname]
      rfl

/-- A text is accepted by its name and its body. -/
lemma isSelection_iff_parts {s : List Char} : isSelection s = true ↔
    isStrictName (partsOf s).name = true ∧
      ((partsOf s).body = [] ∨ isBody (partsOf s).body = true) := by
  rw [isSelection_eq_parts, Bool.and_eq_true, Bool.or_eq_true, List.isEmpty_iff]

/-! ### Parts that make up a field -/

namespace FieldParts

/-- A name of the grammar and at most one body, with blanks around them. -/
structure Valid (p : FieldParts) : Prop where
  named : IsGrammarName p.name
  body : p.body = [] ∨ isBody p.body = true
  blank : ∀ c ∈ p.blanks, isBlank c = true

end FieldParts

lemma getLast?_of_suffix {s r : List Char} {c : Char} (h : r <:+ s) (hr : r.getLast? = some c) :
    s.getLast? = some c := by
  obtain ⟨w, rfl⟩ := h
  rw [List.getLast?_append, hr]
  rfl

lemma suffix_of_afterString? {s r : List Char} (h : afterString? s = some r) : r <:+ s := by
  fun_induction afterString? s with
  | case1 => cases h
  | case2 s =>
    cases h
    exact List.suffix_cons _ _
  | case3 => cases h
  | case4 c s ih => exact ((ih h).trans (List.suffix_cons _ _)).trans (List.suffix_cons _ _)
  | case5 c s _ _ _ ih => exact (ih h).trans (List.suffix_cons _ _)

/-- What closes its braces ends with one. -/
lemma getLast?_of_closes {s : List Char} {d : Nat} (h : closes s d = true) :
    s.getLast? = some '}' := by
  have hcons {s r : List Char} (c : Char) (hs : r <:+ s) (hr : r.getLast? = some '}') :
      (c :: s).getLast? = some '}' := getLast?_of_suffix (hs.trans (List.suffix_cons c s)) hr
  fun_induction closes s d with
  | case1 => cases h
  | case2 => cases h
  | case3 d r k _ ih =>
    have hdrop : r.drop (k + 3) <:+ '"' :: '"' :: r :=
      ((List.drop_suffix _ r).trans (List.suffix_cons _ r)).trans (List.suffix_cons _ _)
    exact hcons '"' hdrop (ih h)
  | case4 => cases h
  | case5 d r _ r' hr ih => exact hcons '"' (suffix_of_afterString? hr) (ih h)
  | case6 => cases h
  | case7 d r ih => exact hcons '{' List.suffix_rfl (ih h)
  | case8 d r _ => rw [List.isEmpty_iff.1 h]; rfl
  | case9 d r _ ih => exact hcons '}' List.suffix_rfl (ih h)
  | case10 d c r _ _ _ _ _ ih => exact hcons c List.suffix_rfl (ih h)

lemma exists_cons_of_isBody {b : List Char} (h : isBody b = true) :
    ∃ r, b = '{' :: r ∧ closes r 1 = true := by
  unfold isBody at h
  split at h
  · exact ⟨_, rfl, h⟩
  · cases h

/-- A text that closes its braces has no blank at its end. -/
lemma trimRight_of_closes {s : List Char} {d : Nat} (h : closes s d = true) : trimRight s = s := by
  refine trimRight_of_not_isBlank ?_
  rw [getLast?_of_closes h]
  rintro c ⟨⟩
  rfl

namespace FieldParts

variable {p : FieldParts}

lemma valid_partsOf {s : List Char} (h : isSelection s = true) : (partsOf s).Valid := by
  obtain ⟨hname, hbody⟩ := isSelection_iff_parts.1 h
  exact ⟨isStrictName_iff.1 hname, hbody, fun c hc => isBlank_of_mem_blanks hc⟩

lemma Valid.stops_behind_name (h : p.Valid) : Stops isNameChar (p.gap ++ (p.body ++ p.trail)) := by
  have hblank {c : Char} (hc : isBlank c = true) : isNameChar c = false := by
    rw [Bool.eq_false_iff]
    intro hchar
    rw [not_isBlank_of_isWordChar (by simp [isWordChar, hchar])] at hc
    cases hc
  have hblanks := h.blank
  simp only [blanks, List.mem_append] at hblanks
  intro c hc
  rw [List.head?_append, List.head?_append, Option.mem_def, Option.or_eq_some_iff,
    Option.or_eq_some_iff] at hc
  rcases hc with hc | ⟨-, hc | ⟨-, hc⟩⟩
  · exact hblank (hblanks c (.inr (.inl (List.mem_of_mem_head? hc))))
  · rcases h.body with hb | hb
    · rw [hb] at hc
      cases hc
    · obtain ⟨r, hr, -⟩ := exists_cons_of_isBody hb
      rw [hr] at hc
      obtain rfl := Option.some.inj hc
      rfl
  · exact hblank (hblanks c (.inr (.inr (List.mem_of_mem_head? hc))))

/-- There is one way only to take a field apart into its name and its body. -/
theorem partsOf_text (h : p.Valid) :
    (partsOf p.text).name = p.name ∧ (partsOf p.text).body = p.body := by
  have hblanks := h.blank
  simp only [blanks, List.mem_append] at hblanks
  have hlead : ∀ c ∈ p.lead, isBlank c = true := fun c hc => hblanks c (.inl hc)
  have hgap : ∀ c ∈ p.gap, isBlank c = true := fun c hc => hblanks c (.inr (.inl hc))
  have htrail : ∀ c ∈ p.trail, isBlank c = true := fun c hc => hblanks c (.inr (.inr hc))
  have hchar : ∀ c ∈ p.name, isNameChar c = true := fun c hc => isNameChar_iff.2 (h.named.each c hc)
  have hstop : Stops isBlank (p.name ++ (p.gap ++ (p.body ++ p.trail))) := by
    obtain ⟨c, hc, -⟩ := h.named.first
    intro d hd
    rw [List.head?_append, Option.mem_def.1 hc] at hd
    obtain rfl := Option.some.inj hd
    exact not_isBlank_of_isWordChar (by simp [isWordChar, hchar c (List.mem_of_mem_head? hc)])
  have hfront : trimLeft p.text = p.name ++ (p.gap ++ (p.body ++ p.trail)) :=
    dropWhile_append_stops hlead hstop
  have hbehind : (trimLeft p.text).dropWhile isNameChar = p.gap ++ (p.body ++ p.trail) := by
    rw [hfront, dropWhile_append_stops hchar h.stops_behind_name]
  constructor
  · change (trimLeft p.text).takeWhile isNameChar = p.name
    rw [hfront, takeWhile_append_stops hchar h.stops_behind_name]
  · change trimRight (trimLeft ((trimLeft p.text).dropWhile isNameChar)) = p.body
    rw [hbehind]
    rcases h.body with hb | hb
    · have hall : trimLeft (p.gap ++ p.trail) = [] := by
        have hend := dropWhile_append_stops (List.forall_mem_append.2 ⟨hgap, htrail⟩)
          (stops_nil isBlank)
        rwa [List.append_nil] at hend
      rw [hb, List.nil_append, hall]
      rfl
    · obtain ⟨r, hr, hclose⟩ := exists_cons_of_isBody hb
      have hopen : Stops isBlank (p.body ++ p.trail) := by
        rw [hr]
        rintro c ⟨⟩
        rfl
      rw [trimLeft, dropWhile_append_stops hgap hopen, trimRight_append_blanks htrail, hr,
        trimRight_cons_of_not_isBlank rfl, trimRight_of_closes hclose]

end FieldParts

/-- The texts that are accepted as fields. -/
theorem isSelection_iff_exists {s : List Char} : isSelection s = true ↔
    ∃ p : FieldParts, p.text = s ∧ p.Valid := by
  constructor
  · exact fun h => ⟨partsOf s, text_partsOf s, FieldParts.valid_partsOf h⟩
  · rintro ⟨p, rfl, hp⟩
    obtain ⟨hname, hbody⟩ := FieldParts.partsOf_text hp
    rw [isSelection_iff_parts, hname, hbody]
    exact ⟨isStrictName_iff.2 hp.named, hp.body⟩

end VectorQuery.GraphQL
