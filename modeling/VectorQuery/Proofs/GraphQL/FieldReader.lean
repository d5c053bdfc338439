import VectorQuery.Proofs.GraphQL.Faithful

/-! Reading fields back: a name, arguments in parentheses, and a selection of further fields in braces. A
selection in braces holds one field at least. Main statements: the tokens of a field are read as the field,
and a text with the tokens of a selection is read as a document. -/
namespace VectorQuery.GraphQL
open TokenSource

/-- A field with the arguments and the fields that it is asked for with. -/
inductive Field
  | node (name : String) (arguments : Arguments) (fields : List Field)

namespace Field

/-- A field without arguments and without fields of its own. -/
def leaf (name : String) : Field := node name [] []

/-- The fields that a field has of its own. -/
def fields : Field → List Field
  | node _ _ fields => fields

/-- Fields in braces; there are no braces without fields. -/
def braced (inner : List Token) : List Token :=
  if inner.isEmpty then [] else .mark '{' :: (inner ++ [.mark '}'])

mutual

/-- The tokens of a field. -/
def tokens : Field → List Token
  | node name arguments fields =>
    .name name.toList :: (argumentsTokens arguments ++ braced (tokensAll fields))

def tokensAll : List Field → List Token
  | [] => []
  | f :: r => tokens f ++ tokensAll r

end

mutual

/-- Whether a field can be read back: its names are names, and so are those of its arguments. -/
def isLegible : Field → Bool
  | node name arguments fields =>
    isStrictName name.toList && Value.fieldsLegible arguments && areLegible fields

def areLegible : List Field → Bool
  | [] => true
  | f :: r => isLegible f && areLegible r

end

mutual

/-- A field as it is read: block strings are strings. -/
def asRead : Field → Field
  | node name arguments fields => node name (Value.fieldsAsRead arguments) (asReadAll fields)

def asReadAll : List Field → List Field
  | [] => []
  | f :: r => asRead f :: asReadAll r

end

lemma tokens_ne_nil (f : Field) : f.tokens ≠ [] := by
  cases f
  exact List.cons_ne_nil _ _

lemma braced_tokensAll {fs : List Field} (h : fs ≠ []) :
    braced (tokensAll fs) = .mark '{' :: (tokensAll fs ++ [.mark '}']) := by
  obtain ⟨f, r, rfl⟩ := List.exists_cons_of_ne_nil h
  have hne : ¬(tokensAll (f :: r)).isEmpty = true := by
    rw [tokensAll, List.isEmpty_iff]
    exact fun hnil => f.tokens_ne_nil (List.append_eq_nil_iff.1 hnil).1
  rw [braced, if_neg hne]

lemma tokens_node {name : String} {arguments : Arguments} {fs : List Field} (h : fs ≠ []) :
    (node name arguments fs).tokens = .name name.toList ::
      (argumentsTokens arguments ++ .mark '{' :: (tokensAll fs ++ [.mark '}'])) := by
  rw [tokens, braced_tokensAll h]

mutual

/-- A field closes the braces it opens. -/
theorem nested_tokens : ∀ f : Field, Nested f.tokens
  | node name arguments fields => by
    rw [tokens, braced]
    refine (nested_name _).append ((nested_argumentsTokens arguments).append ?_)
    split
    · exact nested_nil
    · exact (nested_tokensAll fields).braces

theorem nested_tokensAll : ∀ fs : List Field, Nested (tokensAll fs)
  | [] => nested_nil
  | f :: r => (nested_tokens f).append (nested_tokensAll r)

end

/-- A field that is read back as itself. -/
structure IsFaithful (f : Field) : Prop where
  legible : f.isLegible = true
  same : f.asRead = f

lemma all_faithful {fs : List Field} (h : ∀ f ∈ fs, f.IsFaithful) :
    areLegible fs = true ∧ asReadAll fs = fs := by
  induction fs with
  | nil => exact ⟨rfl, rfl⟩
  | cons f r ih =>
    obtain ⟨hlegible, hsame⟩ := ih fun g hg => h g (by simp [hg])
    have hf := h f (by simp)
    exact ⟨by rw [areLegible, hf.legible, hlegible]; rfl, by rw [asReadAll, hf.same, hsame]⟩

lemma isFaithful_node {name : String} {arguments : Arguments} {fields : List Field}
    (hn : isStrictName name.toList = true) (ha : ∀ a ∈ arguments, IsFaithfulField a)
    (hf : ∀ f ∈ fields, f.IsFaithful) : (node name arguments fields).IsFaithful := by
  obtain ⟨halegible, hasame⟩ := Value.fieldsLegible_of_faithful ha
  obtain ⟨hflegible, hfsame⟩ := all_faithful hf
  exact ⟨by rw [isLegible, hn, halegible, hflegible]; rfl, by rw [asRead, hasame, hfsame]⟩

lemma isFaithful_leaf {name : String} (hn : isStrictName name.toList = true) :
    (leaf name).IsFaithful := isFaithful_node hn (by simp) (by simp)

end Field

/-! ### Fields on one line -/

/-- A field whose own fields stand on its line, without arguments and bodies. -/
def inlineChars (name : String) (arguments : Arguments) (leaves : List String) : List Char :=
  name.toList ++ argumentsChars arguments ++
    ' ' :: '{' :: (leaves.flatMap (fun w => ' ' :: w.toList) ++ [' ', '}'])

namespace Field

/-- The field that such a line writes. -/
def inline (name : String) (arguments : Arguments) (leaves : List String) : Field :=
  node name arguments (leaves.map leaf)

lemma tokens_leaf (name : String) : (leaf name).tokens = [.name name.toList] := rfl

lemma yields_leaves {leaves : List String} (h : ∀ w ∈ leaves, isStrictName w.toList = true) :
    Yields (leaves.flatMap (fun w => ' ' :: w.toList) ++ [' ', '}'])
      (tokensAll (leaves.map leaf) ++ [.mark '}']) [] := by
  induction leaves with
  | nil => exact yields_end
  | cons w r ih =>
    obtain ⟨hw, hr⟩ := List.forall_mem_cons.1 h
    -- a blank follows: that of the next leaf, or that of the brace
    have hnext : Delimited (r.flatMap (fun w => ' ' :: w.toList) ++ [' ', '}']) := by
      cases r with
      | nil => exact delimited_cons (by decide) _
      | cons _ _ => exact delimited_cons (by decide) _
    have hword := (yields_word hw hnext).append (ih hr)
    simpa [tokensAll, tokens_leaf] using hword

/-- The line of a field gives its tokens, and nothing is left. -/
theorem yields_inlineChars {name : String} {arguments : Arguments} {leaves : List String}
    (hn : isStrictName name.toList = true) (ha : Value.fieldsLegible arguments = true)
    (hl : ∀ w ∈ leaves, isStrictName w.toList = true) (hne : leaves ≠ []) :
    Yields (inlineChars name arguments leaves) (inline name arguments leaves).tokens [] := by
  have hbody := (yields_header hn ha _).append (yields_leaves hl)
  rw [inlineChars, inline, tokens_node (by simpa using hne)]
  simpa using hbody

lemma tokens?_inlineChars {name : String} {arguments : Arguments} {leaves : List String}
    (hn : isStrictName name.toList = true) (ha : Value.fieldsLegible arguments = true)
    (hl : ∀ w ∈ leaves, isStrictName w.toList = true) (hne : leaves ≠ []) :
    tokens? (inlineChars name arguments leaves) = some (inline name arguments leaves).tokens := by
  rw [tokens?_of_yields (yields_inlineChars hn ha hl hne), tokens?_nil, Option.map_some,
    List.append_nil]

end Field

/-! ### The reader -/

variable {σ : Type} [TokenSource σ]

/-- Arguments in parentheses, if there are some. -/
def readOptionalArguments (s : σ) : Option (Arguments × σ) :=
  match next? s with
  | some (.mark '(', _) => readArguments s
  | _ => some ([], s)

mutual

/-- The field in front of a source, and the rest. -/
def readField (s : σ) : Option (Field × σ) :=
  match next? s with
  | some (.name name, r) =>
    match readOptionalArguments r with
    | none => none
    | some (arguments, q) =>
      match next? q with
      | some (.mark '{', u) =>
        -- reading takes tokens away, so this holds of every source
        if _h : size u < size s then
          (readSelection u).map fun (fs, w) => (.node (String.ofList name) arguments fs, w)
        else none
      | _ => some (.node (String.ofList name) arguments [], q)
  | _ => none
termination_by (size s, 0)
decreasing_by exact Prod.Lex.left _ _ _h

/-- Fields up to the closing brace, one at least. -/
def readSelection (s : σ) : Option (List Field × σ) :=
  match readField s with
  | none => none
  | some (f, q) =>
    match next? q with
    | some (.mark '}', r) => some ([f], r)
    | _ =>
      if _h : size q < size s then (readSelection q).map fun (fs, r) => (f :: fs, r) else none
termination_by (size s, 1)
decreasing_by
  · exact Prod.Lex.right _ Nat.one_pos
  · exact Prod.Lex.left _ _ _h

end

/-- The fields of a document, which is one selection in braces and nothing else. -/
def readDocument? (s : List Char) : Option (List Field) := do
  match ← tokens? s with
  | .mark '{' :: ts =>
    match readSelection ts with
    | some (fs, []) => some fs
    | _ => none
  | _ => none

/-! ### From tokens to fields -/

/-- What comes next is no part of a field before it. -/
def Ends (s : σ) : Prop := ∀ t q, next? s = some (t, q) → t ≠ .mark '(' ∧ t ≠ .mark '{'

lemma ends_of_next? {s q : σ} {t : Token} (h : next? s = some (t, q)) (ho : t ≠ .mark '(')
    (hb : t ≠ .mark '{') : Ends s := by
  intro u r hu
  obtain ⟨rfl, -⟩ := Prod.mk.inj (Option.some.inj (h.symm.trans hu))
  exact ⟨ho, hb⟩

lemma ends_nil : Ends ([] : List Char) := by
  intro t q h
  have hnone : nextToken? [] = none := by
    rw [nextToken?]
    rfl
  change nextToken? [] = some (t, q) at h
  rw [hnone] at h
  cases h

/-- Arguments that are there are read, and where there are none nothing is taken. -/
lemma readOptionalArguments_of_yields {arguments : Arguments} {s r : σ}
    (hl : Value.fieldsLegible arguments = true) (h : Yields s (argumentsTokens arguments) r)
    (hr : arguments = [] → ∀ t q, next? r = some (t, q) → t ≠ .mark '(') :
    readOptionalArguments s = some (Value.fieldsAsRead arguments, r) := by
  cases arguments with
  | nil =>
    obtain rfl : s = r := h
    unfold readOptionalArguments
    split
    · rename_i q hq
      exact absurd rfl (hr rfl _ _ hq)
    · rfl
  | cons a as =>
    obtain ⟨q, hq, hrest⟩ := h
    have hread := readFields_of_yields (a :: as) hl hrest
    rw [readOptionalArguments, hq]
    exact readArguments_of_readFields hq hread

lemma readField_of_body {s r q u w : σ} {name : List Char} {arguments : Arguments}
    {fs : List Field} (hn : next? s = some (.name name, r))
    (ha : readOptionalArguments r = some (arguments, q)) (hb : next? q = some (.mark '{', u))
    (hs : readSelection u = some (fs, w)) (hu : size u < size s) :
    readField s = some (.node (String.ofList name) arguments fs, w) := by
  rw [readField, hn]
  simp only [ha, hb, dif_pos hu, hs]
  rfl

lemma readField_of_ends {s r q : σ} {name : List Char} {arguments : Arguments}
    (hn : next? s = some (.name name, r)) (ha : readOptionalArguments r = some (arguments, q))
    (hq : ∀ t u, next? q = some (t, u) → t ≠ .mark '{') :
    readField s = some (.node (String.ofList name) arguments [], q) := by
  rw [readField, hn]
  simp only [ha]
  split
  · rename_i u hu
    exact absurd rfl (hq _ _ hu)
  · rfl

lemma readSelection_last {s q r : σ} {f : Field} (hf : readField s = some (f, q))
    (hq : next? q = some (.mark '}', r)) : readSelection s = some ([f], r) := by
  rw [readSelection, hf]
  simp only [hq]

lemma readSelection_cons {s q r : σ} {f : Field} {fs : List Field}
    (hf : readField s = some (f, q)) (hq : ∀ t u, next? q = some (t, u) → t ≠ .mark '}')
    (hlt : size q < size s) (hfs : readSelection q = some (fs, r)) :
    readSelection s = some (f :: fs, r) := by
  rw [readSelection, hf]
  simp only [dif_pos hlt, hfs]
  split
  · rename_i u hu
    exact absurd rfl (hq _ _ hu)
  · rfl

mutual

/-- A source that gives the tokens of a field is read as the field. -/
theorem readField_of_yields : ∀ (f : Field) {s r : σ}, f.isLegible = true →
    Yields s f.tokens r → Ends r → readField s = some (f.asRead, r)
  | .node name arguments [], s, r, hl, h, hr => by
    simp only [Field.isLegible, Bool.and_eq_true] at hl
    obtain ⟨q, hq, hrest⟩ := h
    have harguments : Yields q (argumentsTokens arguments) r := by
      simpa [Field.tokensAll, Field.braced] using hrest
    have hread := readOptionalArguments_of_yields hl.1.2 harguments fun _ t u hu => (hr t u hu).1
    have hfield := readField_of_ends hq hread fun t u hu => (hr t u hu).2
    rw [hfield, String.ofList_toList]
    rfl
  | .node name arguments (f :: fs), s, r, hl, h, _ => by
    simp only [Field.isLegible, Bool.and_eq_true] at hl
    obtain ⟨q, hq, hrest⟩ := h
    rw [Field.braced_tokensAll (List.cons_ne_nil f fs)] at hrest
    obtain ⟨u, harguments, w, hw, hbody⟩ := hrest.split
    have hread := readOptionalArguments_of_yields hl.1.2 harguments fun _ t v hv => by
      obtain ⟨rfl, -⟩ := Prod.mk.inj (Option.some.inj (hw.symm.trans hv))
      simp
    have hlt : size w < size s := Nat.lt_trans (size_lt hw)
      (Nat.lt_of_le_of_lt harguments.size_le (size_lt hq))
    have hselection := readSelection_of_yields (f :: fs) (List.cons_ne_nil f fs) hl.2 hbody
    have hfield := readField_of_body hq hread hw hselection hlt
    rw [hfield, String.ofList_toList]
    rfl

theorem readSelection_of_yields : ∀ (fs : List Field) {s r : σ}, fs ≠ [] →
    Field.areLegible fs = true → Yields s (Field.tokensAll fs ++ [.mark '}']) r →
      readSelection s = some (Field.asReadAll fs, r)
  | [], _, _, hne, _, _ => absurd rfl hne
  | [f], s, r, _, hl, h => by
    simp only [Field.areLegible, Bool.and_eq_true] at hl
    simp only [Field.tokensAll, List.append_nil] at h
    obtain ⟨q, hfield, u, hu, rfl⟩ := h.split
    have hends : Ends q := ends_of_next? hu (by simp) (by simp)
    exact readSelection_last (readField_of_yields f hl.1 hfield hends) hu
  | f :: g :: fs, s, r, _, hl, h => by
    rw [Field.areLegible, Bool.and_eq_true] at hl
    rw [Field.tokensAll, List.append_assoc] at h
    obtain ⟨q, hfield, hrest⟩ := h.split
    have hlt := hfield.size_lt f.tokens_ne_nil
    have hnext : ∃ w u, next? q = some (.name w, u) := by
      obtain ⟨name, arguments, below⟩ := g
      obtain ⟨u, hu, -⟩ := hrest
      exact ⟨_, u, hu⟩
    obtain ⟨w, u, hu⟩ := hnext
    have hends : Ends q := ends_of_next? hu (by simp) (by simp)
    refine readSelection_cons (readField_of_yields f hl.1 hfield hends) (fun t v hv => ?_) hlt
      (readSelection_of_yields (g :: fs) (List.cons_ne_nil g fs) hl.2 hrest)
    obtain ⟨rfl, -⟩ := Prod.mk.inj (Option.some.inj (hu.symm.trans hv))
    simp

end

/-- A text with the tokens of fields in braces is read as these fields. -/
theorem readDocument?_of_tokens? {s : List Char} {fs : List Field} (hne : fs ≠ [])
    (hl : Field.areLegible fs = true)
    (h : tokens? s = some (.mark '{' :: (Field.tokensAll fs ++ [.mark '}']))) :
    readDocument? s = some (Field.asReadAll fs) := by
  have hyields := yields_tokens (Field.tokensAll fs ++ [.mark '}']) []
  rw [List.append_nil] at hyields
  rw [readDocument?, h]
  simp only [Option.bind_eq_bind, Option.bind_some, readSelection_of_yields fs hne hl hyields]

end VectorQuery.GraphQL
