import VectorQuery.Proofs.GraphQL.DocumentTokens
import VectorQuery.Quantity

/-! Values that come back as they were. All that reading changes is that a block string turns into a string,
so a value made of plain texts, numbers and names comes back unchanged. -/
namespace VectorQuery.GraphQL

/-- A value that is read back as itself. -/
structure Value.IsFaithful (v : Value) : Prop where
  legible : v.isLegible = true
  same : v.asRead = v

/-- A name of the grammar with a value that is read back as itself. -/
structure IsFaithfulField (f : String × Value) : Prop where
  strict : isStrictName f.1.toList = true
  value : f.2.IsFaithful

lemma isFaithfulField {n : String} {v : Value} (hn : isStrictName n.toList = true)
    (hv : v.IsFaithful) : IsFaithfulField (n, v) := ⟨hn, hv⟩

namespace Value

lemma itemsLegible_of_faithful {xs : List Value} (h : ∀ x ∈ xs, x.IsFaithful) :
    itemsLegible xs = true ∧ itemsAsRead xs = xs := by
  induction xs with
  | nil => exact ⟨rfl, rfl⟩
  | cons x r ih =>
    obtain ⟨hlegible, hsame⟩ := ih fun y hy => h y (by simp [hy])
    have hx := h x (by simp)
    exact ⟨by rw [itemsLegible, hx.legible, hlegible]; rfl, by rw [itemsAsRead, hx.same, hsame]⟩

lemma fieldsLegible_of_faithful {fs : List (String × Value)} (h : ∀ f ∈ fs, IsFaithfulField f) :
    fieldsLegible fs = true ∧ fieldsAsRead fs = fs := by
  induction fs with
  | nil => exact ⟨rfl, rfl⟩
  | cons f r ih =>
    obtain ⟨hlegible, hsame⟩ := ih fun g hg => h g (by simp [hg])
    have hf := h f (by simp)
    exact ⟨by rw [fieldsLegible, hf.strict, hf.value.legible, hlegible]; rfl,
      by rw [fieldsAsRead, hf.value.same, hsame]⟩

lemma isFaithful_null : IsFaithful .null := ⟨rfl, rfl⟩

lemma isFaithful_int (i : Int) : IsFaithful (.int i) := ⟨rfl, rfl⟩

lemma isFaithful_bool (b : Bool) : IsFaithful (.bool b) := ⟨rfl, rfl⟩

lemma isFaithful_quantity (q : Quantity) : IsFaithful (.float q.toDouble) :=
  ⟨q.isFinite_toDouble, rfl⟩

lemma isFaithful_enum {s : String} (hs : isStrictName s.toList = true)
    (hl : isLiteralName s.toList = false) : IsFaithful (.enum s) :=
  ⟨by rw [isLegible, hs, hl]; rfl, rfl⟩

lemma isFaithful_list {xs : List Value} (h : ∀ x ∈ xs, x.IsFaithful) : IsFaithful (.list xs) := by
  obtain ⟨hlegible, hsame⟩ := itemsLegible_of_faithful h
  exact ⟨by rw [isLegible, hlegible], by rw [asRead, hsame]⟩

lemma isFaithful_object {fs : List (String × Value)} (h : ∀ f ∈ fs, IsFaithfulField f) :
    IsFaithful (.object fs) := by
  obtain ⟨hlegible, hsame⟩ := fieldsLegible_of_faithful h
  exact ⟨by rw [isLegible, hlegible], by rw [asRead, hsame]⟩

end Value

/-- Faithful arguments are read back from their tokens. -/
theorem readArguments_argumentsTokens {arguments : Arguments} (hne : arguments ≠ [])
    (h : ∀ f ∈ arguments, IsFaithfulField f) :
    readArguments (argumentsTokens arguments) = some (arguments, []) := by
  obtain ⟨hlegible, hsame⟩ := Value.fieldsLegible_of_faithful h
  have hread := readFields_of_yields arguments hlegible
    (yields_tokens (Value.fieldsTokens arguments ++ [.mark ')']) [])
  rw [List.append_nil, hsame] at hread
  obtain ⟨f, fs, rfl⟩ := List.exists_cons_of_ne_nil hne
  exact readArguments_of_readFields rfl hread

end VectorQuery.GraphQL
