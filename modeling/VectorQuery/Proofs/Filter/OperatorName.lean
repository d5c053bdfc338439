import VectorQuery.Filter.OperatorSymbol
import VectorQuery.Proofs.GraphQL.InputValue

/-! Names of operators outside the table. Camel case takes every lower case letter away from the front of a
name, so the name is never one of the words that are literals. -/
namespace VectorQuery.Text

/-- What upper case consists of: no lower case letter of ASCII, and no line feed. -/
def isRaised (d : Char) : Bool := !d.isLower && d != '\n'

lemma isRaised_ofNat {n : Nat} (h : 0x80 ≤ n) : isRaised (Char.ofNat n) = true := by
  by_cases hv : n.isValidChar
  · have hn : (Char.ofNat n).toNat = n := by
      rw [Char.ofNat, dif_pos hv]
      rfl
    have hlower : (Char.ofNat n).isLower = false := by
      rw [Bool.eq_false_iff]
      intro hl
      have hle : (Char.ofNat n).toNat ≤ 122 := by
        unfold Char.isLower at hl
        rw [Bool.and_eq_true, decide_eq_true_eq, decide_eq_true_eq] at hl
        exact UInt32.le_iff_toNat_le.1 hl.2
      omega
    have hne : Char.ofNat n ≠ '\n' := by
      intro he
      have : n = 10 := by rw [← hn, he]; rfl
      omega
    simp [isRaised, hlower, hne]
  · have hz : Char.ofNat n = Char.ofNat 0 := by
      rw [Char.ofNat, dif_neg hv]
      rfl
    rw [hz]
    decide

/-- An entry of the table of runs leads from beyond ASCII to beyond ASCII, or to one letter in upper case. -/
lemma image_of_mem_upperRuns {first last step image : Nat}
    (h : (first, last, step, image) ∈ upperRuns) :
    first < 0x80 ∧ last < 0x80 ∨ 0x80 ≤ image ∨ first = last ∧ isRaised (Char.ofNat image) = true := by
  have hall : ∀ e ∈ upperRuns, e.1 < 0x80 ∧ e.2.1 < 0x80 ∨ 0x80 ≤ e.2.2.2 ∨
      e.1 = e.2.1 ∧ isRaised (Char.ofNat e.2.2.2) = true := by decide +kernel
  exact hall _ h

lemma isRaised_of_mem_upperExpansions {n : Nat} {image : List Nat}
    (h : (n, image) ∈ upperExpansions) :
    image ≠ [] ∧ ∀ k ∈ image, isRaised (Char.ofNat k) = true := by
  have hall : ∀ e ∈ upperExpansions, e.2 ≠ [] ∧ ∀ k ∈ e.2, isRaised (Char.ofNat k) = true := by
    decide +kernel
  exact hall _ h

lemma isRaised_toUpper {c : Char} (h : c.toNat < 0x80) (hc : c ≠ '\n') :
    isRaised c.toUpper = true := by
  have hall : ∀ n < 0x80, Char.ofNat n ≠ '\n' → isRaised (Char.ofNat n).toUpper = true := by
    decide +kernel
  simpa [Char.ofNat_toNat] using hall c.toNat h (by simpa [Char.ofNat_toNat] using hc)

/-- Upper case is never empty, and free of lower case letters and of line feeds. -/
theorem isRaised_upperChar {c : Char} (hc : c ≠ '\n') :
    upperChar c ≠ [] ∧ ∀ d ∈ upperChar c, isRaised d = true := by
  rw [upperChar]
  -- letters of ASCII, then the letters whose upper case is longer, then the runs of the table
  split
  · rename_i hascii
    exact ⟨by simp, by simpa using isRaised_toUpper hascii hc⟩
  rename_i hascii
  have hbeyond : 0x80 ≤ c.toNat := Nat.le_of_not_lt hascii
  split
  · rename_i m image hfind
    obtain ⟨hne, hall⟩ := isRaised_of_mem_upperExpansions (List.mem_of_find?_eq_some hfind)
    exact ⟨by simpa using hne, by simpa using hall⟩
  split
  · rename_i first last step image hfind
    refine ⟨by simp, ?_⟩
    have hin := List.find?_some hfind
    simp only [Bool.and_eq_true, decide_eq_true_eq] at hin
    have hraised : isRaised (Char.ofNat (image + (c.toNat - first))) = true := by
      rcases image_of_mem_upperRuns (List.mem_of_find?_eq_some hfind) with h | h | ⟨he, h⟩
      · omega
      · exact isRaised_ofNat (by omega)
      · have hzero : c.toNat - first = 0 := by omega
        rwa [hzero, Nat.add_zero]
    simpa using hraised
  · refine ⟨by simp, ?_⟩
    have hraised := isRaised_ofNat hbeyond
    rw [Char.ofNat_toNat] at hraised
    simpa using hraised

lemma mem_of_mem_splitOn {sep c : Char} {p s : List Char} (hp : p ∈ splitOn sep s) (hc : c ∈ p) :
    c ∈ s := by
  induction s generalizing p with
  | nil =>
    rw [splitOn, List.mem_singleton] at hp
    rwa [hp] at hc
  | cons d r ih =>
    rw [splitOn] at hp
    split at hp
    · rcases List.mem_cons.1 hp with rfl | hp
      · cases hc
      · exact List.mem_cons_of_mem d (ih hp hc)
    split at hp
    · rename_i hnil
      exact absurd hnil (splitOn_ne_nil sep r)
    · rename_i q qs hq
      rcases List.mem_cons.1 hp with rfl | hp
      · rcases List.mem_cons.1 hc with rfl | hc
        · exact List.mem_cons_self
        · exact List.mem_cons_of_mem d (ih (hq ▸ List.mem_cons_self) hc)
      · exact List.mem_cons_of_mem d (ih (hq ▸ List.mem_cons_of_mem q hp) hc)

end VectorQuery.Text

namespace VectorQuery
open GraphQL Text

lemma newline_not_mem_camelize {s : List Char} (h : '\n' ∉ s) : '\n' ∉ camelize s := by
  intro hmem
  obtain ⟨p, hp, hcap⟩ := List.mem_flatMap.1 hmem
  cases p with
  | nil => cases hcap
  | cons c r =>
    have hc : c ≠ '\n' := fun he => h (mem_of_mem_splitOn hp (he ▸ List.mem_cons_self))
    rcases List.mem_append.1 hcap with hup | hr
    · exact absurd ((isRaised_upperChar hc).2 _ hup) (by decide)
    · exact h (mem_of_mem_splitOn hp (List.mem_cons_of_mem c hr))

lemma isRaised_head?_flatMap_capitalize (ps : List (List Char)) (h : ∀ p ∈ ps, '\n' ∉ p) :
    ∀ d ∈ (ps.flatMap capitalize).head?, isRaised d = true := by
  induction ps with
  | nil => simp
  | cons p ps ih =>
    intro d hd
    cases p with
    | nil => exact ih (fun q hq => h q (List.mem_cons_of_mem _ hq)) d hd
    | cons c r =>
      have hc : c ≠ '\n' := fun he => h (c :: r) (by simp) (he ▸ List.mem_cons_self)
      obtain ⟨hne, hraised⟩ := isRaised_upperChar hc
      obtain ⟨e, u, hu⟩ := List.exists_cons_of_ne_nil hne
      have hhead : e = d := by simpa [capitalize, hu] using hd
      rw [← hhead]
      exact hraised e (by simp [hu])

/-- An operator outside the table is written as an enum value. -/
theorem isStrictName_camelText {s : String} (h : isName (camelize s.toList) = true)
    (hn : '\n' ∉ s.toList) : isStrictName (camelText s).toList = true ∧
      isLiteralName (camelText s).toList = false := by
  rw [camelText, String.toList_ofList]
  refine ⟨isStrictName_of_isName h (newline_not_mem_camelize hn), ?_⟩
  have hhead := isRaised_head?_flatMap_capitalize (splitOn '_' s.toList)
    fun p hp hm => hn (mem_of_mem_splitOn hp hm)
  rw [Bool.eq_false_iff]
  intro hliteral
  have hmem : camelize s.toList ∈ ["null".toList, "true".toList, "false".toList] := by
    simpa [isLiteralName] using hliteral
  have hlower : ∀ w ∈ ["null".toList, "true".toList, "false".toList],
      w.head?.map isRaised = some false := by decide
  obtain ⟨d, hd, hraised⟩ := Option.map_eq_some_iff.1 (hlower _ hmem)
  rw [hhead d hd] at hraised
  cases hraised

end VectorQuery
