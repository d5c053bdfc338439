import VectorQuery.Distinct
import Mathlib.Data.List.Nodup
import Mathlib.Tactic.Lemma

/-! What is left when repetitions are dropped: the same items, each once, in the order in which they occur
first. -/
namespace VectorQuery

section Lawful

variable {α : Type} [BEq α] [LawfulBEq α]

lemma distinctAfter_eq_eraseDups (seen xs : List α) :
    distinctAfter (· == ·) seen xs = (xs.removeAll seen).eraseDups := by
  induction xs generalizing seen with
  | nil => rfl
  | cons x r ih =>
    rw [distinctAfter, List.any_beq]
    by_cases hx : x ∈ seen
    · have hcontains : seen.contains x = true := List.contains_iff_mem.2 hx
      rw [if_pos hcontains, ih]
      simp [List.removeAll, hx]
    · have hcontains : ¬seen.contains x = true := fun h => hx (List.contains_iff_mem.1 h)
      rw [if_neg hcontains, ih]
      have hcons : (x :: r).removeAll seen = x :: r.removeAll seen := by simp [List.removeAll, hx]
      have hfilter : r.removeAll (x :: seen) = (r.removeAll seen).filter fun y => !y == x := by
        simp [List.removeAll, List.filter_filter]
      rw [hcons, List.eraseDups_cons, hfilter]

theorem distinct_eq_eraseDups (xs : List α) : distinct (· == ·) xs = xs.eraseDups := by
  rw [distinct, distinctAfter_eq_eraseDups]
  simp [List.removeAll]

lemma mem_distinctAfter {x : α} {seen xs : List α} :
    x ∈ distinctAfter (· == ·) seen xs ↔ x ∈ xs ∧ x ∉ seen := by
  rw [distinctAfter_eq_eraseDups, List.mem_eraseDups]
  simp [List.removeAll]

/-- Items stand in the order of their first occurrences. -/
theorem pairwise_idxOf_distinctAfter (seen xs : List α) :
    (distinctAfter (· == ·) seen xs).Pairwise fun x y => xs.idxOf x < xs.idxOf y := by
  induction xs generalizing seen with
  | nil => exact List.Pairwise.nil
  | cons x r ih =>
    -- behind the first item all positions are one more than in the rest
    have hrest (seen : List α) (hx : x ∈ seen) :
        (distinctAfter (· == ·) seen r).Pairwise fun y z =>
          (x :: r).idxOf y < (x :: r).idxOf z := by
      refine (ih seen).imp_of_mem fun hy hz hlt => ?_
      have hne {y : α} (hy : y ∈ distinctAfter (· == ·) seen r) : x ≠ y := by
        rintro rfl
        exact (mem_distinctAfter.1 hy).2 hx
      rw [List.idxOf_cons_ne _ (hne hy), List.idxOf_cons_ne _ (hne hz)]
      exact Nat.succ_lt_succ hlt
    rw [distinctAfter]
    split
    · rename_i hseen
      rw [List.any_beq] at hseen
      exact hrest seen (List.contains_iff_mem.1 hseen)
    · refine List.pairwise_cons.2 ⟨fun y hy => ?_, hrest (x :: seen) List.mem_cons_self⟩
      have hne : x ≠ y := by
        rintro rfl
        exact (mem_distinctAfter.1 hy).2 List.mem_cons_self
      rw [List.idxOf_cons_self, List.idxOf_cons_ne _ hne]
      exact Nat.succ_pos _

theorem nodup_distinctAfter (seen xs : List α) : (distinctAfter (· == ·) seen xs).Nodup := by
  refine (pairwise_idxOf_distinctAfter seen xs).imp fun hlt => ?_
  rintro rfl
  exact Nat.lt_irrefl _ hlt

end Lawful

section Same

variable {α β : Type} {same : α → α → Bool}

lemma loop_eq_distinctAfter (seen xs : List α) :
    List.eraseDupsBy.loop same xs seen = seen.reverse ++ distinctAfter same seen xs := by
  induction xs generalizing seen with
  | nil => simp [List.eraseDupsBy.loop, distinctAfter]
  | cons x r ih =>
    rw [List.eraseDupsBy.loop, distinctAfter, ih, ih]
    cases seen.any (same x) <;> simp

theorem distinct_eq_eraseDupsBy (xs : List α) : distinct same xs = xs.eraseDupsBy same := by
  rw [List.eraseDupsBy, loop_eq_distinctAfter]
  rfl

/-- Items compared by a key leave their keys, each once. -/
lemma map_distinctAfter [BEq β] {key : α → β} (hkey : ∀ x y, same x y = (key x == key y))
    (seen xs : List α) : (distinctAfter same seen xs).map key =
      distinctAfter (· == ·) (seen.map key) (xs.map key) := by
  induction xs generalizing seen with
  | nil => rfl
  | cons x r ih =>
    have hany : (seen.map key).any (key x == ·) = seen.any (same x) := by
      rw [List.any_map]
      congr 1
      funext y
      exact (hkey x y).symm
    rw [List.map_cons, distinctAfter, distinctAfter, hany]
    split
    · exact ih seen
    · rw [List.map_cons, ih (x :: seen), List.map_cons]

lemma distinctAfter_eq_self {seen ys : List α} (hseen : ∀ y ∈ ys, ∀ x ∈ seen, same y x = false)
    (hys : ys.Pairwise fun x y => same y x = false) : distinctAfter same seen ys = ys := by
  induction ys generalizing seen with
  | nil => rfl
  | cons y r ih =>
    obtain ⟨hy, hr⟩ := List.pairwise_cons.1 hys
    have hany : ¬seen.any (same y) = true := by simpa using hseen y List.mem_cons_self
    have hnew : ∀ z ∈ r, ∀ x ∈ y :: seen, same z x = false := fun z hz =>
      List.forall_mem_cons.2 ⟨hy z hz, hseen z (List.mem_cons_of_mem y hz)⟩
    rw [distinctAfter, if_neg hany, ih hnew hr]

/-- New items, no two of them the same, stay as they are. -/
lemma distinctAfter_append {seen xs ys : List α} (hseen : ∀ y ∈ ys, ∀ x ∈ seen, same y x = false)
    (hxs : ∀ y ∈ ys, ∀ x ∈ xs, same y x = false) (hys : ys.Pairwise fun x y => same y x = false) :
    distinctAfter same seen (xs ++ ys) = distinctAfter same seen xs ++ ys := by
  induction xs generalizing seen with
  | nil => exact distinctAfter_eq_self hseen hys
  | cons x r ih =>
    have hr : ∀ y ∈ ys, ∀ z ∈ r, same y z = false :=
      fun y hy z hz => hxs y hy z (List.mem_cons_of_mem x hz)
    have hx : ∀ y ∈ ys, ∀ z ∈ x :: seen, same y z = false :=
      fun y hy => List.forall_mem_cons.2 ⟨hxs y hy x List.mem_cons_self, hseen y hy⟩
    rw [List.cons_append, distinctAfter, distinctAfter, ih hseen hr, ih hx hr]
    split <;> rfl

lemma distinct_append {xs ys : List α} (hxs : ∀ y ∈ ys, ∀ x ∈ xs, same y x = false)
    (hys : ys.Pairwise fun x y => same y x = false) :
    distinct same (xs ++ ys) = distinct same xs ++ ys :=
  distinctAfter_append (by simp) hxs hys

end Same

end VectorQuery
