/-! Dropping repetitions: the first occurrence of each item, in order. -/
namespace VectorQuery

/-- The items that equal neither one in `seen` nor an earlier item. -/
def distinctAfter (same : α → α → Bool) : (seen : List α) → List α → List α
  | _, [] => []
  | seen, x :: r =>
    if seen.any (same x) then distinctAfter same seen r
    else x :: distinctAfter same (x :: seen) r

/-- The items that equal no earlier one. -/
def distinct (same : α → α → Bool) (xs : List α) : List α := distinctAfter same [] xs

theorem mem_of_mem_distinctAfter {same : α → α → Bool} {x : α} {seen xs : List α}
    (h : x ∈ distinctAfter same seen xs) : x ∈ xs := by
  induction xs generalizing seen with
  | nil => simp [distinctAfter] at h
  | cons y r ih =>
    unfold distinctAfter at h
    split at h
    · exact List.mem_cons_of_mem _ (ih h)
    · rcases List.mem_cons.1 h with rfl | h
      · exact List.mem_cons_self
      · exact List.mem_cons_of_mem _ (ih h)

end VectorQuery
