import VectorQuery.Proofs.Number.Overflow
import VectorQuery.Proofs.Checked
import VectorQuery.Term.Query

/-! Tests of numbers in a row. The first number that does not pass its test decides how the whole fails: an integer
beyond the doubles stops it with a fault of its own, every other number is rejected. -/
namespace VectorQuery

/-- A number that has to be finite, and where a share is asked for has to be one. -/
structure NumberTest where
  number : Num
  share : Bool

namespace NumberTest

def passes (t : NumberTest) : Bool := t.number.isFinite && (!t.share || t.number.inUnit)

/-- The first test that is not passed. -/
def firstFailing (ts : List NumberTest) : Option NumberTest := ts.find? fun t => !t.passes

lemma firstFailing_append (ts u : List NumberTest) :
    firstFailing (ts ++ u) = (firstFailing ts).or (firstFailing u) := List.find?_append

/-- A failure at one test. -/
def Fails (t : NumberTest) (x : Checked α) : Prop :=
  (t.number.IsBeyond ∧ x = .error .tooLarge) ∨ (¬t.number.IsBeyond ∧ ∃ r, x = .error (.rejected r))

/-- A computation that runs tests and fails at the first one that is not passed. Where all are passed it has a result
of the required kind if the numbers fit, and is rejected if they do not. -/
inductive Tested (fits : Bool) (ts : List NumberTest) (q : α → Prop) (x : Checked α) : Prop
  | failed (t : NumberTest) (first : firstFailing ts = some t) (fails : t.Fails x)
  | passed (none : firstFailing ts = none) (hfits : fits = true) (a : α) (result : x = .ok a) (ha : q a)
  | refused (none : firstFailing ts = none) (hfits : fits = false) (r : Rejection)
      (rejected : x = .error (.rejected r))

end NumberTest

open NumberTest

variable {α β : Type} {fits : Bool} {t : NumberTest} {ts u : List NumberTest} {q : α → Prop} {s : β → Prop}
  {x : Checked α} {f : α → Checked β}

/-! ### Computations in a row -/

lemma NumberTest.Fails.bind (h : t.Fails x) (f : α → Checked β) : t.Fails (x >>= f) := by
  rcases h with ⟨hbeyond, rfl⟩ | ⟨hbeyond, r, rfl⟩
  · exact .inl ⟨hbeyond, rfl⟩
  · exact .inr ⟨hbeyond, r, rfl⟩

lemma tested_ok {a : α} (h : q a) : Tested true [] q (.ok a) := .passed rfl rfl a rfl h

lemma tested_reject (r : Rejection) : Tested false [] q (reject r) := .refused rfl rfl r rfl

/-- Tests after tests: the second computation starts only where the first one has a result. -/
lemma NumberTest.Tested.bind (hx : Tested true ts q x) (hf : ∀ a, q a → Tested fits u s (f a)) :
    Tested fits (ts ++ u) s (x >>= f) := by
  cases hx with
  | failed t first fails =>
    exact .failed t (by rw [firstFailing_append, first, Option.some_or]) (fails.bind f)
  | passed none _ a result ha =>
    subst result
    have happend : firstFailing (ts ++ u) = firstFailing u := by
      rw [firstFailing_append, none, Option.none_or]
    cases hf a ha with
    | failed t first fails => exact .failed t (happend.trans first) fails
    | passed none hfits b result hb => exact .passed (happend.trans none) hfits b result hb
    | refused none hfits r rejected => exact .refused (happend.trans none) hfits r rejected
  | refused _ hfits => cases hfits

/-- What runs no tests of its own can only refuse numbers that do not fit. -/
lemma NumberTest.Tested.bind_last {more : Bool} (hx : Tested fits ts q x)
    (hf : ∀ a, q a → Tested more [] s (f a)) : Tested (fits && more) ts s (x >>= f) := by
  cases hx with
  | failed t first fails => exact .failed t first (fails.bind f)
  | passed none hfits a result ha =>
    subst result
    cases hf a ha with
    | failed t first => cases first
    | passed _ hmore b result hb => exact .passed none (by rw [hfits, hmore]; rfl) b result hb
    | refused _ hmore r rejected => exact .refused none (by rw [hmore, Bool.and_false]) r rejected
  | refused none hfits r rejected =>
    subst rejected
    exact .refused none (by rw [hfits, Bool.false_and]) r rfl

/-- What refuses nothing leaves the outcome as it is. -/
lemma NumberTest.Tested.bind_total (hx : Tested fits ts q x) (hf : ∀ a, q a → Tested true [] s (f a)) :
    Tested fits ts s (x >>= f) := by
  rw [← Bool.and_true fits]
  exact hx.bind_last hf

lemma NumberTest.Tested.map {g : α → β} (hx : Tested fits ts q x) (hg : ∀ a, q a → s (g a)) :
    Tested fits ts s (x.map g) := by
  have hmap : x.map g = x >>= fun a => .ok (g a) := by cases x <;> rfl
  rw [hmap]
  exact hx.bind_total fun a ha => tested_ok (hg a ha)

lemma NumberTest.Tested.mono {p : α → Prop} (hx : Tested fits ts q x) (h : ∀ a, q a → p a) : Tested fits ts p x := by
  rw [← bind_pure x]
  exact hx.bind_total fun a ha => tested_ok (h a ha)

/-! ### The outcome -/

lemma NumberTest.Tested.result_of_ok {a : α} (h : Tested fits ts q x) (hx : x = .ok a) : q a := by
  subst hx
  cases h with
  | failed t first fails => rcases fails with ⟨-, hx⟩ | ⟨-, r, hx⟩ <;> cases hx
  | passed none _ b result hb =>
    obtain rfl := Except.ok.inj result
    exact hb
  | refused _ _ r rejected => cases rejected

lemma NumberTest.Tested.fault {e : Fault} (h : Tested fits ts q x) (hx : x = .error e) :
    (∃ r, e = .rejected r) ∨ e = .tooLarge := by
  subst hx
  cases h with
  | failed t first fails =>
    rcases fails with ⟨-, hx⟩ | ⟨-, r, hx⟩
    · exact .inr (Except.error.inj hx)
    · exact .inl ⟨r, Except.error.inj hx⟩
  | passed _ _ b result => cases result
  | refused _ _ r rejected => exact .inl ⟨r, Except.error.inj rejected⟩

lemma NumberTest.Tested.exists_ok_iff (h : Tested fits ts q x) :
    (∃ a, x = .ok a) ↔ firstFailing ts = none ∧ fits = true := by
  cases h with
  | failed t first fails =>
    rw [first]
    refine iff_of_false ?_ (fun h => nomatch h.1)
    rintro ⟨a, rfl⟩
    rcases fails with ⟨-, hx⟩ | ⟨-, r, hx⟩ <;> cases hx
  | passed none hfits a result => exact iff_of_true ⟨a, result⟩ ⟨none, hfits⟩
  | refused _ hfits r rejected =>
    subst rejected hfits
    exact iff_of_false (fun ⟨_, ha⟩ => nomatch ha) (fun h => nomatch h.2)

lemma NumberTest.Tested.tooLarge_iff (h : Tested fits ts q x) :
    x = .error .tooLarge ↔ ∃ t, firstFailing ts = some t ∧ t.number.IsBeyond := by
  cases h with
  | failed t first fails =>
    simp only [first, Option.some.injEq, exists_eq_left']
    rcases fails with ⟨hbeyond, rfl⟩ | ⟨hbeyond, r, rfl⟩
    · exact iff_of_true rfl hbeyond
    · exact iff_of_false nofun hbeyond
  | passed none _ b result =>
    subst result
    simp [none]
  | refused none _ r rejected =>
    subst rejected
    simp [none]

/-! ### One test -/

/-- One test alone, with what is asked of the number behind it. -/
lemma tested_one (hpass : t.passes = true → Tested fits [] q x) (hfail : t.passes = false → t.Fails x) :
    Tested fits [t] q x := by
  cases h : t.passes with
  | true =>
    have hfirst : firstFailing [t] = none := by simp [firstFailing, h]
    cases hpass h with
    | failed t first => cases first
    | passed _ hfits a result ha => exact .passed hfirst hfits a result ha
    | refused _ hfits r rejected => exact .refused hfirst hfits r rejected
  | false => exact .failed t (by simp [firstFailing, h]) (hfail h)

lemma optional_num (check : Datum → Checked α) (n : Num) :
    optional check (viewOption .num (some n)) = (check (.num n)).map some := by cases n <;> rfl

/-- A number that may be absent is tested when it is there. -/
lemma tested_optional_all {check : Datum → Checked α} {v : α → Num} {fits : Num → Bool} {share : Bool}
    (h : ∀ n, Tested (fits n) [⟨n, share⟩] (v · = n) (check (.num n))) (o : Option Num) :
    Tested (o.all fits) (o.toList.map (⟨·, share⟩)) (fun a => a.map v = o)
      (optional check (viewOption .num o)) := by
  cases o with
  | none => exact tested_ok rfl
  | some n =>
    rw [optional_num]
    exact (h n).map fun a ha => congrArg some ha

lemma tested_optional {check : Datum → Checked α} {v : α → Num} {share : Bool}
    (h : ∀ n, Tested true [⟨n, share⟩] (v · = n) (check (.num n))) (o : Option Num) :
    Tested true (o.toList.map (⟨·, share⟩)) (fun a => a.map v = o) (optional check (viewOption .num o)) := by
  have hall : o.all (fun _ => true) = true := by cases o <;> rfl
  rw [← hall]
  exact tested_optional_all h o

/-! ### The tests of single numbers -/

@[simp] lemma Datum.num?_num (n : Num) : (Datum.num n).num? = some n := by cases n <;> rfl

lemma Num.not_isBeyond_of_isFinite {n : Num} (h : n.isFinite = true) : ¬n.IsBeyond := by
  rw [isBeyond_iff]
  intro hnone
  simp [isFinite, hnone] at h

/-- The fault of a number that is not finite. -/
lemma fails_not_isFinite {n : Num} {share : Bool} (r : Rejection) :
    (⟨n, share⟩ : NumberTest).Fails
      (if n.toDouble?.isNone then .error .tooLarge else reject r : Checked α) := by
  unfold Fails
  rw [n.isBeyond_iff, ← Option.isNone_iff_eq_none]
  split
  · rename_i h
    exact .inl ⟨h, rfl⟩
  · rename_i h
    exact .inr ⟨h, r, rfl⟩

/-- The test whether a number is finite, in front of what is done with one that is. -/
lemma tested_finite {n : Num} {y : n.isFinite = true → Checked α} (r : Rejection)
    (hy : ∀ h, Tested fits [] q (y h)) : Tested fits [⟨n, false⟩] q
      (if h : n.isFinite = true then y h else if n.toDouble?.isNone then .error .tooLarge else reject r) := by
  split
  · rename_i h
    exact tested_one (fun _ => hy h) (by simp [passes, h])
  · rename_i h
    exact tested_one (by simp [passes, h]) fun _ => fails_not_isFinite r

/-- The double of a finite number is its nearest one. -/
lemma Quantity.some_toDouble (p : Quantity) : some p.toDouble = p.num.toDouble? := by
  have h := p.finite
  unfold toDouble
  unfold Num.isFinite at h
  cases hd : p.num.toDouble? with
  | none => simp [hd] at h
  | some d => rfl

lemma Quantity.tested_check (subject : String) (n : Num) :
    Tested true [⟨n, false⟩] (·.num = n) (Quantity.check subject (.num n)) := by
  unfold Quantity.check
  rw [Datum.num?_num]
  exact tested_finite _ fun _ => tested_ok rfl

/-- A share is tested to be finite first; a finite number outside the range is rejected. -/
lemma Share.tested_check (subject : String) (n : Num) :
    Tested true [⟨n, true⟩] (·.num = n) (Share.check subject (.num n)) := by
  unfold Share.check Quantity.check
  rw [Datum.num?_num]
  by_cases hfinite : n.isFinite = true
  · simp only [dif_pos hfinite]
    change Tested true _ _ (if h : n.inUnit = true then Except.ok (⟨⟨n, hfinite⟩, h⟩ : Share) else
      reject (.outsideUnit subject n))
    split
    · rename_i hunit
      exact tested_one (fun _ => tested_ok rfl) (by simp [passes, hfinite, hunit])
    · rename_i hunit
      refine tested_one (by simp [passes, hfinite, hunit]) fun _ => ?_
      exact .inr ⟨Num.not_isBeyond_of_isFinite hfinite, _, rfl⟩
  · simp only [dif_neg hfinite]
    exact tested_one (by simp [passes, hfinite]) fun _ => (fails_not_isFinite _).bind _

/-- A temperature is tested to be finite first; a finite one fits if it is not negative. -/
lemma ProviderParams.tested_checkTemperature (n : Num) :
    Tested (!n.lt (.int 0)) [⟨n, false⟩] (·.num = n) (checkTemperature (.num n)) := by
  unfold checkTemperature
  rw [Datum.num?_num]
  refine tested_finite _ fun _ => ?_
  cases n.lt (.int 0) with
  | true => exact tested_reject _
  | false => exact tested_ok rfl

/-- This parameter is compared at once: a number of any size is in the range or is rejected. -/
lemma ProviderParams.tested_checkTopP (n : Num) :
    Tested (n.isFinite && n.inUnit) [] (·.num = n) (checkTopP (.num n)) := by
  unfold checkTopP
  rw [Datum.num?_num]
  dsimp only
  split
  · rename_i h
    rw [h.1, h.2]
    exact tested_ok rfl
  · rename_i h
    rw [Bool.eq_false_iff.2 fun hfits => h (Bool.and_eq_true_iff.1 hfits)]
    exact tested_reject _

/-! ### The tests of lists -/

/-- The items of a list are tested in order. -/
lemma tested_mapM {check : Datum → Checked β} {v : α → Num} {wrap : α → β}
    (h : ∀ n, Tested true [⟨n, false⟩] (fun b => ∃ a, wrap a = b ∧ v a = n) (check (.num n))) (ns : List Num) :
    Tested true (ns.map (⟨·, false⟩)) (fun bs => ∃ as : List α, as.map wrap = bs ∧ as.map v = ns)
      ((ns.map .num).mapM check) := by
  induction ns with
  | nil => exact tested_ok ⟨[], rfl, rfl⟩
  | cons n ns ih =>
    rw [List.map_cons, List.map_cons, List.mapM_cons]
    refine (h n).bind (u := ns.map (⟨·, false⟩)) fun b hb => ?_
    refine ih.bind_total fun bs hbs => ?_
    obtain ⟨a, rfl, rfl⟩ := hb
    obtain ⟨as, rfl, rfl⟩ := hbs
    exact tested_ok ⟨a :: as, rfl, rfl⟩

lemma Search.tested_components (ns : List Num) :
    Tested true (ns.map (⟨·, false⟩)) (fun qs => ∃ ps : List Quantity, ps.map some = qs ∧ ps.map (·.num) = ns)
      ((ns.map .num).mapM (optional (Quantity.check "vector component"))) := by
  apply tested_mapM
  intro n
  change Tested true _ _ (optional (Quantity.check "vector component") (viewOption .num (some n)))
  rw [optional_num]
  exact (Quantity.tested_check _ n).map fun q hq => ⟨q, rfl, hq⟩

/-- An item that is refused has the fault of the whole list. -/
lemma FilterValue.tested_checkItem (r : Rejection) (n : Num) :
    Tested true [⟨n, false⟩] (·.num = n) (checkItem readQuantity r (.num n)) := by
  have hcheck : checkItem readQuantity r (.num n) = if h : n.isFinite = true then .ok ⟨n, h⟩
      else if n.toDouble?.isNone then .error .tooLarge else reject r := by
    unfold checkItem readQuantity
    rw [Datum.num?_num]
    dsimp only
    split_ifs <;> rfl
  rw [hcheck]
  exact tested_finite r fun _ => tested_ok rfl

end VectorQuery
