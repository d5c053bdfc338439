import VectorQuery.Aggregate.Descriptor
import VectorQuery.Proofs.Checked
import VectorQuery.Proofs.GraphQL.InputValue

/-! What is accepted as a name, against the name grammar: a name of the grammar, alone or with one line feed
behind it. -/
namespace VectorQuery
namespace GraphQL

def IsLetter (c : Char) : Prop := c = '_' ∨ ('A' ≤ c ∧ c ≤ 'Z') ∨ ('a' ≤ c ∧ c ≤ 'z')

def IsDigit (c : Char) : Prop := '0' ≤ c ∧ c ≤ '9'

/-- A name of the grammar. -/
structure IsGrammarName (s : List Char) : Prop where
  first : ∃ c ∈ s.head?, IsLetter c
  each : ∀ c ∈ s, IsLetter c ∨ IsDigit c

lemma isNameStart_iff {c : Char} : isNameStart c = true ↔ IsLetter c := by
  rw [isNameStart_iff_toNat, IsLetter, ← Char.toNat_inj]
  exact Iff.rfl

lemma isNameChar_iff {c : Char} : isNameChar c = true ↔ IsLetter c ∨ IsDigit c := by
  rw [isNameChar, Bool.or_eq_true, isNameStart_iff, Char.isDigit_iff_toNat]
  exact Iff.rfl

theorem isStrictName_iff {s : List Char} : isStrictName s = true ↔ IsGrammarName s := by
  cases s with
  | nil => exact iff_of_false Bool.false_ne_true fun h => by simpa using h.first
  | cons c r =>
    rw [isStrictName, Bool.and_eq_true, List.all_eq_true]
    constructor
    · rintro ⟨hc, hr⟩
      exact ⟨⟨c, rfl, isNameStart_iff.1 hc⟩, List.forall_mem_cons.2
        ⟨.inl (isNameStart_iff.1 hc), fun d hd => isNameChar_iff.1 (hr d hd)⟩⟩
    · rintro ⟨⟨d, hd, hletter⟩, heach⟩
      obtain rfl := Option.some.inj hd
      exact ⟨isNameStart_iff.2 hletter,
        fun d hd => isNameChar_iff.2 (heach d (List.mem_cons_of_mem _ hd))⟩

lemma isNameTail_append_lineFeed {w : List Char} (h : w.all isNameChar = true) :
    isNameTail (w ++ ['\n']) = true := by
  induction w with
  | nil => rfl
  | cons c w ih =>
    rw [List.all_cons, Bool.and_eq_true] at h
    rw [List.cons_append, isNameTail.eq_3 _ _ (by simp), h.1, ih h.2]
    rfl

/-- A line feed can only stand at the end. -/
lemma exists_of_isNameTail {r : List Char} (h : isNameTail r = true) :
    ∃ w, (r = w ∨ r = w ++ ['\n']) ∧ w.all isNameChar = true := by
  fun_induction isNameTail r with
  | case1 => exact ⟨[], .inl rfl, rfl⟩
  | case2 => exact ⟨[], .inr rfl, rfl⟩
  | case3 c r _ ih =>
    obtain ⟨hc, hr⟩ := Bool.and_eq_true_iff.1 h
    obtain ⟨w, hw, hall⟩ := ih hr
    refine ⟨c :: w, ?_, by rw [List.all_cons, hc, hall]; rfl⟩
    rcases hw with rfl | rfl
    · exact .inl rfl
    · exact .inr rfl

/-- What is accepted is a name of the grammar, or one with a line feed behind it. -/
theorem isName_iff {s : List Char} : isName s = true ↔
    ∃ w, IsGrammarName w ∧ (s = w ∨ s = w ++ ['\n']) := by
  constructor
  · intro h
    cases s with
    | nil => cases h
    | cons c r =>
      obtain ⟨hc, hr⟩ := Bool.and_eq_true_iff.1 h
      obtain ⟨w, hw, hall⟩ := exists_of_isNameTail hr
      refine ⟨c :: w, isStrictName_iff.1 (by rw [isStrictName, hc, hall]; rfl), ?_⟩
      rcases hw with rfl | rfl
      · exact .inl rfl
      · exact .inr rfl
  · rintro ⟨w, hw, rfl | rfl⟩
    · exact isName_of_isStrictName (isStrictName_iff.2 hw)
    · have hstrict := isStrictName_iff.2 hw
      cases w with
      | nil => cases hstrict
      | cons c w =>
        obtain ⟨hc, hall⟩ := Bool.and_eq_true_iff.1 hstrict
        rw [List.cons_append, isName, hc, isNameTail_append_lineFeed hall]
        rfl

lemma lineFeed_not_mem {w : List Char} (h : isStrictName w = true) : '\n' ∉ w := by
  intro hmem
  have hchar : isNameChar '\n' = true := by
    cases w with
    | nil => cases hmem
    | cons c r =>
      obtain ⟨hc, hall⟩ := Bool.and_eq_true_iff.1 h
      rcases List.mem_cons.1 hmem with rfl | hmem
      · exact isNameChar_of_isNameStart hc
      · exact List.all_eq_true.1 hall _ hmem
  exact absurd hchar (by decide)

end GraphQL

open GraphQL

/-! ### Accepted names -/

lemma Datum.isName_iff {d : Datum} : d.isName = true ↔ ∃ t, d = .text t ∧
    ∃ w, IsGrammarName w ∧ (t.content.toList = w ∨ t.content.toList = w ++ ['\n']) := by
  cases d with
  | text t =>
    rw [Datum.isName, GraphQL.isName_iff]
    exact ⟨fun h => ⟨t, rfl, h⟩, fun ⟨u, hu, h⟩ => Datum.text.inj hu ▸ h⟩
  | _ => exact iff_of_false Bool.false_ne_true (by simp)

namespace Name

/-- A value is taken for a name exactly when it is accepted as one, and it is kept as it is. -/
lemma check_eq_ok_iff {what : String} {d : Datum} {n : Name} :
    check what d = .ok n ↔ d = n.view := by
  constructor
  · intro h
    unfold check at h
    split at h
    · split at h
      · obtain rfl := Except.ok.inj h
        rfl
      · cases h
    · cases h
  · rintro rfl
    exact dif_pos n.valid

lemma isName_of_check {what : String} {d : Datum} {n : Name} (h : check what d = .ok n) :
    d.isName = true := by
  obtain rfl := check_eq_ok_iff.1 h
  exact n.valid

/-- The name without the line feed. -/
def stem (n : Name) : List Char := n.content.toList.takeWhile isNameChar

lemma toList_content (n : Name) : isStrictName n.stem = true ∧
    (n.content.toList = n.stem ∨ n.content.toList = n.stem ++ ['\n']) := by
  obtain ⟨w, hw, hcontent⟩ := GraphQL.isName_iff.1 n.valid
  have hstrict := isStrictName_iff.2 hw
  have htake {r : List Char} (hr : Stops isNameChar r) : (w ++ r).takeWhile isNameChar = w :=
    takeWhile_append_stops (fun c hc => isNameChar_iff.2 (hw.each c hc)) hr
  have hstem : n.stem = w := by
    rcases hcontent with h | h
    · have hend := htake (stops_nil isNameChar)
      rw [List.append_nil] at hend
      rw [stem, content, h, hend]
    · rw [stem, content, h, htake (by rintro d ⟨⟩; rfl)]
  rw [hstem]
  exact ⟨hstrict, hcontent⟩

lemma stem_eq_iff (n : Name) : n.stem = n.content.toList ↔ '\n' ∉ n.content.toList := by
  obtain ⟨hstrict, h | h⟩ := n.toList_content
  · rw [h]
    exact iff_of_true rfl (lineFeed_not_mem hstrict)
  · rw [h]
    exact iff_of_false (by simp) (by simp)

lemma isGrammarName_iff (n : Name) : IsGrammarName n.content.toList ↔ '\n' ∉ n.content.toList := by
  rw [← isStrictName_iff]
  exact ⟨lineFeed_not_mem, isStrictName_of_isName n.valid⟩

end Name

/-! ### Where names stand -/

namespace Datum

mutual

/-- The keys of the dictionaries in plain data, at any depth. -/
def keys : Datum → List Datum
  | .list xs => keysAll xs
  | .tuple xs => keysAll xs
  | .dict es => keysIn es
  | _ => []

def keysAll : List Datum → List Datum
  | [] => []
  | x :: r => x.keys ++ keysAll r

def keysIn : List (Datum × Datum) → List Datum
  | [] => []
  | (k, x) :: r => k :: (x.keys ++ keysIn r)

end

end Datum

namespace GraphQL.Value
open Checked

mutual

/-- Every key of data that are encoded is accepted as a name. -/
theorem isName_of_ofDatum : ∀ (d : Datum) {v : Value}, ofDatum d = .ok v →
    ∀ k ∈ d.keys, k.isName = true
  | .list xs, _, h => by
    obtain ⟨vs, hvs, -⟩ := map_ok h
    exact isName_of_ofItems xs hvs
  | .tuple xs, _, h => by
    obtain ⟨vs, hvs, -⟩ := map_ok h
    exact isName_of_ofItems xs hvs
  | .dict es, _, h => by
    obtain ⟨fs, hfs, -⟩ := map_ok h
    exact isName_of_ofEntries es hfs
  | .none, _, _ | .bool _, _, _ | .int _, _, _ | .float _, _, _ | .text _, _, _ | .bytes _, _, _
  | .day _, _, _ | .moment _, _, _ | .set _, _, _ | .record .., _, _ => nofun

theorem isName_of_ofItems : ∀ (xs : List Datum) {vs : List Value}, ofItems xs = .ok vs →
    ∀ k ∈ Datum.keysAll xs, k.isName = true
  | [], _, _ => nofun
  | x :: r, _, h => by
    obtain ⟨v, hv, h⟩ := bind_ok h
    obtain ⟨vs, hvs, -⟩ := bind_ok h
    rw [Datum.keysAll, List.forall_mem_append]
    exact ⟨isName_of_ofDatum x hv, isName_of_ofItems r hvs⟩

theorem isName_of_ofEntries : ∀ (es : List (Datum × Datum)) {fs : List (String × Value)},
    ofEntries es = .ok fs → ∀ k ∈ Datum.keysIn es, k.isName = true
  | [], _, _ => nofun
  | (k, x) :: r, _, h => by
    obtain ⟨n, hn, h⟩ := bind_ok h
    obtain ⟨v, hv, h⟩ := bind_ok h
    obtain ⟨fs, hfs, -⟩ := bind_ok h
    rw [Datum.keysIn, List.forall_mem_cons, List.forall_mem_append]
    exact ⟨Name.isName_of_check hn, isName_of_ofDatum x hv, isName_of_ofEntries r hfs⟩

end

end GraphQL.Value

/-- The names that a query is made with. -/
def QueryDescriptor.names (q : QueryDescriptor) : List Name :=
  q.collection :: (q.additionalFields ++ (q.generate.toList.flatMap (·.explicitProperties)))

/-- The names that an aggregation is made with. -/
def AggregateDescriptor.names (a : AggregateDescriptor) : List Name :=
  a.collection :: a.propertyMetrics.map (·.property)

end VectorQuery
