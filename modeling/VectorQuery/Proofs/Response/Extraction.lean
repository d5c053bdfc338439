import VectorQuery.Response.Envelope
import Mathlib.Data.List.Forall2
import Mathlib.Tactic.Lemma

/-! What is taken out of an envelope: the dictionaries of the list at one path as rows, and a text for each
reported error. Neither depends on the other, nor on anything else in the envelope. -/
namespace VectorQuery

/-! ### Paths -/

namespace Datum

variable {d e x y : Datum} {key : String} {path : List String}

/-- A path of keys leads through dictionaries to what stands at its end. -/
inductive Leads : Datum → List String → Datum → Prop
  | here (d : Datum) : Leads d [] d
  | down {es : Entries} {key : String} {path : List String} {d x : Datum} (entry : lookup key es = some d)
      (rest : Leads d path x) : Leads (.dict es) (key :: path) x

/-- The same stands at the end of a path, or nothing in both. -/
def AgreeAt (path : List String) (d e : Datum) : Prop := ∀ x, d.Leads path x ↔ e.Leads path x

lemma leads_nil_iff : d.Leads [] x ↔ d = x :=
  ⟨fun | .here _ => rfl, fun h => h ▸ .here d⟩

lemma leads_cons_iff : d.Leads (key :: path) x ↔ ∃ e, d.get? key = some e ∧ e.Leads path x := by
  constructor
  · rintro (_ | ⟨entry, rest⟩)
    exact ⟨_, entry, rest⟩
  · rintro ⟨e, hentry, hrest⟩
    cases d with
    | dict es => exact .down hentry hrest
    | _ => cases hentry

lemma leads_one_iff : d.Leads [key] x ↔ d.get? key = some x := by
  simp only [leads_cons_iff, leads_nil_iff, exists_eq_right]

/-- A path leads to one place only. -/
lemma Leads.unique (hx : d.Leads path x) (hy : d.Leads path y) : x = y := by
  induction hx with
  | here d =>
    cases hy
    rfl
  | down entry _ ih =>
    obtain ⟨e, he, hrest⟩ := leads_cons_iff.1 hy
    obtain rfl := Option.some.inj (he.symm.trans entry)
    exact ih hrest

def isDict (d : Datum) : Bool := d.dict?.isSome

lemma map_dict_filterMap_dict? (xs : List Datum) : (xs.filterMap dict?).map .dict = xs.filter isDict := by
  induction xs with
  | nil => rfl
  | cons x r ih => cases x <;> simp [List.filterMap_cons, List.filter_cons, isDict, dict?, ih]

end Datum

namespace Envelope
open Datum (Leads AgreeAt)

variable {envelope other error : Datum} {path : List String} {elements : List Datum}

/-! ### Rows -/

/-- The rows at a path are the dictionaries of the list there, in order and unchanged. Where no list stands there
are no rows. -/
structure RowsAt (envelope : Datum) (path : List String) (rows : List Row) : Prop where
  list : ∀ xs, envelope.Leads path (.list xs) → rows.map .dict = xs.filter Datum.isDict
  other : (∀ xs, ¬envelope.Leads path (.list xs)) → rows = []

lemma node_none (path : List String) : node .none path = .none := by
  induction path with
  | nil => rfl
  | cons key path ih => exact ih

/-- Apart from absent data, what is found at a path is what the path leads to. -/
lemma node_eq_iff {x : Datum} (hx : x ≠ .none) : node envelope path = x ↔ envelope.Leads path x := by
  induction path generalizing envelope with
  | nil => exact Datum.leads_nil_iff.symm
  | cons key path ih =>
    rw [Datum.leads_cons_iff]
    have hstep : node envelope (key :: path) = node ((envelope.get? key).getD .none) path := rfl
    rw [hstep]
    cases envelope.get? key with
    | none =>
      rw [Option.getD_none, node_none]
      exact iff_of_false hx.symm (by simp)
    | some d =>
      rw [Option.getD_some, ih]
      simp

theorem rowsAt_node (envelope : Datum) (path : List String) :
    RowsAt envelope path (rowsOf (node envelope path)) where
  list xs h := by
    rw [(node_eq_iff (by simp)).2 h]
    exact Datum.map_dict_filterMap_dict? xs
  other h := by
    unfold rowsOf
    split
    · rename_i xs hxs
      exact absurd ((node_eq_iff (by simp)).1 hxs) (h xs)
    · rfl

lemma RowsAt.unique {rows others : List Row} (hrows : RowsAt envelope path rows)
    (hothers : RowsAt other path others) (h : AgreeAt path envelope other) : rows = others := by
  by_cases hlist : ∃ xs, envelope.Leads path (.list xs)
  · obtain ⟨xs, hxs⟩ := hlist
    have hinjective : Function.Injective Datum.dict := fun _ _ => Datum.dict.inj
    refine hinjective.list_map ?_
    rw [hrows.list xs hxs, hothers.list xs ((h _).1 hxs)]
  · rw [not_exists] at hlist
    rw [hrows.other hlist, hothers.other fun xs hxs => hlist xs ((h _).2 hxs)]

/-! ### Errors -/

/-- The elements that an envelope reports as errors: those of a list, anything else as a single one, and none
where that counts as false. -/
structure Reports (envelope : Datum) (elements : List Datum) : Prop where
  list : ∀ xs, envelope.Leads ["errors"] (.list xs) → elements = xs
  single : ∀ d, envelope.Leads ["errors"] d → (∀ xs, d ≠ .list xs) →
    elements = if d.truthy then [d] else []
  absent : (∀ d, ¬envelope.Leads ["errors"] d) → elements = []

/-- The text of one error: that of its message, or that of the whole where it has no message. -/
structure ErrorText (error : Datum) (text : String) : Prop where
  message : ∀ m, error.Leads ["message"] m → m ≠ .none → text = m.shown
  whole : (∀ m, error.Leads ["message"] m → m = .none) → text = error.shown

theorem reports_reported (envelope : Datum) : Reports envelope (reported envelope) where
  list xs h := by rw [reported, Datum.leads_one_iff.1 h]
  single d h hlist := by
    rw [reported, Datum.leads_one_iff.1 h]
    cases d with
    | list xs => exact absurd rfl (hlist xs)
    | _ => rfl
  absent h := by
    have hnone : envelope.get? "errors" = none :=
      Option.eq_none_iff_forall_ne_some.2 fun d hd => h d (Datum.leads_one_iff.2 hd)
    rw [reported, hnone]

lemma Reports.unique {others : List Datum} (helements : Reports envelope elements) (hothers : Reports other others)
    (h : AgreeAt ["errors"] envelope other) : elements = others := by
  by_cases hfound : ∃ d, envelope.Leads ["errors"] d
  · obtain ⟨d, hd⟩ := hfound
    by_cases hlist : ∃ xs, d = .list xs
    · obtain ⟨xs, rfl⟩ := hlist
      rw [helements.list xs hd, hothers.list xs ((h _).1 hd)]
    · rw [not_exists] at hlist
      rw [helements.single d hd hlist, hothers.single d ((h d).1 hd) hlist]
  · rw [not_exists] at hfound
    rw [helements.absent hfound, hothers.absent fun d hd => hfound d ((h d).2 hd)]

theorem errorText_spec (error : Datum) : ErrorText error (errorText error) where
  message m h hm := by
    rw [errorText, Datum.leads_one_iff.1 h]
    cases m with
    | none => exact absurd rfl hm
    | _ => rfl
  whole h := by
    unfold errorText
    split
    · rfl
    · rfl
    · rename_i m hne hm
      exact absurd (h m (Datum.leads_one_iff.2 hm)) hne

/-! ### Rows and errors together -/

/-- Rows and errors that are those of an envelope. -/
structure ExtractedFrom (envelope : Datum) (operation collection : String) (x : Extraction) : Prop where
  rows : RowsAt envelope ["data", operation, collection] x.rows
  errors : ∃ elements, Reports envelope elements ∧ List.Forall₂ ErrorText elements x.errors

/-- Every envelope gives its rows and its errors, and an envelope that agrees with it on the path of the rows and on
the errors gives the same, whatever else they hold. -/
theorem extract_faithful_local (envelope : Datum) (operation collection : String) :
    ExtractedFrom envelope operation collection (extract envelope operation collection).value ∧
    ∀ other, AgreeAt ["data", operation, collection] envelope other → AgreeAt ["errors"] envelope other →
      extract other operation collection = extract envelope operation collection := by
  refine ⟨⟨rowsAt_node envelope _, reported envelope, reports_reported envelope, ?texts⟩, ?same⟩
  case texts =>
    rw [extract_errors, errorMessages, List.forall₂_map_right_iff]
    exact List.forall₂_same.2 fun error _ => errorText_spec error
  case same =>
    intro other hpath herrors
    have hrows := (rowsAt_node envelope _).unique (rowsAt_node other _) hpath
    have hreported := (reports_reported envelope).unique (reports_reported other) herrors
    unfold extract errorMessages
    rw [hrows, hreported]

/-- An answer in parts: one article among the rows, two reported errors, and anything else next to them. -/
def mixedAnswer (beside : List (String × Datum)) : Datum := .object (beside ++ [
  ("errors", .list [.object [("message", .str "quota")], .object [("code", .int 3)]]),
  ("data", .object [("Get", .object [("Article", .list [.object [("title", .str "A")], .none, .int 3])])])])

/-- Neither what is no dictionary among the rows nor what stands beside them is taken out. -/
theorem extract_faithful_local_mixedAnswer :
    let other := mixedAnswer [("extensions", .str "traced"), ("message", .none)]
    AgreeAt ["data", "Get", "Article"] (mixedAnswer []) other ∧ AgreeAt ["errors"] (mixedAnswer []) other ∧
    (extract other "Get" "Article").value =
      ⟨[[(.str "title", .str "A")]], ["quota", "\x7b'code': 3\x7d"]⟩ := by
  intro other
  have hpath : AgreeAt ["data", "Get", "Article"] (mixedAnswer []) other := fun x => by
    simp only [Datum.leads_cons_iff]
    exact Iff.rfl
  have herrors : AgreeAt ["errors"] (mixedAnswer []) other := fun x => by
    simp only [Datum.leads_cons_iff]
    exact Iff.rfl
  refine ⟨hpath, herrors, ?_⟩
  rw [(extract_faithful_local (mixedAnswer []) "Get" "Article").2 other hpath herrors]
  cbv

end Envelope

end VectorQuery
