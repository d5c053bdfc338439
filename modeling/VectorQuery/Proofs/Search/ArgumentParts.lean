import VectorQuery.Proofs.GraphQL.PresentFields
import VectorQuery.Proofs.Number.Comparison
import VectorQuery.Proofs.Query.ArgumentOrder
import VectorQuery.Proofs.Renderable

/-! The argument of a search as its parts, of which some may be absent. Certainty and distance are never both
there. Certainty, alpha and forces are shares, and lists of concepts, properties and components are not empty. -/
namespace VectorQuery
open GraphQL (Value)
open Checked GraphQL.Value

/-! ### The parts of an argument -/

/-- A number that may be left out. -/
def numberValue {α : Type} (toDouble : α → Double) (o : Option α) : Value :=
  (o.map fun a => .float (toDouble a)).getD .null

lemma eq_numberValue_of_required {α : Type} {toDouble : α → Double} {o : Option α} {v : Value}
    (h : required toDouble o = .ok v) : v = numberValue toDouble o := by
  cases o with
  | none => cases h
  | some a => exact (Except.ok.inj h).symm

namespace Threshold

def certainty? : Threshold → Option Share
  | certainty c => some c
  | _ => none

def distance? : Threshold → Option Quantity
  | distance d => some d
  | _ => none

def parts (t : Threshold) : Parts :=
  [("certainty", t.certainty?.map fun c => .float c.toDouble),
    ("distance", t.distance?.map fun d => .float d.toDouble)]

lemma present_parts (t : Threshold) : present t.parts = t.wire := by cases t <;> rfl

end Threshold

/-- The value of a shift. -/
def Move.wireValue (m : Move) : Value :=
  .object [("concepts", .ofTexts m.concepts.texts), ("force", numberValue (·.toDouble) m.force)]

namespace Search

/-- The parts of the argument that carries a search. -/
def parts : Search → Parts
  | fetchAll => []
  | fetchById _ => []
  | nearText concepts threshold moveTo moveAway =>
    ("concepts", some (.ofTexts concepts.texts)) :: threshold.parts ++
      [("moveTo", moveTo.map Move.wireValue), ("moveAwayFrom", moveAway.map Move.wireValue)]
  | nearVector first rest threshold =>
    ("vector", some (.list ((first :: rest).map (numberValue Quantity.toDouble)))) :: threshold.parts
  | nearObject id threshold => ("id", some (.ofText id.text)) :: threshold.parts
  | nearImage data threshold => ("image", some (.ofText data.text)) :: threshold.parts
  | nearMedia kind data threshold => (kind.text.content, some (.ofText data.text)) :: threshold.parts
  | bm25 query properties =>
    [("query", some (.ofText query.text)), ("properties", properties.map fun ps => .ofTexts ps.texts)]
  | hybrid query alpha fusion properties =>
    [("query", some (.ofText query.text)), ("alpha", alpha.map fun a => .float a.toDouble),
      ("fusionType", fusion.map fun f => .enum f.text.content),
      ("properties", properties.map fun ps => .ofTexts ps.texts)]

lemma eq_present_of_moveWire {name : String} {m : Option Move} {fs : List (String × Value)}
    (h : moveWire name m = .ok fs) : fs = present [(name, m.map Move.wireValue)] := by
  cases m with
  | none => exact (Except.ok.inj h).symm
  | some m =>
    obtain ⟨v, hv, rfl⟩ := map_ok h
    obtain ⟨force, hforce, hv⟩ := bind_ok hv
    obtain rfl := pure_ok hv
    rw [eq_numberValue_of_required hforce]
    rfl

lemma eq_map_of_vectorWire {qs : List (Option Quantity)} {vs : List Value} (h : vectorWire qs = .ok vs) :
    vs = qs.map (numberValue Quantity.toDouble) := by
  induction qs generalizing vs with
  | nil => exact (Except.ok.inj h).symm
  | cons q qs ih =>
    obtain ⟨v, hv, h⟩ := bind_ok h
    obtain ⟨ws, hws, h⟩ := bind_ok h
    obtain rfl := pure_ok h
    rw [List.map_cons, eq_numberValue_of_required hv, ih hws]

/-- The value of the argument has exactly the parts that are there. -/
theorem eq_present_of_argument {s : Search} {name : String} {v : Value}
    (h : s.argument = .ok (some (name, v))) : v = .object (present s.parts) := by
  cases s with
  | fetchAll | fetchById => cases h
  | nearText concepts threshold moveTo moveAway =>
    obtain ⟨toward, htoward, h⟩ := bind_ok h
    obtain ⟨away, haway, h⟩ := bind_ok h
    obtain ⟨-, rfl⟩ := Prod.mk.inj (Option.some.inj (pure_ok h))
    rw [eq_present_of_moveWire htoward, eq_present_of_moveWire haway, ← threshold.present_parts,
      List.append_assoc, ← present_append, List.cons_append, ← present_append]
    rfl
  | nearVector first rest threshold =>
    obtain ⟨vs, hvs, h⟩ := bind_ok h
    obtain ⟨-, rfl⟩ := Prod.mk.inj (Option.some.inj (pure_ok h))
    rw [eq_map_of_vectorWire hvs, ← threshold.present_parts]
    rfl
  | nearObject id threshold | nearImage data threshold | nearMedia kind data threshold =>
    obtain ⟨-, rfl⟩ := Prod.mk.inj (Option.some.inj (Except.ok.inj h))
    rw [← threshold.present_parts]
    rfl
  | bm25 query properties =>
    obtain ⟨-, rfl⟩ := Prod.mk.inj (Option.some.inj (Except.ok.inj h))
    cases properties <;> rfl
  | hybrid query alpha fusion properties =>
    obtain ⟨-, rfl⟩ := Prod.mk.inj (Option.some.inj (Except.ok.inj h))
    cases alpha <;> cases fusion <;> cases properties <;> rfl

end Search

/-! ### What the parts are -/

namespace GraphQL.Value

mutual

/-- The fields of a value, at any depth. -/
def fields : Value → List (String × Value)
  | .list xs => itemsFields xs
  | .object fs => fieldsFields fs
  | _ => []

def itemsFields : List Value → List (String × Value)
  | [] => []
  | x :: r => x.fields ++ itemsFields r

def fieldsFields : List (String × Value) → List (String × Value)
  | [] => []
  | (n, v) :: r => (n, v) :: v.fields ++ fieldsFields r

end

lemma fields_object (fs : List (String × Value)) :
    (object fs).fields = fs.flatMap fun f => f :: f.2.fields := by
  rw [fields]
  induction fs with
  | nil => rfl
  | cons f r ih => rw [fieldsFields, ih, List.flatMap_cons]

lemma fields_list_eq_nil {xs : List Value} (h : ∀ x ∈ xs, x.fields = []) : (list xs).fields = [] := by
  rw [fields]
  induction xs with
  | nil => rfl
  | cons x r ih =>
    obtain ⟨hx, hr⟩ := List.forall_mem_cons.1 h
    rw [itemsFields, hx, ih hr]
    rfl

@[simp] lemma fields_float (d : Double) : (float d).fields = [] := rfl

@[simp] lemma fields_ofText (t : MarkedText) : (ofText t).fields = [] := by cases t <;> rfl

@[simp] lemma fields_ofTexts (ts : List MarkedText) : (ofTexts ts).fields = [] :=
  fields_list_eq_nil (List.forall_mem_map.2 fun t _ => fields_ofText t)

end GraphQL.Value

namespace Search

/-- Names of shares. -/
def shareNames : List String := ["certainty", "alpha", "force"]

/-- Names of lists of texts. -/
def textNames : List String := ["concepts", "properties"]

/-- What a field of a search argument is, by its name. -/
structure SoundField (name : String) (v : Value) : Prop where
  share : name ∈ shareNames → ∃ d, v = .float d ∧ d.InUnit
  texts : name ∈ textNames → ∃ ts, v = .ofTexts ts ∧ ts ≠ [] ∧ ∀ t ∈ ts, t.isPhrase = true
  vector : name = "vector" → ∃ ds, v = .list (ds.map .float) ∧ ds ≠ [] ∧ ∀ d ∈ ds, d.isFinite = true

/-- The value of a search argument: all its fields are sound, and at most one threshold is among them. -/
structure SoundArgument (v : Value) : Prop where
  field : ∀ name x, (name, x) ∈ v.fields → SoundField name x
  threshold : ¬((∃ x, ("certainty", x) ∈ v.fields) ∧ ∃ x, ("distance", x) ∈ v.fields)

lemma soundField_share {name : String} (htexts : name ∉ textNames) (hvector : name ≠ "vector") (c : Share) :
    SoundField name (.float c.toDouble) :=
  ⟨fun _ => ⟨_, rfl, c.inUnit_toDouble⟩, fun h => absurd h htexts, fun h => absurd h hvector⟩

lemma soundField_texts {name : String} (hshare : name ∉ shareNames) (hvector : name ≠ "vector") (ps : Phrases) :
    SoundField name (.ofTexts ps.texts) where
  share h := absurd h hshare
  texts _ := ⟨ps.texts, rfl, List.cons_ne_nil _ _, List.forall_mem_map.2 fun p _ => p.valid⟩
  vector h := absurd h hvector

/-- A name that says nothing about its value. -/
abbrev IsFree (name : String) : Prop := name ∉ shareNames ∧ name ∉ textNames ∧ name ≠ "vector"

lemma soundField_free {name : String} (h : IsFree name) (v : Value) : SoundField name v :=
  ⟨fun hshare => absurd hshare h.1, fun htexts => absurd htexts h.2.1, fun hvector => absurd hvector h.2.2⟩

lemma exists_eq_map_some {α : Type} {os : List (Option α)} (h : os.all Option.isSome = true) :
    ∃ as : List α, os = as.map some := by
  induction os with
  | nil => exact ⟨[], rfl⟩
  | cons o os ih =>
    obtain ⟨ho, hos⟩ := Bool.and_eq_true_iff.1 h
    obtain ⟨a, rfl⟩ := Option.isSome_iff_exists.1 ho
    obtain ⟨as, rfl⟩ := ih hos
    exact ⟨a :: as, rfl⟩

lemma soundField_vector {q : Option Quantity} {qs : List (Option Quantity)}
    (h : (q :: qs).all Option.isSome = true) :
    SoundField "vector" (.list ((q :: qs).map (numberValue Quantity.toDouble))) := by
  obtain ⟨rs, hrs⟩ := exists_eq_map_some h
  have hne : rs ≠ [] := by
    rintro rfl
    cases hrs
  have hitems : (q :: qs).map (numberValue Quantity.toDouble) = (rs.map Quantity.toDouble).map .float := by
    rw [hrs, List.map_map, List.map_map]
    rfl
  refine ⟨fun h => absurd h (by decide), fun h => absurd h (by decide), fun _ => ?_⟩
  exact ⟨rs.map Quantity.toDouble, congrArg _ hitems, mt List.map_eq_nil_iff.1 hne,
    List.forall_mem_map.2 fun r _ => r.isFinite_toDouble⟩

/-- What a part of an argument is: a sound field, whose own fields are those of a shift, and sound. -/
def SoundPart (p : String × Option Value) : Prop :=
  ∀ v, p.2 = some v → SoundField p.1 v ∧ ∀ f ∈ v.fields, SoundField f.1 f.2 ∧ f.1 ∈ ["concepts", "force"]

lemma soundPart_some {name : String} {v : Value} (hfield : SoundField name v) (hnil : v.fields = []) :
    SoundPart (name, some v) := by
  intro w hw
  obtain rfl := Option.some.inj hw
  exact ⟨hfield, by simp [hnil]⟩

lemma soundPart_map {α : Type} {name : String} {f : α → Value} (hfield : ∀ a, SoundField name (f a))
    (hnil : ∀ a, (f a).fields = []) (o : Option α) : SoundPart (name, o.map f) := by
  cases o with
  | none => exact fun _ h => nomatch h
  | some a => exact soundPart_some (hfield a) (hnil a)

lemma soundPart_text {name : String} (hname : IsFree name) (t : MarkedText) :
    SoundPart (name, some (.ofText t)) :=
  soundPart_some (soundField_free hname _) (fields_ofText t)

lemma soundPart_properties (o : Option Phrases) : SoundPart ("properties", o.map fun ps => .ofTexts ps.texts) :=
  soundPart_map (fun ps => soundField_texts (by decide) (by decide) ps) (fun ps => fields_ofTexts ps.texts) o

lemma soundPart_move {name : String} (hname : IsFree name) {o : Option Move}
    (h : o.all (·.force.isSome) = true) : SoundPart (name, o.map Move.wireValue) := by
  intro v hv
  obtain ⟨⟨concepts, force⟩, rfl, rfl⟩ := Option.map_eq_some_iff.1 hv
  obtain ⟨c, rfl⟩ := Option.isSome_iff_exists.1 h
  refine ⟨soundField_free hname _, ?_⟩
  have hfields : (Move.wireValue ⟨concepts, some c⟩).fields =
      [("concepts", .ofTexts concepts.texts), ("force", .float c.toDouble)] := by
    simp [Move.wireValue, fields_object, numberValue]
  have hconcepts : SoundField "concepts" (.ofTexts concepts.texts) :=
    soundField_texts (by decide) (by decide) concepts
  have hforce : SoundField "force" (.float c.toDouble) := soundField_share (by decide) (by decide) c
  rw [hfields]
  exact List.forall_mem_cons.2 ⟨⟨hconcepts, List.mem_cons_self⟩,
    List.forall_mem_singleton.2 ⟨hforce, List.mem_cons_of_mem _ List.mem_cons_self⟩⟩

lemma soundPart_threshold (t : Threshold) : ∀ p ∈ t.parts, SoundPart p :=
  List.forall_mem_cons.2 ⟨soundPart_map (fun c => soundField_share (by decide) (by decide) c) (fun _ => rfl) _,
    List.forall_mem_singleton.2
      (soundPart_map (fun _ => soundField_free (by decide) _) (fun _ => rfl) _)⟩

/-- A search whose first part is a text, with a threshold after it. -/
lemma soundPart_text_threshold {name : String} (hname : IsFree name) (t : MarkedText)
    (threshold : Threshold) : ∀ p ∈ (name, some (.ofText t)) :: threshold.parts, SoundPart p :=
  List.forall_mem_cons.2 ⟨soundPart_text hname t, soundPart_threshold threshold⟩

lemma mem_mediaArguments (k : MediaKind) : (k.text.content, k.argument) ∈ mediaArguments := mem_of_lookup k.known

/-- All parts of a search are sound, if it has the numbers that its argument writes. -/
theorem soundPart_parts {s : Search} (h : s.isComplete = true) : ∀ p ∈ s.parts, SoundPart p := by
  cases s with
  | fetchAll | fetchById => exact nofun
  | nearText concepts threshold moveTo moveAway =>
    obtain ⟨hto, haway⟩ := Bool.and_eq_true_iff.1 h
    refine List.forall_mem_append.2 ⟨List.forall_mem_cons.2 ⟨?_, soundPart_threshold threshold⟩, ?_⟩
    · exact soundPart_some (soundField_texts (by decide) (by decide) concepts) (fields_ofTexts _)
    · exact List.forall_mem_cons.2 ⟨soundPart_move (by decide) hto,
        List.forall_mem_singleton.2 (soundPart_move (by decide) haway)⟩
  | nearVector first rest threshold =>
    have hnil : (Value.list ((first :: rest).map (numberValue Quantity.toDouble))).fields = [] :=
      fields_list_eq_nil (List.forall_mem_map.2 fun o _ => by cases o <;> rfl)
    exact List.forall_mem_cons.2 ⟨soundPart_some (soundField_vector h) hnil, soundPart_threshold threshold⟩
  | nearObject id threshold => exact soundPart_text_threshold (by decide) id.text threshold
  | nearImage data threshold => exact soundPart_text_threshold (by decide) data.text threshold
  | nearMedia kind data threshold =>
    have hkinds : ∀ e ∈ mediaArguments, IsFree e.1 := by decide
    exact soundPart_text_threshold (hkinds _ (mem_mediaArguments kind)) data.text threshold
  | bm25 query properties =>
    exact List.forall_mem_cons.2 ⟨soundPart_text (by decide) query.text,
      List.forall_mem_singleton.2 (soundPart_properties properties)⟩
  | hybrid query alpha fusion properties =>
    refine List.forall_mem_cons.2 ⟨soundPart_text (by decide) query.text, List.forall_mem_cons.2 ⟨?_,
      List.forall_mem_cons.2 ⟨?_, List.forall_mem_singleton.2 (soundPart_properties properties)⟩⟩⟩
    · exact soundPart_map (fun a => soundField_share (by decide) (by decide) a) (fun _ => rfl) alpha
    · exact soundPart_map (fun _ => soundField_free (by decide) _) (fun _ => rfl) fusion

/-- The threshold of a search; some have none. -/
def threshold : Search → Threshold
  | nearText _ t _ _ => t
  | nearVector _ _ t => t
  | nearObject _ t => t
  | nearImage _ t => t
  | nearMedia _ _ t => t
  | _ => .absent

/-- Only the threshold gives a search its certainty and its distance. -/
lemma mem_parts_threshold {s : Search} {name : String} {v : Value} (hname : name = "certainty" ∨ name = "distance")
    (h : (name, some v) ∈ s.parts) : (name, some v) ∈ s.threshold.parts := by
  cases s with
  | nearMedia kind data threshold =>
    have hkinds : ∀ e ∈ mediaArguments, ¬(e.1 = "certainty" ∨ e.1 = "distance") := by decide
    obtain heq | hmem := List.mem_cons.1 h
    · rw [(Prod.mk.inj heq).1] at hname
      exact absurd hname (hkinds _ (mem_mediaArguments kind))
    · exact hmem
  | fetchAll | fetchById | bm25 | hybrid => obtain rfl | rfl := hname <;> simp [parts] at h
  | _ => obtain rfl | rfl := hname <;> simpa [parts, Search.threshold] using h

/-- A threshold is a certainty or a distance. -/
lemma not_both_thresholds (t : Threshold) :
    ¬((∃ x, ("certainty", some x) ∈ t.parts) ∧ ∃ x, ("distance", some x) ∈ t.parts) := by
  cases t <;> simp [Threshold.parts, Threshold.certainty?, Threshold.distance?]

/-- The fields of an argument, at any depth, are parts of the search or fields of a shift. -/
lemma mem_fields_of_argument {s : Search} {name n : String} {v x : Value} (h : s.argument = .ok (some (name, v)))
    (hmem : (n, x) ∈ v.fields) : SoundField n x ∧ ((n, some x) ∈ s.parts ∨ n ∈ ["concepts", "force"]) := by
  have hcomplete : s.isComplete = true := s.needs_argument.exists_ok_iff.1 ⟨_, h⟩
  rw [eq_present_of_argument h, fields_object, List.mem_flatMap] at hmem
  obtain ⟨⟨m, y⟩, hpart, hmem⟩ := hmem
  obtain ⟨hfield, hfields⟩ := soundPart_parts hcomplete _ (mem_present.1 hpart) y rfl
  obtain heq | hinner := List.mem_cons.1 hmem
  · obtain ⟨rfl, rfl⟩ := Prod.mk.inj heq
    exact ⟨hfield, .inl (mem_present.1 hpart)⟩
  · obtain ⟨hinner, hname⟩ := hfields _ hinner
    exact ⟨hinner, .inr hname⟩

theorem soundArgument {s : Search} {name : String} {v : Value} (h : s.argument = .ok (some (name, v))) :
    SoundArgument v where
  field _ _ hmem := (mem_fields_of_argument h hmem).1
  threshold := by
    rintro ⟨⟨x, hx⟩, y, hy⟩
    have hcertainty := (mem_fields_of_argument h hx).2.resolve_right (by decide)
    have hdistance := (mem_fields_of_argument h hy).2.resolve_right (by decide)
    exact not_both_thresholds s.threshold
      ⟨⟨x, mem_parts_threshold (.inl rfl) hcertainty⟩, y, mem_parts_threshold (.inr rfl) hdistance⟩

end Search

end VectorQuery
