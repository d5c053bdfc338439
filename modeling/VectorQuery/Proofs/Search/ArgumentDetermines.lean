import VectorQuery.Proofs.Search.ArgumentParts

/-! The argument of a search determines the search, up to how its numbers were written. Only a search for an image
can be written in two ways, by itself and as one among the media. -/
namespace VectorQuery
open GraphQL (Value)
open GraphQL.Value

/-! ### Numbers as doubles -/

/-- The number as a double. -/
def Quantity.asDouble (q : Quantity) : Quantity := ⟨.float q.toDouble, q.isFinite_toDouble⟩

/-- The share as a double. -/
def Share.asDouble (c : Share) : Share := ⟨c.toQuantity.asDouble, c.inUnit_float_toDouble⟩

def Threshold.inDoubles : Threshold → Threshold
  | absent => absent
  | certainty c => certainty c.asDouble
  | distance d => distance d.asDouble

def Move.inDoubles (m : Move) : Move := ⟨m.concepts, m.force.map Share.asDouble⟩

namespace Search

/-- The search with all its numbers as doubles. -/
def inDoubles : Search → Search
  | nearText concepts threshold moveTo moveAway =>
    nearText concepts threshold.inDoubles (moveTo.map Move.inDoubles) (moveAway.map Move.inDoubles)
  | nearVector first rest threshold =>
    nearVector (first.map Quantity.asDouble) (rest.map (·.map Quantity.asDouble)) threshold.inDoubles
  | nearObject id threshold => nearObject id threshold.inDoubles
  | nearImage data threshold => nearImage data threshold.inDoubles
  | nearMedia kind data threshold => nearMedia kind data threshold.inDoubles
  | hybrid query alpha fusion properties => hybrid query (alpha.map Share.asDouble) fusion properties
  | s => s

/-- A search for an image among the media is the search for an image. -/
def asImage : Search → Search
  | nearMedia kind data threshold =>
    if kind.text.content = "image" then nearImage data threshold else nearMedia kind data threshold
  | s => s

end Search

/-! ### Equal views -/

namespace Datum

lemma same_tuple {ds es : List Datum} (h : List.Forall₂ (fun d e => d.same e = true) ds es) :
    (tuple ds).same (tuple es) = true := by
  rw [same]
  induction h with
  | nil => simp [sameItems]
  | cons hhead _ ih => rw [sameItems, hhead, ih, Bool.and_self]

/-- Fields of the same names with equal values. -/
def SameFields : List (String × Datum) → List (String × Datum) → Prop :=
  List.Forall₂ fun f g => f.1 = g.1 ∧ f.2.same g.2 = true

lemma same_record {name : String} {fs gs : List (String × Datum)} (h : SameFields fs gs) :
    (record name fs).same (record name gs) = true := by
  rw [same, beq_self_eq_true, Bool.true_and]
  induction h with
  | nil => simp [sameFields]
  | @cons f g fs gs hhead _ ih =>
    obtain ⟨n, v⟩ := f
    obtain ⟨m, w⟩ := g
    obtain ⟨rfl, hsame⟩ := hhead
    rw [sameFields, beq_self_eq_true, hsame, ih, Bool.and_self, Bool.and_self]

end Datum

lemma same_ofText (a b : MarkedText) : Same (.ofText a) (.ofText b) ↔ (Datum.text a).same (.text b) = true := by
  cases a <;> cases b <;> simp [Same, data, ofText, Datum.str, Datum.same, MarkedText.same, MarkedText.content]

lemma same_phrases {ps qs : Phrases} (h : Same (.ofTexts ps.texts) (.ofTexts qs.texts)) :
    ps.view.same qs.view = true := by
  refine Datum.same_tuple ?_
  have htexts := h.list
  simp only [Phrases.texts, List.forall₂_map_left_iff, List.forall₂_map_right_iff, same_ofText] at htexts ⊢
  exact htexts

/-- Where a part that may be absent agrees, so does its view. -/
lemma same_viewOption {α : Type} {f : α → Value} {view : α → Datum} {o o' : Option α}
    (hview : ∀ a b, Same (f a) (f b) → (view a).same (view b) = true) (h : Agree (o.map f) (o'.map f)) :
    (viewOption view o).same (viewOption view o') = true := by
  cases o with
  | none =>
    cases o' with
    | none => simp [viewOption, Datum.same]
    | some b => cases h
  | some a =>
    cases o' with
    | none => cases h
    | some b => exact hview a b (agree_some h)

/-! ### Parts and views -/

lemma viewOption_map {α β : Type} (view : β → Datum) (g : α → β) (o : Option α) :
    viewOption view (o.map g) = viewOption (fun a => view (g a)) o := by
  cases o <;> rfl

/-- Equal numbers in values are equal numbers in views. -/
lemma same_numberValue {α : Type} {toDouble : α → Double} {o o' : Option α}
    (h : Same (numberValue toDouble o) (numberValue toDouble o')) :
    (viewOption (fun a => .float (toDouble a)) o).same (viewOption (fun a => .float (toDouble a)) o') = true := by
  cases o <;> cases o' <;> exact h

lemma same_viewOption_number {α : Type} {toDouble : α → Double} {o o' : Option α}
    (h : Agree (o.map fun a => .float (toDouble a)) (o'.map fun a => .float (toDouble a))) :
    (viewOption (fun a => .float (toDouble a)) o).same (viewOption (fun a => .float (toDouble a)) o') = true :=
  same_viewOption (f := fun a => .float (toDouble a)) (fun _ _ h => h) h

lemma Move.same_view {m m' : Move} (h : Same m.wireValue m'.wireValue) :
    m.inDoubles.view.same m'.inDoubles.view = true := by
  have hparts : PartsAgree
      [("concepts", some (.ofTexts m.concepts.texts)), ("force", some (numberValue (·.toDouble) m.force))]
      [("concepts", some (.ofTexts m'.concepts.texts)), ("force", some (numberValue (·.toDouble) m'.force))] :=
    agree_of_same rfl (by decide : ["concepts", "force"].Nodup) h
  simp only [List.forall₂_cons] at hparts
  obtain ⟨hconcepts, hforce, -⟩ := hparts
  have hview := same_numberValue (agree_some hforce)
  refine Datum.same_record (.cons ⟨rfl, same_phrases (agree_some hconcepts)⟩ (.cons ⟨rfl, ?_⟩ .nil))
  simp only [inDoubles, viewOption_map]
  exact hview

lemma Move.same_optional {o o' : Option Move} (h : Agree (o.map Move.wireValue) (o'.map Move.wireValue)) :
    (viewOption view (o.map inDoubles)).same (viewOption view (o'.map inDoubles)) = true := by
  rw [viewOption_map, viewOption_map]
  exact same_viewOption (fun _ _ => Move.same_view) h

lemma FusionType.same_optional {o o' : Option FusionType}
    (h : Agree (o.map fun f => .enum f.text.content) (o'.map fun f => .enum f.text.content)) :
    (viewOption (fun f => .text f.text) o).same (viewOption (fun f => .text f.text) o') = true := by
  refine same_viewOption (f := fun f => .enum f.text.content) (fun a b hab => ?_) h
  simpa [Same, data, Datum.same, MarkedText.same] using hab

namespace Threshold

lemma certaintyView_inDoubles (t : Threshold) :
    t.inDoubles.certaintyView = viewOption (fun c => .float c.toDouble) t.certainty? := by
  cases t <;> rfl

lemma distanceView_inDoubles (t : Threshold) :
    t.inDoubles.distanceView = viewOption (fun d => .float d.toDouble) t.distance? := by
  cases t <;> rfl

lemma same_thresholdFields {t t' : Threshold} (h : PartsAgree t.parts t'.parts) :
    Datum.SameFields (Search.thresholdFields t.inDoubles) (Search.thresholdFields t'.inDoubles) := by
  simp only [parts, List.forall₂_cons] at h
  obtain ⟨hcertainty, hdistance, -⟩ := h
  unfold Search.thresholdFields
  rw [certaintyView_inDoubles, certaintyView_inDoubles, distanceView_inDoubles, distanceView_inDoubles]
  exact .cons ⟨rfl, same_viewOption_number hcertainty⟩ (.cons ⟨rfl, same_viewOption_number hdistance⟩ .nil)

end Threshold

namespace Search

lemma nodup_names (s : Search) : (s.parts.map Prod.fst).Nodup := by
  cases s with
  | nearMedia kind data threshold =>
    have hkinds : ∀ e ∈ mediaArguments, [e.1, "certainty", "distance"].Nodup := by decide
    exact hkinds _ (mem_mediaArguments kind)
  | fetchAll | fetchById => exact List.nodup_nil
  | nearText => exact (by decide : ["concepts", "certainty", "distance", "moveTo", "moveAwayFrom"].Nodup)
  | nearVector => exact (by decide : ["vector", "certainty", "distance"].Nodup)
  | nearObject => exact (by decide : ["id", "certainty", "distance"].Nodup)
  | nearImage => exact (by decide : ["image", "certainty", "distance"].Nodup)
  | bm25 => exact (by decide : ["query", "properties"].Nodup)
  | hybrid => exact (by decide : ["query", "alpha", "fusionType", "properties"].Nodup)

lemma same_vector {qs rs : List (Option Quantity)}
    (h : Same (.list (qs.map (numberValue Quantity.toDouble))) (.list (rs.map (numberValue Quantity.toDouble)))) :
    (Datum.tuple ((qs.map (·.map Quantity.asDouble)).map (viewOption Quantity.view))).same
      (.tuple ((rs.map (·.map Quantity.asDouble)).map (viewOption Quantity.view))) = true := by
  refine Datum.same_tuple ?_
  have hitems := h.list
  simp only [List.forall₂_map_left_iff, List.forall₂_map_right_iff, viewOption_map] at hitems ⊢
  exact hitems.imp fun _ _ => same_numberValue

variable {s t : Search} {name : String}

lemma agree_parts (h : Same (object (present s.parts)) (object (present t.parts)))
    (hnames : s.parts.map Prod.fst = t.parts.map Prod.fst) : PartsAgree s.parts t.parts :=
  agree_of_same hnames t.nodup_names h

/-- A text, and a threshold after it. -/
lemma sameFields_text_threshold {field m n : String} {p q : Phrase} {x y : Threshold}
    (h : PartsAgree ((m, some (.ofText p.text)) :: x.parts) ((n, some (.ofText q.text)) :: y.parts)) :
    Datum.SameFields ((field, p.view) :: thresholdFields x.inDoubles)
      ((field, q.view) :: thresholdFields y.inDoubles) := by
  obtain ⟨htext, hthreshold⟩ := List.forall₂_cons.1 h
  exact .cons ⟨rfl, (same_ofText _ _).1 (agree_some htext)⟩ (Threshold.same_thresholdFields hthreshold)

lemma content_eq_of_argument_eq {k l : MediaKind} (h : k.argument = l.argument) :
    k.text.content = l.text.content := by
  have hinjective : ∀ p ∈ mediaArguments, ∀ q ∈ mediaArguments, p.2 = q.2 → p.1 = q.1 := by decide
  exact hinjective _ (mem_mediaArguments k) _ (mem_mediaArguments l) h

/-! ### Searches of one kind -/

lemma same_nearText {c c' : Phrases} {x x' : Threshold} {m m' n n' : Option Move}
    (h : PartsAgree (nearText c x m n).parts (nearText c' x' m' n').parts) :
    (nearText c x m n).inDoubles.view.same (nearText c' x' m' n').inDoubles.view = true := by
  simp only [parts, Threshold.parts, List.cons_append, List.nil_append, List.forall₂_cons] at h
  obtain ⟨hconcepts, hcertainty, hdistance, hto, haway, -⟩ := h
  have hthreshold := Threshold.same_thresholdFields (.cons hcertainty (.cons hdistance .nil))
  exact Datum.same_record (.cons ⟨rfl, same_phrases (agree_some hconcepts)⟩ (List.rel_append hthreshold
    (.cons ⟨rfl, Move.same_optional hto⟩ (.cons ⟨rfl, Move.same_optional haway⟩ .nil))))

lemma same_nearVector {q q' : Option Quantity} {qs qs' : List (Option Quantity)} {x x' : Threshold}
    (h : PartsAgree (nearVector q qs x).parts (nearVector q' qs' x').parts) :
    (nearVector q qs x).inDoubles.view.same (nearVector q' qs' x').inDoubles.view = true := by
  obtain ⟨hvector, hthreshold⟩ := List.forall₂_cons.1 h
  exact Datum.same_record (.cons ⟨rfl, same_vector (agree_some hvector)⟩ (Threshold.same_thresholdFields hthreshold))

lemma same_nearMedia {kind kind' : MediaKind} {p q : Phrase} {x y : Threshold}
    (hkind : kind.text.content = kind'.text.content)
    (h : PartsAgree (nearMedia kind p x).parts (nearMedia kind' q y).parts) :
    (nearMedia kind p x).inDoubles.view.same (nearMedia kind' q y).inDoubles.view = true := by
  have hsame : (Datum.text kind.text).same (.text kind'.text) = true := by
    simp [Datum.same, MarkedText.same, hkind]
  exact Datum.same_record (.cons ⟨rfl, hsame⟩ (sameFields_text_threshold h))

lemma same_bm25 {q q' : Phrase} {ps ps' : Option Phrases} (h : PartsAgree (bm25 q ps).parts (bm25 q' ps').parts) :
    (bm25 q ps).inDoubles.view.same (bm25 q' ps').inDoubles.view = true := by
  simp only [parts, List.forall₂_cons] at h
  obtain ⟨hquery, hproperties, -⟩ := h
  exact Datum.same_record (.cons ⟨rfl, (same_ofText _ _).1 (agree_some hquery)⟩
    (.cons ⟨rfl, same_viewOption (fun _ _ => same_phrases) hproperties⟩ .nil))

lemma same_hybrid {q q' : Phrase} {alpha alpha' : Option Share} {f f' : Option FusionType} {ps ps' : Option Phrases}
    (h : PartsAgree (hybrid q alpha f ps).parts (hybrid q' alpha' f' ps').parts) :
    (hybrid q alpha f ps).inDoubles.view.same (hybrid q' alpha' f' ps').inDoubles.view = true := by
  simp only [parts, List.forall₂_cons] at h
  obtain ⟨hquery, halpha, hfusion, hproperties, -⟩ := h
  refine Datum.same_record (.cons ⟨rfl, (same_ofText _ _).1 (agree_some hquery)⟩ (.cons ⟨rfl, ?_⟩
    (.cons ⟨rfl, FusionType.same_optional hfusion⟩
      (.cons ⟨rfl, same_viewOption (fun _ _ => same_phrases) hproperties⟩ .nil))))
  simp only [viewOption_map]
  exact same_viewOption_number halpha

/-- Searches of one kind whose arguments have the same name and equal parts are equal, once their numbers are
doubles. -/
theorem same_view_inDoubles (hkind : s.kindName = t.kindName) (hs : s.argumentName? = some name)
    (ht : t.argumentName? = some name) (h : Same (object (present s.parts)) (object (present t.parts))) :
    s.inDoubles.view.same t.inDoubles.view = true := by
  -- of the kinds of the second search only that of the first is left, and so the parts have the same names
  cases s with
  | fetchAll | fetchById => cases hs
  | nearText =>
    cases t with
    | nearText => exact same_nearText (agree_parts h rfl)
    | _ => simp [kindName] at hkind
  | nearVector =>
    cases t with
    | nearVector => exact same_nearVector (agree_parts h rfl)
    | _ => simp [kindName] at hkind
  | nearObject =>
    cases t with
    | nearObject => exact Datum.same_record (sameFields_text_threshold (agree_parts h rfl))
    | _ => simp [kindName] at hkind
  | nearImage =>
    cases t with
    | nearImage => exact Datum.same_record (sameFields_text_threshold (agree_parts h rfl))
    | _ => simp [kindName] at hkind
  | nearMedia kind =>
    cases t with
    | nearMedia kind' =>
      have hcontent := content_eq_of_argument_eq (Option.some.inj (hs.trans ht.symm))
      exact same_nearMedia hcontent (agree_parts h (congrArg (· :: ["certainty", "distance"]) hcontent))
    | _ => simp [kindName] at hkind
  | bm25 =>
    cases t with
    | bm25 => exact same_bm25 (agree_parts h rfl)
    | _ => simp [kindName] at hkind
  | hybrid =>
    cases t with
    | hybrid => exact same_hybrid (agree_parts h rfl)
    | _ => simp [kindName] at hkind

/-! ### Images -/

lemma argument_image {kind : MediaKind} (h : kind.text.content = "image") : kind.argument = "nearImage" := by
  have himage : ∀ e ∈ mediaArguments, e.1 = "image" → e.2 = "nearImage" := by decide
  exact himage _ (mem_mediaArguments kind) h

/-- Both ways to search for an image have the same argument. -/
lemma argument_asImage (s : Search) : s.asImage.argument = s.argument := by
  cases s with
  | nearMedia kind data threshold =>
    rw [asImage]
    split
    next himage => rw [argument, argument, argument_image himage, himage]
    next => rfl
  | _ => rfl

/-- The kind of search that an argument belongs to; those that only media have belong to these. -/
def kindOfArgument (name : String) : String :=
  match [("nearText", "NearText"), ("nearVector", "NearVector"), ("nearObject", "NearObject"),
      ("nearImage", "NearImage"), ("bm25", "Bm25"), ("hybrid", "Hybrid")].lookup name with
  | some kind => kind
  | none => "NearMedia"

lemma kindName_asImage (h : s.argumentName? = some name) : s.asImage.kindName = kindOfArgument name := by
  cases s with
  | fetchAll | fetchById => cases h
  | nearMedia kind data threshold =>
    obtain rfl := Option.some.inj h
    rw [asImage]
    split
    next himage =>
      rw [argument_image himage]
      rfl
    next himage =>
      have hmedia : ∀ e ∈ mediaArguments, e.1 ≠ "image" → kindOfArgument e.2 = "NearMedia" := by decide
      exact (hmedia _ (mem_mediaArguments kind) himage).symm
  | _ =>
    obtain rfl := Option.some.inj h
    rfl

/-! ### Arguments and searches -/

/-- The argument of a search is sound, and determines the search: where another search has an equal name and an
equal value, as data, the two are equal once their numbers are doubles and media that are images are images. -/
theorem argument_determines {v : Value} (hs : s.argument = .ok (some (name, v))) :
    SoundArgument v ∧ ∀ (t : Search) (other : String) (w : Value), t.argument = .ok (some (other, w)) →
      (Datum.tuple [.str name, v.data]).same (.tuple [.str other, w.data]) = true →
      s.asImage.inDoubles.view.same t.asImage.inDoubles.view = true := by
  refine ⟨soundArgument hs, fun t other w ht h => ?_⟩
  obtain ⟨rfl, hsame⟩ : name = other ∧ Same v w := by
    simpa [Datum.same, Datum.sameItems, Datum.str, MarkedText.same, Same] using h
  have hkind : s.asImage.kindName = t.asImage.kindName := by
    rw [kindName_asImage (argument_name_value hs).1.symm, kindName_asImage (argument_name_value ht).1.symm]
  rw [← argument_asImage] at hs ht
  rw [eq_present_of_argument hs, eq_present_of_argument ht] at hsame
  exact same_view_inDoubles hkind (argument_name_value hs).1.symm (argument_name_value ht).1.symm hsame

/-- An image among the media, with its certainty as an integer. -/
def photo : Search :=
  .nearMedia ⟨.plain "image", by decide⟩ ⟨.plain "aGk=", by decide⟩
    (.certainty ⟨⟨.int 1, by decide +kernel⟩, by decide +kernel⟩)

/-- The value of the argument of a search for that image. -/
def photoValue : Value := .object [("image", .string "aGk="), ("certainty", .float .one)]

/-- The photo is the image with its certainty as a double. -/
theorem argument_determines_photo :
    photo.argument = .ok (some ("nearImage", photoValue)) ∧ SoundArgument photoValue ∧
      photo.asImage.inDoubles.view.same
        (nearImage ⟨.plain "aGk=", by decide⟩ (.certainty .whole)).asImage.inDoubles.view = true := by
  have hone : (Num.int 1).toDouble?.getD .zero = .one := by decide +kernel
  have hphoto : photo.argument = .ok (some ("nearImage", photoValue)) := by
    simp only [photo, argument, Threshold.wire, Quantity.toDouble, hone]
    rfl
  have hsame : (Datum.tuple [.str "nearImage", photoValue.data]).same
      (.tuple [.str "nearImage", photoValue.data]) = true := by decide +kernel
  obtain ⟨hsound, hdetermines⟩ := argument_determines hphoto
  exact ⟨hphoto, hsound, hdetermines _ _ photoValue rfl hsame⟩

end Search

end VectorQuery
