import VectorQuery.Proofs.Checked
import VectorQuery.Term.Aggregate

/-! Checks of values that were checked before. What a slot holds passes the check of that slot again and stays
what it is. -/
namespace VectorQuery

/-- Where a reading takes every view back, it takes a list of views back. -/
lemma mapM_view {α β : Type} {m : Type → Type} [Monad m] [LawfulMonad m] {view : α → β} {read : β → m α}
    (hread : ∀ a, read (view a) = pure a) (as : List α) : (as.map view).mapM read = pure as := by
  have hcomp : read ∘ view = fun a => pure a := funext hread
  rw [List.mapM_map, hcomp, List.mapM_pure, List.map_id']

/-! ### Single values -/

@[simp] lemma Name.check_view (what : String) (n : Name) : Name.check what n.view = .ok n := dif_pos n.valid

@[simp] lemma FieldText.check_view (what : String) (f : FieldText) : FieldText.check what f.view = .ok f :=
  dif_pos f.valid

@[simp] lemma Count.check_view (subject : String) (c : Count) : Count.check subject c.view = .ok c :=
  dif_pos c.positive

@[simp] lemma Tenant.check_view (t : Tenant) : Tenant.check t.view = .ok t := dif_pos t.nonempty

@[simp] lemma ConsistencyLevel.check_view (l : ConsistencyLevel) : ConsistencyLevel.check l.view = .ok l := by
  have h : ConsistencyLevel.ofDatum? l.view = some l := dif_pos l.known
  unfold ConsistencyLevel.check
  rw [h]

@[simp] lemma checkNatural_int (subject : String) (n : Nat) : checkNatural subject (.int n) = .ok n := by
  unfold checkNatural
  exact if_pos (Int.natCast_nonneg n)

@[simp] lemma Path.check_view (p : Path) : Path.check p.view = .ok p := by
  have htext : ∀ t, (Datum.text t).text? = pure t := fun _ => rfl
  have htexts : (itemsOf p.view).map (·.mapM Datum.text?) = .ok (some p.segments) :=
    congrArg Except.ok (mapM_view htext p.segments)
  unfold Path.check
  change (((itemsOf p.view).map (·.mapM Datum.text?)) >>= _) = _
  rw [htexts]
  exact dif_pos p.valid

@[simp] lemma Phrase.check_view (subject : String) (p : Phrase) : Phrase.check subject p.view = .ok p :=
  dif_pos p.valid

@[simp] lemma Phrases.check_view (name : String) (ps : Phrases) : Phrases.check name ps.view = .ok ps := by
  change ((ps.toList.map Phrase.view).mapM (Phrase.check (name ++ " concept")) >>= _) = _
  rw [mapM_view (Phrase.check_view _)]
  rfl

@[simp] lemma Metric.check_view (m : Metric) : Metric.check m.view = .ok m := by
  have h : (m.view.text?.bind fun t => Metric.ofSymbol? t.content) = some m := Metric.ofSymbol?_symbol m
  unfold Metric.check
  rw [h]

@[simp] lemma MediaKind.check_text (k : MediaKind) : MediaKind.check (.text k.text) = .ok k := dif_pos k.known

@[simp] lemma FusionType.check_text (f : FusionType) : FusionType.check (.text f.text) = .ok f := dif_pos f.known

@[simp] lemma SortSpec.ofTerm_sort (s : SortSpec) : SortSpec.ofTerm (.object (.sort s)) = .ok s := rfl

@[simp] lemma AggregateSlots.checkEntry_metrics (p : PropertyMetrics) :
    checkEntry (.object (.metrics p)) = .ok p := rfl

/-! ### Values that may be absent -/

section

variable {α : Type} {view : α → Datum} {check : Datum → Checked α}

lemma optional_viewOption (hcheck : ∀ a, check (view a) = .ok a) (hview : ∀ a, view a ≠ .none) (o : Option α) :
    optional check (viewOption view o) = .ok o := by
  cases o with
  | none => rfl
  | some a =>
    change optional check (view a) = .ok (some a)
    unfold optional
    split
    next h => exact absurd h (hview a)
    next => rw [hcheck]; rfl

lemma Term.optionalObject_ofOption {read : Object → Option α} {refuse : Datum → Checked (Option α)}
    (wrap : α → Object) (hread : ∀ a, read (wrap a) = some a) (o : Option α) :
    Term.optionalObject read refuse (.ofOption wrap o) = .ok o := by
  cases o with
  | none => rfl
  | some a => simp [Term.optionalObject, Term.ofOption, hread]

end

lemma Search.checkMove_ofOption (m : Option Move) : checkMove (.ofOption .move m) = .ok m :=
  Term.optionalObject_ofOption .move (fun _ => rfl) m

lemma QuerySlots.checkSearch_ofOption (s : Option Search) : checkSearch (.ofOption .search s) = .ok s :=
  Term.optionalObject_ofOption .search (fun _ => rfl) s

lemma checkFilter_ofOption (f : Option Filter) : checkFilter (.ofOption .filter f) = .ok f :=
  Term.optionalObject_ofOption .filter (fun _ => rfl) f

lemma QuerySlots.checkGroupBy_ofOption (g : Option GroupBySpec) : checkGroupBy (.ofOption .groupBy g) = .ok g :=
  Term.optionalObject_ofOption .groupBy (fun _ => rfl) g

lemma QuerySlots.checkGenerate_ofOption (g : Option GenerateDirective) :
    checkGenerate (.ofOption .directive g) = .ok g :=
  Term.optionalObject_ofOption .directive (fun _ => rfl) g

lemma AggregateSlots.checkSearch_ofOption (s : Option AggregateSearch) :
    checkSearch (.ofOption (fun s => .search s.search) s) = .ok s := by
  unfold checkSearch
  apply Term.optionalObject_ofOption
  intro s
  exact dif_pos s.aggregable

end VectorQuery
