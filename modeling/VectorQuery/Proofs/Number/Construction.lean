import VectorQuery.Proofs.Number.NumberTests
import VectorQuery.Proofs.Term.Normalized
import VectorQuery.Search.Argument
import VectorQuery.Generate.Clause

/-! Constructions from numbers: any integers and doubles where a filter value, a shift, a search or provider
parameters take numbers. What is accepted sends every number as its nearest double, which is finite. -/
namespace VectorQuery
open GraphQL (Value)
open NumberTest

namespace GraphQL.Value

mutual

/-- The doubles of a value, from left to right. -/
def doubles : Value → List Double
  | .float d => [d]
  | .list xs => itemsDoubles xs
  | .object fs => fieldsDoubles fs
  | _ => []

def itemsDoubles : List Value → List Double
  | [] => []
  | x :: r => x.doubles ++ itemsDoubles r

def fieldsDoubles : List (String × Value) → List Double
  | [] => []
  | (_, v) :: r => v.doubles ++ fieldsDoubles r

end

@[simp] lemma doubles_ofText (t : MarkedText) : (ofText t).doubles = [] := by cases t <;> rfl

@[simp] lemma doubles_ofTexts (ts : List MarkedText) : (ofTexts ts).doubles = [] := by
  change itemsDoubles (ts.map ofText) = []
  induction ts with
  | nil => rfl
  | cons t ts ih => simp [itemsDoubles, ih]

@[simp] lemma fieldsDoubles_append (fs gs : List (String × Value)) :
    fieldsDoubles (fs ++ gs) = fieldsDoubles fs ++ fieldsDoubles gs := by
  induction fs with
  | nil => rfl
  | cons f fs ih => simp [fieldsDoubles, ih]

lemma itemsDoubles_map (qs : List Quantity) :
    itemsDoubles (qs.map fun q => .float q.toDouble) = qs.map Quantity.toDouble := by
  induction qs with
  | nil => rfl
  | cons q qs ih => simp [itemsDoubles, doubles, ih]

end GraphQL.Value

/-- What is constructed from numbers. -/
inductive Numeric
  | value (v : FilterValue)
  | move (m : Move)
  | search (s : Search)
  | params (p : ProviderParams)

/-- The doubles that are sent. -/
def Numeric.doubles : Numeric → Checked (List Double)
  | value v => .ok v.wire.doubles
  | move m => m.wire.map Value.doubles
  | search s => s.argument.map fun a => Value.fieldsDoubles a.toList
  | params p => .ok (Value.fieldsDoubles p.wire)

/-- A construction from numbers. Whatever else it takes is accepted before. -/
inductive NumericCall
  | number (value : Num)
  | numberList (items : List Num)
  | geoRange (latitude longitude distance : Num)
  | move (concepts : Phrases) (force : Num)
  | nearText (concepts : Phrases) (certainty distance : Option Num) (toward away : Option (Phrases × Share))
  | nearVector (vector : List Num) (certainty distance : Option Num)
  | nearObject (id : Phrase) (certainty distance : Option Num)
  | nearImage (data : Phrase) (certainty distance : Option Num)
  | nearMedia (kind : MediaKind) (data : Phrase) (certainty distance : Option Num)
  | hybrid (query : Phrase) (alpha : Option Num) (fusion : Option FusionType) (properties : Option Phrases)
  | providerParams (model : Option Phrase) (temperature : Option Num) (maxTokens : Option Count) (topP : Option Num)

namespace NumericCall

/-- A shift with its force. -/
def shift (m : Phrases × Share) : Move := ⟨m.1, some m.2⟩

/-- The checks of a construction, with the numbers as the caller wrote them. -/
def construct : NumericCall → Checked Numeric
  | number n => (FilterValue.checkNumber (.num n)).map .value
  | numberList ns => (FilterValue.checkNumberList (.list (ns.map .num))).map .value
  | geoRange lat lon dist => (FilterValue.checkGeoRange (.num lat) (.num lon) (.num dist)).map .value
  | move concepts force => (Move.check concepts.view (.num force)).map .move
  | nearText concepts certainty distance toward away =>
    (Search.checkNearText concepts.view (viewOption .num certainty) (viewOption .num distance)
      (.ofOption .move (toward.map shift)) (.ofOption .move (away.map shift))).map .search
  | nearVector vector certainty distance =>
    (Search.checkNearVector (.list (vector.map .num)) (viewOption .num certainty)
      (viewOption .num distance)).map .search
  | nearObject id certainty distance =>
    (Search.checkNearObject id.view (viewOption .num certainty) (viewOption .num distance)).map .search
  | nearImage data certainty distance =>
    (Search.checkNearImage data.view (viewOption .num certainty) (viewOption .num distance)).map .search
  | nearMedia kind data certainty distance =>
    (Search.checkNearMedia (.text kind.text) data.view (viewOption .num certainty)
      (viewOption .num distance)).map .search
  | hybrid query alpha fusion properties =>
    (Search.checkHybrid query.view (viewOption .num alpha) (viewOption (fun f => .text f.text) fusion)
      (viewOption Phrases.view properties)).map .search
  | providerParams model temperature maxTokens topP =>
    (ProviderParams.check (viewOption Phrase.view model) (viewOption .num temperature)
      (viewOption Count.view maxTokens) (viewOption .num topP)).map .params

/-- The numbers in the order in which they are sent. -/
def numbers : NumericCall → List Num
  | number n => [n]
  | numberList ns => ns
  | geoRange lat lon dist => [lat, lon, dist]
  | move _ force => [force]
  | nearText _ certainty distance toward away => certainty.toList ++ distance.toList ++
      toward.toList.map (·.2.num) ++ away.toList.map (·.2.num)
  | nearVector vector certainty distance => vector ++ (certainty.toList ++ distance.toList)
  | nearObject _ certainty distance | nearImage _ certainty distance | nearMedia _ _ certainty distance =>
    certainty.toList ++ distance.toList
  | hybrid _ alpha _ _ => alpha.toList
  | providerParams _ temperature _ topP => temperature.toList ++ topP.toList

/-- The tests of a threshold. -/
def thresholdTests (certainty distance : Option Num) : List NumberTest :=
  certainty.toList.map (⟨·, true⟩) ++ distance.toList.map (⟨·, false⟩)

/-- The tests of the numbers, in order. An empty vector is rejected before any other number is looked at, and the
last parameter, a share, is compared without a test. -/
def tests : NumericCall → List NumberTest
  | number n => [⟨n, false⟩]
  | numberList ns => ns.map (⟨·, false⟩)
  | geoRange lat lon dist => [lat, lon, dist].map (⟨·, false⟩)
  | move _ force => [⟨force, true⟩]
  | nearVector [] _ _ => []
  | nearVector vector certainty distance => vector.map (⟨·, false⟩) ++ thresholdTests certainty distance
  | nearText _ certainty distance _ _ | nearObject _ certainty distance | nearImage _ certainty distance
  | nearMedia _ _ certainty distance => thresholdTests certainty distance
  | hybrid _ alpha _ _ => alpha.toList.map (⟨·, true⟩)
  | providerParams _ temperature _ _ => temperature.toList.map (⟨·, false⟩)

/-- Whether a number is at most so far from zero. -/
def within (bound : Int) (n : Num) : Bool := Num.le (.int (-bound)) n && Num.le n (.int bound)

/-- At most one of the two bounds of a threshold is given. -/
def oneThreshold (certainty distance : Option Num) : Bool := !(certainty.isSome && distance.isSome)

/-- What is asked of the numbers when all tests are passed. -/
def fits : NumericCall → Bool
  | geoRange lat lon dist => within 90 lat && within 180 lon && !dist.lt (.int 0)
  | nearVector vector certainty distance => !vector.isEmpty && oneThreshold certainty distance
  | nearText _ certainty distance _ _ | nearObject _ certainty distance | nearImage _ certainty distance
  | nearMedia _ _ certainty distance => oneThreshold certainty distance
  | providerParams _ temperature _ topP =>
    temperature.all (fun t => !t.lt (.int 0)) && topP.all fun p => p.isFinite && p.inUnit
  | _ => true

end NumericCall

/-- What is constructed sends the numbers, each as the double of an accepted quantity. -/
def Numeric.Carries (ns : List Num) (x : Numeric) : Prop :=
  ∃ qs : List Quantity, x.doubles = .ok (qs.map Quantity.toDouble) ∧ qs.map Quantity.num = ns

/-! ### Filter values -/

lemma FilterValue.tested_checkNumber (n : Num) :
    Tested true [⟨n, false⟩] (fun v => (Numeric.value v).Carries [n]) (checkNumber (.num n)) :=
  (Quantity.tested_check _ n).map fun q hq => ⟨[q], rfl, congrArg (· :: []) hq⟩

lemma FilterValue.tested_checkNumberList (ns : List Num) :
    Tested true (ns.map (⟨·, false⟩)) (fun v => (Numeric.value v).Carries ns)
      (checkNumberList (.list (ns.map .num))) := by
  have hitems := tested_mapM (fun n => (tested_checkItem (.itemTypes "NumberList" (.list (ns.map .num))) n).mono
    fun q hq => ⟨q, rfl, hq⟩) ns
  refine hitems.map fun qs hqs => ?_
  obtain ⟨qs, rfl, hqs⟩ := hqs
  rw [List.map_id']
  exact ⟨qs, congrArg Except.ok (Value.itemsDoubles_map qs), hqs⟩

lemma FilterValue.tested_checkGeoRange (lat lon dist : Num) :
    Tested (NumericCall.geoRange lat lon dist).fits ([lat, lon, dist].map (⟨·, false⟩))
      (fun v => (Numeric.value v).Carries [lat, lon, dist])
      (checkGeoRange (.num lat) (.num lon) (.num dist)) := by
  refine (Quantity.tested_check _ lat).bind (u := [⟨lon, false⟩, ⟨dist, false⟩]) fun q₁ h₁ => ?_
  refine (Quantity.tested_check _ lon).bind (u := [⟨dist, false⟩]) fun q₂ h₂ => ?_
  refine (Quantity.tested_check _ dist).bind_last fun q₃ h₃ => ?_
  subst h₁ h₂ h₃
  change Tested (NumericCall.within 90 q₁.num && NumericCall.within 180 q₂.num && !q₃.num.lt (.int 0)) [] _
    (if !NumericCall.within 90 q₁.num || !NumericCall.within 180 q₂.num then reject _ else _)
  cases NumericCall.within 90 q₁.num with
  | false => exact tested_reject _
  | true =>
    cases NumericCall.within 180 q₂.num with
    | false => exact tested_reject _
    | true =>
      cases q₃.num.lt (.int 0) with
      | true => exact tested_reject _
      | false => exact tested_ok ⟨[q₁, q₂, q₃], rfl, rfl⟩

/-! ### Searches -/

/-- The value of a shift with a force. -/
def Move.value (concepts : Phrases) (force : Share) : Value :=
  .object [("concepts", .ofTexts concepts.texts), ("force", .float force.toDouble)]

lemma Move.doubles_value (concepts : Phrases) (force : Share) :
    (value concepts force).doubles = [force.toDouble] := by
  simp [value, Value.doubles, Value.fieldsDoubles]

lemma Move.tested_check (concepts : Phrases) (force : Num) :
    Tested true [⟨force, true⟩] (fun m => (Numeric.move m).Carries [force])
      (Move.check concepts.view (.num force)) := by
  unfold Move.check
  rw [Phrases.check_view]
  refine (tested_optional (Share.tested_check "force") (some force)).bind_total fun f hf => ?_
  obtain ⟨c, rfl, rfl⟩ := Option.map_eq_some_iff.1 hf
  exact tested_ok ⟨[c.toQuantity], congrArg Except.ok (doubles_value concepts c), rfl⟩

/-- A threshold sends the number it was made from. -/
lemma Threshold.tested_check (certainty distance : Option Num) :
    Tested (NumericCall.oneThreshold certainty distance) (NumericCall.thresholdTests certainty distance)
      (fun t => ∃ qs : List Quantity, Value.fieldsDoubles t.wire = qs.map Quantity.toDouble ∧
        qs.map Quantity.num = certainty.toList ++ distance.toList)
      (Threshold.check (viewOption .num certainty) (viewOption .num distance)) := by
  refine (tested_optional (Share.tested_check "certainty") certainty).bind fun c hc => ?_
  refine (tested_optional (Quantity.tested_check "distance") distance).bind_last fun d hd => ?_
  subst hc hd
  cases c with
  | none =>
    cases d with
    | none => exact tested_ok ⟨[], rfl, rfl⟩
    | some d => exact tested_ok ⟨[d], rfl, rfl⟩
  | some c =>
    cases d with
    | none => exact tested_ok ⟨[c.toQuantity], rfl, rfl⟩
    | some d => exact tested_reject _

/-- A search whose argument is an object: the doubles of its fields are what it sends. -/
lemma Search.carries_of_argument {z : Search} {name : String} {fs : List (String × Value)} {ns : List Num}
    (h : z.argument = .ok (some (name, .object fs))) {p : List Quantity}
    (hdoubles : Value.fieldsDoubles fs = p.map Quantity.toDouble) (hns : p.map Quantity.num = ns) :
    (Numeric.search z).Carries ns := by
  refine ⟨p, ?_, hns⟩
  simp [Numeric.doubles, h, Except.map, Value.fieldsDoubles, Value.doubles, hdoubles]

/-- The value of a shift that may be absent. -/
lemma Search.moveWire_shift (name : String) (m : Option (Phrases × Share)) :
    ∃ fs, moveWire name (m.map NumericCall.shift) = .ok fs ∧
      Value.fieldsDoubles fs = (m.toList.map (·.2.toQuantity)).map Quantity.toDouble := by
  cases m with
  | none => exact ⟨[], rfl, rfl⟩
  | some m =>
    refine ⟨[(name, Move.value m.1 m.2)], rfl, ?_⟩
    simp [Value.fieldsDoubles, Move.doubles_value]

lemma Search.vectorWire_map (qs : List Quantity) :
    vectorWire (qs.map some) = .ok (qs.map fun q => .float q.toDouble) := by
  induction qs with
  | nil => rfl
  | cons q qs ih =>
    rw [List.map_cons, vectorWire, ih]
    rfl

lemma Search.tested_checkNearText (concepts : Phrases) (certainty distance : Option Num)
    (toward away : Option (Phrases × Share)) :
    Tested (NumericCall.oneThreshold certainty distance) (NumericCall.thresholdTests certainty distance)
      (fun z => (Numeric.search z).Carries (certainty.toList ++ distance.toList ++
        toward.toList.map (·.2.num) ++ away.toList.map (·.2.num)))
      (checkNearText concepts.view (viewOption .num certainty) (viewOption .num distance)
        (.ofOption .move (toward.map NumericCall.shift)) (.ofOption .move (away.map NumericCall.shift))) := by
  unfold checkNearText
  rw [Phrases.check_view, checkMove_ofOption, checkMove_ofOption]
  refine (Threshold.tested_check certainty distance).bind_total fun t ht => ?_
  obtain ⟨qs, hdoubles, hqs⟩ := ht
  obtain ⟨fs, hfs, htoward⟩ := moveWire_shift "moveTo" toward
  obtain ⟨gs, hgs, haway⟩ := moveWire_shift "moveAwayFrom" away
  have hargument : (nearText concepts t (toward.map NumericCall.shift) (away.map NumericCall.shift)).argument =
      .ok (some ("nearText", .object (("concepts", .ofTexts concepts.texts) :: t.wire ++ fs ++ gs))) := by
    rw [argument, hfs, hgs]
    rfl
  refine tested_ok (carries_of_argument hargument (p := qs ++ toward.toList.map (·.2.toQuantity) ++
    away.toList.map (·.2.toQuantity)) ?_ ?_)
  · simp [Value.fieldsDoubles, hdoubles, htoward, haway]
  · simp only [List.map_append, List.map_map, hqs]
    rfl

lemma Search.tested_checkNearVector (vector : List Num) (certainty distance : Option Num) :
    Tested (NumericCall.nearVector vector certainty distance).fits
      (NumericCall.nearVector vector certainty distance).tests
      (fun z => (Numeric.search z).Carries (vector ++ (certainty.toList ++ distance.toList)))
      (checkNearVector (.list (vector.map .num)) (viewOption .num certainty) (viewOption .num distance)) := by
  cases vector with
  | nil => exact tested_reject _
  | cons n ns =>
    unfold checkNearVector
    refine (tested_components (n :: ns)).bind fun qs hqs => ?_
    obtain ⟨ps, rfl, hps⟩ := hqs
    obtain ⟨p, ps, rfl⟩ := List.exists_cons_of_ne_nil (l := ps) (by rintro rfl; cases hps)
    refine (Threshold.tested_check certainty distance).bind_total fun t ht => ?_
    obtain ⟨rs, hdoubles, hrs⟩ := ht
    have hargument : (nearVector (some p) (ps.map some) t).argument = .ok (some ("nearVector",
        .object (("vector", .list ((p :: ps).map fun q => .float q.toDouble)) :: t.wire))) := by
      have hwire := vectorWire_map (p :: ps)
      rw [List.map_cons] at hwire
      rw [argument, hwire]
      rfl
    refine tested_ok (carries_of_argument hargument (p := (p :: ps) ++ rs) ?_ ?_)
    · rw [Value.fieldsDoubles, Value.doubles, Value.itemsDoubles_map, hdoubles, List.map_append]
    · rw [List.map_append, hps, hrs]

/-- A search by one text and a threshold. -/
lemma Search.tested_text {z : Threshold → Search} {name : String} {field : String} {text : MarkedText}
    (h : ∀ t, (z t).argument = .ok (some (name, .object ((field, .ofText text) :: t.wire))))
    (certainty distance : Option Num) : Tested (NumericCall.oneThreshold certainty distance)
      (NumericCall.thresholdTests certainty distance)
      (fun z => (Numeric.search z).Carries (certainty.toList ++ distance.toList))
      (Threshold.check (viewOption .num certainty) (viewOption .num distance) >>= fun t => pure (z t)) := by
  refine (Threshold.tested_check certainty distance).bind_total fun t ht => ?_
  obtain ⟨qs, hdoubles, hqs⟩ := ht
  refine tested_ok (carries_of_argument (h t) ?_ hqs)
  rw [Value.fieldsDoubles, Value.doubles_ofText, List.nil_append, hdoubles]

lemma Search.tested_checkHybrid (query : Phrase) (alpha : Option Num) (fusion : Option FusionType)
    (properties : Option Phrases) : Tested true (alpha.toList.map (⟨·, true⟩))
      (fun z => (Numeric.search z).Carries alpha.toList)
      (checkHybrid query.view (viewOption .num alpha) (viewOption (fun f => .text f.text) fusion)
        (viewOption Phrases.view properties)) := by
  unfold checkHybrid
  have hfusion := optional_viewOption FusionType.check_text (fun _ => nofun) fusion
  have hproperties := optional_viewOption (Phrases.check_view "hybrid properties") (fun _ => nofun) properties
  rw [Phrase.check_view, hfusion, hproperties]
  refine (tested_optional (Share.tested_check "alpha") alpha).bind_total fun a ha => ?_
  subst ha
  refine tested_ok (carries_of_argument rfl (p := a.toList.map (·.toQuantity)) ?_ ?_)
  · cases a <;> cases fusion <;> cases properties <;>
      simp [Value.fieldsDoubles, Value.doubles, propertiesWire]
  · cases a <;> rfl

/-! ### Provider parameters -/

lemma ProviderParams.tested_check (model : Option Phrase) (temperature : Option Num) (maxTokens : Option Count)
    (topP : Option Num) : Tested (NumericCall.providerParams model temperature maxTokens topP).fits
      (temperature.toList.map (⟨·, false⟩))
      (fun p => (Numeric.params p).Carries (temperature.toList ++ topP.toList))
      (check (viewOption Phrase.view model) (viewOption .num temperature) (viewOption Count.view maxTokens)
        (viewOption .num topP)) := by
  unfold check
  have hmodel := optional_viewOption (Phrase.check_view "model") (fun _ => nofun) model
  have hmax := optional_viewOption (Count.check_view "max_tokens") (fun _ => nofun) maxTokens
  rw [hmodel, hmax]
  refine (tested_optional_all tested_checkTemperature temperature).bind_last fun a ha => ?_
  have htopP : Tested (topP.all fun p => p.isFinite && p.inUnit) [] (fun b => b.map (·.num) = topP)
      (optional checkTopP (viewOption .num topP)) := by
    cases topP with
    | none => exact tested_ok rfl
    | some n =>
      rw [optional_num]
      exact (tested_checkTopP n).map fun c hc => congrArg some hc
  refine htopP.bind_total fun b hb => ?_
  subst ha hb
  refine tested_ok ⟨a.toList ++ b.toList.map (·.toQuantity), congrArg Except.ok ?_, ?_⟩
  · cases model <;> cases a <;> cases maxTokens <;> cases b <;>
      simp [wire, setting, Value.fieldsDoubles, Value.doubles]
  · cases a <;> cases b <;> rfl

/-! ### All constructions -/

namespace NumericCall

lemma tested_construct (c : NumericCall) : Tested c.fits c.tests (·.Carries c.numbers) c.construct := by
  cases c with
  | number n => exact (FilterValue.tested_checkNumber n).map fun _ h => h
  | numberList ns => exact (FilterValue.tested_checkNumberList ns).map fun _ h => h
  | geoRange lat lon dist => exact (FilterValue.tested_checkGeoRange lat lon dist).map fun _ h => h
  | move concepts force => exact (Move.tested_check concepts force).map fun _ h => h
  | nearText concepts certainty distance toward away =>
    exact (Search.tested_checkNearText concepts certainty distance toward away).map fun _ h => h
  | nearVector vector certainty distance =>
    exact (Search.tested_checkNearVector vector certainty distance).map fun _ h => h
  | nearObject id certainty distance =>
    rw [construct, Search.checkNearObject, Phrase.check_view]
    exact (Search.tested_text (z := .nearObject id) (fun _ => rfl) certainty distance).map fun _ h => h
  | nearImage data certainty distance =>
    rw [construct, Search.checkNearImage, Phrase.check_view]
    exact (Search.tested_text (z := .nearImage data) (fun _ => rfl) certainty distance).map fun _ h => h
  | nearMedia kind data certainty distance =>
    have hcheck (c d : Datum) : Search.checkNearMedia (.text kind.text) data.view c d =
        Threshold.check c d >>= fun t => pure (.nearMedia kind data t) := by
      rw [Search.checkNearMedia, MediaKind.check_text]
      change (Phrase.check (kind.text.content ++ " data") data.view >>= _) = _
      rw [Phrase.check_view]
      rfl
    rw [construct, hcheck]
    exact (Search.tested_text (z := .nearMedia kind data) (fun _ => rfl) certainty distance).map fun _ h => h
  | hybrid query alpha fusion properties =>
    exact (Search.tested_checkHybrid query alpha fusion properties).map fun _ h => h
  | providerParams model temperature maxTokens topP =>
    exact (ProviderParams.tested_check model temperature maxTokens topP).map fun _ h => h

/-- How a construction from numbers ends. -/
structure Ends (c : NumericCall) : Prop where
  /-- What is accepted sends exactly the numbers, each as its nearest double, and all of these are finite. -/
  accepted : ∀ x, c.construct = .ok x → ∃ ds, x.doubles = .ok ds ∧
    ds.map some = c.numbers.map Num.toDouble? ∧ ∀ d ∈ ds, d.isFinite = true
  /-- Accepted is what passes all tests and fits. -/
  accepted_iff : (∃ x, c.construct = .ok x) ↔ firstFailing c.tests = none ∧ c.fits = true
  /-- What is not accepted is rejected, or has an integer that is too large. -/
  refused : ∀ e, c.construct = .error e → (∃ r, e = .rejected r) ∨ e = .tooLarge
  /-- The fault of too large an integer is met exactly where the first test that is not passed is that of one. -/
  tooLarge_iff : c.construct = .error .tooLarge ↔ ∃ t, firstFailing c.tests = some t ∧ t.number.IsBeyond

theorem ends (c : NumericCall) : c.Ends where
  accepted x hx := by
    obtain ⟨qs, hdoubles, hnum⟩ := c.tested_construct.result_of_ok hx
    refine ⟨qs.map Quantity.toDouble, hdoubles, ?_, ?_⟩
    · rw [← hnum, List.map_map, List.map_map]
      exact List.map_congr_left fun q _ => q.some_toDouble
    · simp only [List.forall_mem_map]
      exact fun q _ => q.isFinite_toDouble
  accepted_iff := c.tested_construct.exists_ok_iff
  refused _ he := c.tested_construct.fault he
  tooLarge_iff := c.tested_construct.tooLarge_iff

/-- An integer of 401 digits is neither accepted nor rejected. -/
theorem construct_number_tooLarge : (number (.int (10 ^ 400))).construct = .error .tooLarge := by
  have hbeyond : (Num.int (10 ^ 400)).IsBeyond := by
    change Double.overflow ≤ Int.natAbs (10 ^ 400)
    decide +kernel
  generalize Num.int (10 ^ 400) = n at hbeyond ⊢
  have hnone : n.toDouble? = none := n.isBeyond_iff.1 hbeyond
  refine (tested_construct _).tooLarge_iff.2 ⟨⟨n, false⟩, ?_, hbeyond⟩
  simp [tests, firstFailing, passes, Num.isFinite, hnone]

end NumericCall

end VectorQuery
