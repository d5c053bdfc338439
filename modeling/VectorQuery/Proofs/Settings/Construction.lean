import VectorQuery.Proofs.Checked
import VectorQuery.Proofs.Number.Overflow
import VectorQuery.Settings.Rendering
import VectorQuery.Transport.OfSettings
import Mathlib.Data.List.DropRight

/-! Building from settings. What is wrong in the rendering section is reported. What is wrong in the connection
section is only noticed where it is used, with a fault that nothing reports; and so it is with a section that is no
dictionary. -/
namespace VectorQuery

/-! ### Faults that are reported, and others -/

/-- A fault of a value that is used without being checked. -/
inductive Fault.IsUnchecked : Fault → Prop
  | wrongType : IsUnchecked .wrongType
  | badValue : IsUnchecked .badValue
  | tooLarge : IsUnchecked .tooLarge
  | noAttribute : IsUnchecked .noAttribute
  | notAscii : IsUnchecked .notAscii
  | isDirectory : IsUnchecked .isDirectory
  | nameTooLong : IsUnchecked .nameTooLong

lemma Fault.IsUnchecked.isReported_eq_false {e : Fault} (h : e.IsUnchecked) : e.isReported = false := by
  cases h <;> rfl

/-- A reported fault, or one of a value that is used without being checked. -/
def Fault.IsKnown (e : Fault) : Prop := e.isReported = true ∨ e.IsUnchecked

namespace Checked

variable {α β : Type} {x : Checked α} {p : Prop}

/-- A result exactly under a condition, and otherwise a fault that nothing reports. -/
structure Demands (x : Checked α) (p : Prop) : Prop where
  exists_ok_iff : (∃ a, x = .ok a) ↔ p
  isUnchecked : FailsIn Fault.IsUnchecked x

lemma demands_ok (a : α) (hp : p) : Demands (.ok a) p := ⟨iff_of_true ⟨a, rfl⟩ hp, failsIn_ok a⟩

lemma demands_error {e : Fault} (he : e.IsUnchecked) (hp : ¬p) : Demands (.error e : Checked α) p :=
  ⟨iff_of_false (fun ⟨_, h⟩ => nomatch h) hp, failsIn_error he⟩

lemma Demands.bind {f : α → Checked β} {q : α → Prop} (hx : Demands x p) (hf : ∀ a, Demands (f a) (q a)) :
    Demands (x >>= f) (∃ a, x = .ok a ∧ q a) := by
  cases x with
  | error e => exact demands_error (hx.isUnchecked e rfl) (by simp)
  | ok a =>
    have hq : (∃ b, Except.ok a = (Except.ok b : Checked α) ∧ q b) ↔ q a := by simp
    rw [hq]
    exact hf a

/-- Where the condition of the rest does not depend on the result before it. -/
lemma Demands.bind_and {f : α → Checked β} {q : Prop} (hx : Demands x p) (hf : ∀ a, Demands (f a) q) :
    Demands (x >>= f) (p ∧ q) := by
  have h := hx.bind hf
  rwa [exists_and_right, hx.exists_ok_iff] at h

lemma Demands.congr {q : Prop} (h : p ↔ q) (hx : Demands x p) : Demands x q :=
  ⟨hx.exists_ok_iff.trans h, hx.isUnchecked⟩

/-- What is demanded before the rest is settled or not. -/
lemma Demands.settles_bind_iff {f : α → Checked β} {q : Prop} (hx : Demands x p) (hf : ∀ a, Settles (f a) ↔ q) :
    Settles (x >>= f) ↔ p ∧ q := by
  cases x with
  | error e =>
    have hnot : ¬p := fun hp => nomatch hx.exists_ok_iff.2 hp
    have hreported := (hx.isUnchecked e rfl).isReported_eq_false
    exact iff_of_false (fun h => by simp [h e rfl] at hreported) fun h => hnot h.1
  | ok a => exact (hf a).trans (and_iff_right (hx.exists_ok_iff.1 ⟨a, rfl⟩)).symm

end Checked

open Checked

/-! ### Sections -/

namespace Settings

/-- The entries of a section: those of a dictionary, and none where the section is missing or counts as false. -/
inductive HasSection (s : Settings) (name : String) : Datum.Entries → Prop
  | dict {es : Datum.Entries} (h : s.get name (.dict []) = .dict es) : HasSection s name es
  | empty (h : (s.get name (.dict [])).truthy = false) : HasSection s name []

lemma entries_eq_ok_iff {s : Settings} {name : String} {es : Datum.Entries} :
    s.entries name = .ok es ↔ s.HasSection name es := by
  unfold entries entriesOf Datum.orElse
  constructor
  · intro h
    split at h
    · rename_i es' hes
      obtain rfl := Except.ok.inj h
      split at hes
      · exact .dict hes
      · rename_i hfalse
        obtain rfl := Datum.dict.inj hes
        exact .empty (Bool.eq_false_iff.2 hfalse)
    · cases h
  · rintro (h | h)
    · rw [h]
      cases es <;> rfl
    · rw [h]
      rfl

lemma demands_entries (s : Settings) (name : String) :
    Demands (s.entries name) (∃ es, s.HasSection name es) where
  exists_ok_iff := exists_congr fun _ => entries_eq_ok_iff
  isUnchecked e h := by
    unfold entries entriesOf at h
    split at h
    · cases h
    · obtain rfl := Except.error.inj h
      exact .noAttribute

end Settings

/-! ### Numbers -/

namespace Datum

/-- Data that are read as a double: truth values, numbers that are not beyond the doubles, and numerals. -/
inductive ReadsDouble : Datum → Prop
  | bool (b : Bool) : ReadsDouble (.bool b)
  | int {i : Int} (h : ¬(Num.int i).IsBeyond) : ReadsDouble (.int i)
  | float (d : Double) : ReadsDouble (.float d)
  | text {t : MarkedText} {d : Double} (h : Numeral.double? t.content.toList = some d) : ReadsDouble (.text t)
  | bytes {bs : List UInt8} {d : Double} (h : (asciiChars? bs).bind Numeral.double? = some d) :
    ReadsDouble (.bytes bs)

/-- Data that are read as an integer: truth values, finite numbers, and numerals. -/
inductive ReadsInt : Datum → Prop
  | bool (b : Bool) : ReadsInt (.bool b)
  | int (i : Int) : ReadsInt (.int i)
  | float {d : Double} (h : d.isFinite = true) : ReadsInt (.float d)
  | text {t : MarkedText} {i : Int} (h : Numeral.int? t.content.toList = some i) : ReadsInt (.text t)
  | bytes {bs : List UInt8} {i : Int} (h : (asciiChars? bs).bind Numeral.int? = some i) : ReadsInt (.bytes bs)

lemma demands_orBad {α : Type} {p : Prop} {o : Option α} (h : (∃ a, o = some a) ↔ p) :
    Demands (orBad o) p := by
  cases o with
  | none => exact demands_error .badValue fun hp => by simpa using h.2 hp
  | some a => exact demands_ok a (h.1 ⟨a, rfl⟩)

theorem demands_toDouble (d : Datum) : Demands d.toDouble d.ReadsDouble := by
  cases d with
  | bool b => exact demands_ok _ (.bool b)
  | float d => exact demands_ok d (.float d)
  | int i =>
    rw [toDouble]
    cases hi : Double.ofInt? i with
    | none => exact demands_error .tooLarge fun | .int h => h ((Num.isBeyond_iff _).2 hi)
    | some d => exact demands_ok d (.int fun h => by simpa [Num.toDouble?, hi] using (Num.isBeyond_iff _).1 h)
  | text t => exact demands_orBad ⟨fun ⟨_, h⟩ => .text h, fun | .text h => ⟨_, h⟩⟩
  | bytes bs => exact demands_orBad ⟨fun ⟨_, h⟩ => .bytes h, fun | .bytes h => ⟨_, h⟩⟩
  | _ => exact demands_error .wrongType (fun h => nomatch h)

theorem demands_toInt (d : Datum) : Demands d.toInt d.ReadsInt := by
  cases d with
  | bool b => exact demands_ok _ (.bool b)
  | int i => exact demands_ok i (.int i)
  | float d =>
    cases d with
    | nan => exact demands_error .badValue fun | .float h => nomatch h
    | infinite negative => exact demands_error .tooLarge fun | .float h => nomatch h
    | finite => exact demands_ok _ (.float rfl)
  | text t => exact demands_orBad ⟨fun ⟨_, h⟩ => .text h, fun | .text h => ⟨_, h⟩⟩
  | bytes bs => exact demands_orBad ⟨fun ⟨_, h⟩ => .bytes h, fun | .bytes h => ⟨_, h⟩⟩
  | _ => exact demands_error .wrongType (fun h => nomatch h)

end Datum

/-! ### Transports -/

/-- The promises of an HTTP library about its clients. -/
class LawfulHttpLibrary [HttpLibrary] : Prop where
  /-- a header has to be in ASCII, and makes no difference to the address -/
  client_some_iff (address value : String) : HttpLibrary.client address (some value) = .ok () ↔
    HttpLibrary.client address none = .ok () ∧ ∀ c ∈ value.toList, c.toNat < 0x80
  /-- what is refused is refused by faults of its own -/
  isUnchecked_client (address : String) (authorization : Option String) :
    FailsIn Fault.IsUnchecked (HttpLibrary.client address authorization)

instance : LawfulHttpLibrary where
  client_some_iff address value := by simp [HttpLibrary.client]
  isUnchecked_client address authorization e he := by
    simp only [HttpLibrary.client] at he
    split at he
    · cases he
    · cases he
      exact .notAscii

namespace Transport
open Settings (setting)

section

variable [HttpLibrary]

/-- An address that a client is there for, without the slashes at its end. -/
def IsAddress (t : MarkedText) : Prop :=
  ∃ (address : String) (slashes : Nat),
    t.content.toList = address.toList ++ List.replicate slashes '/' ∧ address.toList.getLast? ≠ some '/' ∧
      HttpLibrary.client address none = .ok ()

/-- A key that can be sent: one that counts as false, which is none, or one in ASCII. -/
def IsSendable (key : Datum) : Prop := key.truthy = true → ∀ c ∈ key.shown.toList, c.toNat < 0x80

/-- Entries of the connection section that a transport can be built from. -/
structure IsUsable (es : Datum.Entries) : Prop where
  timeout : (setting es "TIMEOUT" (.int 60)).ReadsDouble
  retries : (setting es "MAX_RETRIES" (.int 3)).ReadsInt
  address : ∃ t, setting es "BASE_URL" (.str "http://localhost:8080") = .text t ∧ IsAddress t
  key : IsSendable (setting es "API_KEY" .none)

end

lemma rdropWhile_slash_eq_iff {s t : List Char} : s.rdropWhile (· == '/') = t ↔
    (∃ n, s = t ++ List.replicate n '/') ∧ t.getLast? ≠ some '/' := by
  constructor
  · rintro rfl
    have hslashes : s.rtakeWhile (· == '/') = List.replicate (s.rtakeWhile (· == '/')).length '/' :=
      List.eq_replicate_iff.2 ⟨rfl, fun c hc => by simpa using List.mem_rtakeWhile_imp hc⟩
    refine ⟨⟨(s.rtakeWhile (· == '/')).length, ?_⟩, fun hlast => ?_⟩
    · rw [← hslashes, List.rdropWhile_append_rtakeWhile]
    · obtain ⟨r, hr⟩ := List.getLast?_eq_some_iff.1 hlast
      have hne : s.rdropWhile (· == '/') ≠ [] := by simp [hr]
      exact List.rdropWhile_last_not _ s hne (by simp [hr])
  · rintro ⟨⟨n, rfl⟩, hlast⟩
    induction n with
    | zero =>
      rw [List.replicate_zero, List.append_nil, List.rdropWhile_eq_self_iff]
      intro hne hslash
      exact hlast (by rw [List.getLast?_eq_some_getLast hne]; simpa using hslash)
    | succ n ih => rw [List.replicate_succ', ← List.append_assoc, List.rdropWhile_concat_pos _ _ _ rfl, ih]

variable [HttpLibrary]

lemma isAddress_iff (t : MarkedText) :
    IsAddress t ↔ HttpLibrary.client (trimSlashes t.content) none = .ok () := by
  have htrim : (trimSlashes t.content).toList = t.content.toList.rdropWhile (· == '/') :=
    String.toList_ofList
  constructor
  · rintro ⟨address, slashes, htext, hlast, hclient⟩
    have haddress := rdropWhile_slash_eq_iff.2 ⟨⟨slashes, htext⟩, hlast⟩
    rw [← htrim] at haddress
    rwa [String.toList_inj.1 haddress]
  · intro hclient
    obtain ⟨⟨slashes, htext⟩, hlast⟩ := rdropWhile_slash_eq_iff.1 htrim.symm
    exact ⟨_, slashes, htext, hlast, hclient⟩

variable [LawfulHttpLibrary]

lemma client_bearer?_iff (address : String) (key : Datum) :
    HttpLibrary.client address (bearer? key) = .ok () ↔
      HttpLibrary.client address none = .ok () ∧ IsSendable key := by
  unfold bearer? IsSendable
  cases key.truthy with
  | false => simp
  | true =>
    rw [if_pos rfl, LawfulHttpLibrary.client_some_iff, String.toList_append, List.forall_mem_append]
    simp

lemma demands_client (address : String) (key : Datum) :
    Demands (HttpLibrary.client address (bearer? key))
      (HttpLibrary.client address none = .ok () ∧ IsSendable key) where
  exists_ok_iff := ⟨fun ⟨(), h⟩ => (client_bearer?_iff address key).1 h,
    fun h => ⟨(), (client_bearer?_iff address key).2 h⟩⟩
  isUnchecked := LawfulHttpLibrary.isUnchecked_client address (bearer? key)

lemma demands_make (url key : Datum) (timeout : Double) (retries : Int) :
    Demands (make url key timeout retries) ((∃ t, url = .text t ∧ IsAddress t) ∧ IsSendable key) := by
  cases url with
  | text t =>
    have hclient := (demands_client (trimSlashes t.content) key).bind_and (q := True) fun _ =>
      demands_ok (⟨trimSlashes t.content, bearer? key, timeout, retries⟩ : Transport) trivial
    refine Demands.congr ?_ hclient
    simp [isAddress_iff]
  | bytes bs => exact demands_error .wrongType (by simp)
  | _ => exact demands_error .noAttribute (by simp)

theorem demands_ofSettings (s : Settings) :
    Demands (ofSettings s) (∃ es, s.HasSection "WEAVIATE" es ∧ IsUsable es) := by
  have husable (es : Datum.Entries) : Demands (do
      let timeout ← (setting es "TIMEOUT" (.int defaultTimeout)).toDouble
      let maxRetries ← (setting es "MAX_RETRIES" (.int defaultRetries)).toInt
      make (setting es "BASE_URL" (.str defaultUrl)) (setting es "API_KEY" .none) timeout maxRetries)
      (IsUsable es) := by
    -- each value is read whatever those before it are, so the conditions just add up
    refine Demands.congr ?_ <|
      (Datum.demands_toDouble (setting es "TIMEOUT" (.int defaultTimeout))).bind_and fun timeout =>
        (Datum.demands_toInt (setting es "MAX_RETRIES" (.int defaultRetries))).bind_and fun retries =>
          demands_make (setting es "BASE_URL" (.str defaultUrl)) (setting es "API_KEY" .none) timeout retries
    exact ⟨fun ⟨timeout, retries, address, key⟩ => ⟨timeout, retries, address, key⟩,
      fun ⟨timeout, retries, address, key⟩ => ⟨timeout, retries, address, key⟩⟩
  have h := (Settings.demands_entries s "WEAVIATE").bind husable
  simp only [Settings.entries_eq_ok_iff] at h
  exact h

end Transport

/-! ### Rendering defaults -/

namespace RendererConfig
open Settings (setting)

lemma settles_misconfigured {α : Type} (name : String) (expected : Expected) (d : Datum) :
    Settles (misconfigured name expected d : Checked α) := failsIn_error rfl

lemma settles_checkLimit (d : Datum) : Settles (checkLimit d) := by
  unfold checkLimit
  split
  · split
    · exact failsIn_ok _
    · exact settles_misconfigured _ _ _
  · exact settles_misconfigured _ _ _

lemma settles_checkLevel (d : Datum) : Settles (checkLevel d) := by
  unfold checkLevel
  split
  · exact failsIn_ok _
  · exact settles_misconfigured _ _ _

lemma settles_checkIndent (d : Datum) : Settles (checkIndent d) := by
  unfold checkIndent
  split
  · split
    · exact failsIn_ok _
    · exact settles_misconfigured _ _ _
  · exact settles_misconfigured _ _ _

/-- Every fault of the values for the rendering defaults is reported. -/
lemma settles_check (limit level indent : Datum) : Settles (check limit level indent) := by
  have hlevel : Settles (optional checkLevel level) := by
    unfold optional
    split
    · exact failsIn_ok _
    · exact (failsIn_map_iff some).2 (settles_checkLevel _)
  exact (settles_checkLimit limit).bind fun k _ => hlevel.bind fun l _ =>
    (settles_checkIndent indent).bind fun n _ => failsIn_ok _

theorem settles_ofSettings_iff (s : Settings) :
    Settles (ofSettings s) ↔ ∃ es, s.HasSection "RENDERING" es := by
  have h := (Settings.demands_entries s "RENDERING").settles_bind_iff fun es =>
    iff_of_true (settles_check (setting es "TOP_OCCURRENCES_LIMIT" standard.topOccurrencesLimit.view)
      (setting es "DEFAULT_CONSISTENCY_LEVEL" .none) (setting es "INDENT" (.int standard.indent))) trivial
  rwa [and_true] at h

lemma isKnown_ofSettings (s : Settings) : FailsIn Fault.IsKnown (ofSettings s) :=
  ((Settings.demands_entries s "RENDERING").isUnchecked.mono fun _ => .inr).bind fun _ _ =>
    (settles_check _ _ _).mono fun _ => .inl

end RendererConfig

/-! ### Clients -/

namespace Client

variable [HttpLibrary]

/-- The transport and the rendering defaults of a client. -/
def ofSettings (s : Settings) : Checked (Transport × RendererConfig) := do
  let transport ← Transport.ofSettings s
  (RendererConfig.ofSettings s).map fun config => (transport, config)

variable [LawfulHttpLibrary]

theorem settles_ofSettings_iff (s : Settings) :
    Settles (ofSettings s) ↔ (∃ es, s.HasSection "WEAVIATE" es ∧ Transport.IsUsable es) ∧
      ∃ es, s.HasSection "RENDERING" es :=
  (Transport.demands_ofSettings s).settles_bind_iff fun transport =>
    (settles_map_iff fun config => (transport, config)).trans (RendererConfig.settles_ofSettings_iff s)

lemma isKnown_ofSettings (s : Settings) : FailsIn Fault.IsKnown (ofSettings s) :=
  ((Transport.demands_ofSettings s).isUnchecked.mono fun _ => .inr).bind fun _ _ =>
    (failsIn_map_iff _).2 (RendererConfig.isKnown_ofSettings s)

end Client

end VectorQuery
