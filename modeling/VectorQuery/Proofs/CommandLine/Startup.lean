import VectorQuery.CommandLine.Run
import VectorQuery.Proofs.Log.Opening

/-! Runs of the command line that cannot set up their log, or cannot build what they need from the settings. They send
nothing. Where the fault is a reported one they end with an exit code, and without any report otherwise. -/
namespace VectorQuery
open Checked

namespace CommandLine

/-! ### The log -/

/-- Entries of the log section that a command line can use. -/
def Arguments.CanLog (a : Arguments) (files : Files) (es : Datum.Entries) : Prop :=
  LogSetup.IsUsable files .none (if a.debug then .str "DEBUG" else .none) es

lemma demands_log [YamlLibrary] (files : Files) (env : Environment) (a : Arguments) (s : Settings) :
    Demands ((a.logging s).setup files env) (∃ es, s.HasSection "LOGGING" es ∧ a.CanLog files es) :=
  LogArguments.demands_setup files env rfl rfl

/-! ### How a run ends -/

/-- How a run ends that cannot go on; nothing is sent. A reported fault is printed, with an exit code. Any other ends
the run without a report. -/
inductive EndsWith (e : Fault) : Checked Report × List Sent → Prop
  | reported {message : String} (he : e.isReported = true) (hmessage : e.message? = some message) :
    EndsWith e (.ok ⟨1, "", "Error: " ++ message ++ "\n"⟩, [])
  | unchecked (he : e.IsUnchecked) : EndsWith e (.error e, [])

/-- A reported fault has a message, and is printed with it. -/
lemma exists_message_of_isReported {e : Fault} (he : e.isReported = true) :
    ∃ message, e.message? = some message ∧
      Report.ofFault? e = some ⟨1, "", "Error: " ++ message ++ "\n"⟩ := by
  cases e with
  | rejected | misconfigured | badCondition | transport => exact ⟨_, rfl, rfl⟩
  | _ => cases he

lemma endsWith_settle {e : Fault} (he : e.IsKnown) : EndsWith e (Report.settle (.error e), []) := by
  obtain he | he := he
  · obtain ⟨message, hmessage, hreport⟩ := exists_message_of_isReported he
    rw [Report.settle, hreport]
    exact .reported he hmessage
  · have hreport : Report.ofFault? e = none := by cases he <;> rfl
    rw [Report.settle, hreport]
    exact .unchecked he

/-! ### What a run builds -/

variable [HttpLibrary]

/-- What a run builds from settings: a client, or only the rendering defaults where nothing is to be sent. -/
def Arguments.build (a : Arguments) (s : Settings) : Checked (Option Transport × RendererConfig) :=
  if a.renderOnly then (RendererConfig.ofSettings s).map fun config => (none, config)
  else (Client.ofSettings s).map fun (transport, config) => (some transport, config)

variable {files : Files} {env : Environment} {a : Arguments} {s : Settings} {q : QueryDescriptor} {e : Fault}

/-- A plan needs the transport before the rendering defaults, as a client does. -/
lemma Plan.ofSettings_eq_error (hq : a.descriptor = .ok q) (he : a.build s = .error e) :
    Plan.ofSettings a s = .error e := by
  unfold Plan.ofSettings
  rw [hq]
  unfold Arguments.build at he
  cases hrender : a.renderOnly with
  | true =>
    rw [hrender, if_pos rfl] at he
    have hconfig := map_error he
    change (RendererConfig.ofSettings s >>= fun _ => _) = _
    rw [hconfig]
    rfl
  | false =>
    rw [hrender, if_neg nofun] at he
    have hclient := map_error he
    unfold Client.ofSettings at hclient
    change (Transport.ofSettings s >>= fun _ => RendererConfig.ofSettings s >>= fun _ => _) = _
    cases ht : Transport.ofSettings s with
    | error e' =>
      rw [ht] at hclient
      obtain rfl := Except.error.inj hclient
      rfl
    | ok transport =>
      rw [ht] at hclient
      rw [map_error hclient]
      rfl

section

variable [LawfulHttpLibrary]

lemma isKnown_build (a : Arguments) (s : Settings) : FailsIn Fault.IsKnown (a.build s) := by
  unfold Arguments.build
  split
  · exact (failsIn_map_iff _).2 (RendererConfig.isKnown_ofSettings s)
  · exact (failsIn_map_iff _).2 (Client.isKnown_ofSettings s)

lemma settles_build_iff (a : Arguments) (s : Settings) :
    Settles (a.build s) ↔ (a.renderOnly = false → ∃ es, s.HasSection "WEAVIATE" es ∧ Transport.IsUsable es) ∧
      ∃ es, s.HasSection "RENDERING" es := by
  unfold Arguments.build
  cases a.renderOnly with
  | true => simpa using (settles_map_iff _).trans (RendererConfig.settles_ofSettings_iff s)
  | false => simpa using (settles_map_iff _).trans (Client.settles_ofSettings_iff s)

end

variable [YamlLibrary] [RetryLibrary]

/-- A run that cannot set up its log ends with that fault, whatever else the settings hold. -/
theorem endsWith_run_of_setup (outcomes : Nat → Outcome)
    (hs : Settings.load files env (some a.configFile) = .ok s)
    (he : (a.logging s).setup files env = .error e) : EndsWith e (run files env outcomes a) := by
  have hplan : Plan.make files env a = .error e := by
    unfold Plan.make
    rw [hs]
    change ((a.logging s).setup files env >>= fun _ => Plan.ofSettings a s) = _
    rw [he]
    rfl
  rw [run, hplan]
  exact endsWith_settle (.inr ((demands_log files env a s).isUnchecked e he))

/-- A run with its log that cannot build what it needs ends with that fault. -/
theorem endsWith_run_of_build [LawfulHttpLibrary] (outcomes : Nat → Outcome) {u : LogSetup × List LogRecord}
    (hs : Settings.load files env (some a.configFile) = .ok s)
    (hu : (a.logging s).setup files env = .ok u) (hq : a.descriptor = .ok q) (he : a.build s = .error e) :
    EndsWith e (run files env outcomes a) := by
  have hplan : Plan.make files env a = .error e := by
    unfold Plan.make
    rw [hs]
    change ((a.logging s).setup files env >>= fun _ => Plan.ofSettings a s) = _
    rw [hu]
    exact Plan.ofSettings_eq_error hq he
  rw [run, hplan]
  exact endsWith_settle (isKnown_build a s e he)

end CommandLine

/-! ### Building from settings -/

open CommandLine

section

variable [YamlLibrary] [HttpLibrary] [RetryLibrary]

/-- What building from a tree of settings ends with. Whatever the values in the rendering section are, their faults
are reported. The connection section has to be usable as it is, and so no client settles without that. -/
structure Settings.Construction (s : Settings) : Prop where
  rendering : Settles (RendererConfig.ofSettings s) ↔ ∃ es, s.HasSection "RENDERING" es
  connection : Demands (Transport.ofSettings s) (∃ es, s.HasSection "WEAVIATE" es ∧ Transport.IsUsable es)
  client : Settles (Client.ofSettings s) ↔
    (∃ es, s.HasSection "WEAVIATE" es ∧ Transport.IsUsable es) ∧ ∃ es, s.HasSection "RENDERING" es
  /-- a run that only renders needs nothing of the connection -/
  build : ∀ a : Arguments, Settles (a.build s) ↔
    (a.renderOnly = false → ∃ es, s.HasSection "WEAVIATE" es ∧ Transport.IsUsable es) ∧
      ∃ es, s.HasSection "RENDERING" es
  /-- a run needs its log first, and then what it builds -/
  log : ∀ (files : Files) (env : Environment) (a : Arguments), Demands ((a.logging s).setup files env)
    (∃ es, s.HasSection "LOGGING" es ∧ a.CanLog files es)
  run_log : ∀ (files : Files) (env : Environment) (outcomes : Nat → Outcome) (a : Arguments) (e : Fault),
    Settings.load files env (some a.configFile) = .ok s → (a.logging s).setup files env = .error e →
      EndsWith e (run files env outcomes a)
  run : ∀ (files : Files) (env : Environment) (outcomes : Nat → Outcome) (a : Arguments) (q : QueryDescriptor)
    (e : Fault), Settings.load files env (some a.configFile) = .ok s →
      (∃ es, s.HasSection "LOGGING" es ∧ a.CanLog files es) → a.descriptor = .ok q →
      a.build s = .error e → EndsWith e (run files env outcomes a)

/-- Building from settings ends with a result or a reported fault exactly where the connection section is usable and
no section is anything but a dictionary. A run that cannot set up its log, or build what it needs, ends accordingly. -/
theorem Settings.construction [LawfulHttpLibrary] (s : Settings) : s.Construction where
  rendering := RendererConfig.settles_ofSettings_iff s
  connection := Transport.demands_ofSettings s
  client := Client.settles_ofSettings_iff s
  build a := settles_build_iff a s
  log files env a := demands_log files env a s
  run_log _ _ outcomes _ _ hs he := endsWith_run_of_setup outcomes hs he
  run files env outcomes a _ _ hs hlog hq he := by
    obtain ⟨u, hu⟩ := (demands_log files env a s).exists_ok_iff.2 hlog
    exact endsWith_run_of_build outcomes hs hu hq he

end

/-! ### Files of settings -/

/-- A file of settings in the place where it is looked for. -/
def configured (text : String) : Files := .single (some (.ofPath "config/config.yaml" text))

/-- A command line that asks for documents of one collection. -/
def plainArguments : Arguments := { Reading.start.arguments with collection := .value "Doc" }

/-- The run of this command line, with a server that answers. -/
def plainRun (files : Files) : Checked Report × List Sent :=
  run files (fun _ => none) (fun _ => .response ⟨200, ""⟩) plainArguments

/-- Whether a computation fails with a fault that a test takes. -/
def Checked.failsBy {α : Type} (test : Fault → Bool) : Checked α → Bool
  | .error e => test e
  | .ok _ => false

lemma Checked.exists_error_of_failsBy {α : Type} {test : Fault → Bool} {x : Checked α} (h : failsBy test x = true) :
    ∃ e, x = .error e ∧ test e = true := by
  cases x with
  | error e => exact ⟨e, rfl, h⟩
  | ok a => cases h

def Fault.isWrongType : Fault → Bool
  | wrongType => true
  | _ => false

def Fault.isNoAttribute : Fault → Bool
  | noAttribute => true
  | _ => false

lemma Checked.eq_wrongType {α : Type} {x : Checked α} (h : failsBy Fault.isWrongType x = true) :
    x = .error .wrongType := by
  obtain ⟨e, rfl, he⟩ := exists_error_of_failsBy h
  cases e <;> first | rfl | cases he

lemma Checked.eq_noAttribute {α : Type} {x : Checked α} (h : failsBy Fault.isNoAttribute x = true) :
    x = .error .noAttribute := by
  obtain ⟨e, rfl, he⟩ := exists_error_of_failsBy h
  cases e <;> first | rfl | cases he

/-- A file of settings with a list for its log section, and an indentation below zero. -/
def listedLog : Files := configured
  "LOGGING:\n- x\nRENDERING:\n  INDENT: -1\nWEAVIATE:\n  BASE_URL: http://localhost:8080/\n  TIMEOUT: '30'\n"

/-- A client of these settings settles, by the fault in the rendering section. But the log comes first, and its fault
is none that a run reports. -/
theorem Settings.construction_listedLog :
    ∃ s, Settings.load listedLog (fun _ => none) (some plainArguments.configFile) = .ok s ∧
      Settles (Client.ofSettings s) ∧ (∃ es, s.HasSection "WEAVIATE" es ∧ Transport.IsUsable es) ∧
      EndsWith .noAttribute (plainRun listedLog) := by
  have hbuild : (match Settings.load listedLog (fun _ => none) (some plainArguments.configFile) with
      | .ok s => failsBy Fault.isReported (Client.ofSettings s) &&
          failsBy Fault.isNoAttribute ((plainArguments.logging s).setup listedLog fun _ => none)
      | .error _ => false) = true := by decide +kernel
  split at hbuild
  · rename_i s hs
    rw [Bool.and_eq_true] at hbuild
    obtain ⟨e, he, hreported⟩ := exists_error_of_failsBy hbuild.1
    have hsettles : Settles (Client.ofSettings s) := he ▸ failsIn_error hreported
    have hconstruction := Settings.construction s
    exact ⟨s, hs, hsettles, (hconstruction.client.1 hsettles).1,
      hconstruction.run_log _ _ _ _ _ hs (eq_noAttribute hbuild.2)⟩
  · cases hbuild

/-- A file of settings whose timeout is left to a variable. -/
def timeoutReference : Files := configured "WEAVIATE:\n  TIMEOUT: $\x7bWEAVIATE_TIMEOUT\x7d\n"

/-- Without its variable the timeout is there but nothing, which is no number. No client is built, and neither is the
fault reported: the run ends without an exit code. -/
theorem run_unset_timeout :
    (∃ s, Settings.load timeoutReference (fun _ => none) (some plainArguments.configFile) = .ok s ∧
      ¬Settles (Transport.ofSettings s) ∧ ¬Settles (Client.ofSettings s)) ∧
    plainRun timeoutReference = (.error .wrongType, []) := by
  have hbuild : (match Settings.load timeoutReference (fun _ => none) (some plainArguments.configFile) with
      | .ok s => failsBy Fault.isWrongType (Transport.ofSettings s) &&
          failsBy Fault.isWrongType (Client.ofSettings s)
      | .error _ => false) = true := by decide +kernel
  have hresult : failsBy Fault.isWrongType (plainRun timeoutReference).1 = true := by decide +kernel
  have hsent : (plainRun timeoutReference).2.isEmpty = true := by decide +kernel
  have hescapes {α : Type} {x : Checked α} (hx : failsBy Fault.isWrongType x = true) : ¬Settles x := fun h =>
    nomatch h .wrongType (eq_wrongType hx)
  refine ⟨?_, Prod.ext (eq_wrongType hresult) (List.isEmpty_iff.1 hsent)⟩
  split at hbuild
  · rename_i s hs
    rw [Bool.and_eq_true] at hbuild
    exact ⟨s, hs, hescapes hbuild.1, hescapes hbuild.2⟩
  · cases hbuild

end VectorQuery
