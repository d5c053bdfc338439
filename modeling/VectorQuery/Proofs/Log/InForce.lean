import VectorQuery.Log.Lines
import VectorQuery.Proofs.Log.Opening
import Mathlib.Data.List.Induction

/-! What is in force after the log was set up. An argument overrides the setting that it names, and every setting
that is neither given nor set has its default; but where both the file and the level are given, the section of
settings is not read at all. However often the log was set up before, only the last set-up counts. -/
namespace VectorQuery
open Settings (setting)

/-! ### What is given -/

/-- A level by its name, in any case of its letters. -/
inductive LogLevel.Named : Datum → LogLevel → Prop
  | intro {s : String} {i : Int} (h : names.lookup (String.ofList (Text.upper s.toList)) = some i) :
    Named (.str s) (.number i)

/-- A level as settings give it: by its name, or as a number. -/
inductive LogLevel.Written : Datum → LogLevel → Prop
  | name {d : Datum} {l : LogLevel} (h : Named d l) : Written d l
  | number (i : Int) : Written (.int i) (.number i)

/-- A path of a log file. -/
inductive IsLogPath : Datum → MarkedText → Prop
  | intro {s : String} (h : s ≠ "") : IsLogPath (.str s) (.plain s)

/-- A value that may be given. What is absent or an empty text is not. -/
inductive MayGive {α : Type} (R : Datum → α → Prop) : Datum → Option α → Prop
  | absent : MayGive R .none none
  | empty : MayGive R (.str "") none
  | given {d : Datum} {a : α} (h : R d a) : MayGive R d (some a)

/-- The section `LOGGING` of settings. -/
structure LogSection where
  file : Option MarkedText
  level : Option LogLevel
  consoleLevel : Option LogLevel
  httpLevel : Option LogLevel

/-- The section that these entries write, each level by a valid name or as a number. -/
structure LogSection.Reads (x : LogSection) (es : Datum.Entries) : Prop where
  file : MayGive IsLogPath (setting es "LOG_FILE" .none) x.file
  level : MayGive LogLevel.Written (setting es "LEVEL" .none) x.level
  consoleLevel : MayGive LogLevel.Written (setting es "CONSOLE_LEVEL" .none) x.consoleLevel
  httpLevel : MayGive LogLevel.Written (setting es "HTTP_LEVEL" .none) x.httpLevel

/-- A section that sets nothing. -/
def LogSection.unset : LogSection := ⟨none, none, none, none⟩

/-- A call of the set-up with loaded settings: the file and the level, each given or not, and the section. -/
structure LogCall where
  arguments : LogArguments
  file : Option MarkedText
  level : Option LogLevel
  settings : LogSection
  reads_file : MayGive IsLogPath arguments.file file
  reads_level : MayGive LogLevel.Named arguments.level level
  reads_settings : ∃ s es, arguments.settings = some s ∧ s.HasSection "LOGGING" es ∧ settings.Reads es

/-- The set-up where explicit arguments override only what they name. -/
def LogSection.overridden (x : LogSection) (file : Option MarkedText) (level : Option LogLevel) : LogSetup :=
  let fileLevel := (level.or x.level).getD (.number LogLevel.info)
  { file := (file.or x.file).getD (.plain "logs/weaviate_query.log")
    fileLevel
    consoleLevel := x.consoleLevel.getD fileLevel
    httpLevel := x.httpLevel.getD (.number LogLevel.warning) }

/-! ### Reading what is given -/

namespace LogLevel

variable {d : Datum} {l : LogLevel}

lemma Named.truthy (h : Named d l) : d.truthy = true := by
  obtain ⟨h⟩ := h
  rename_i s i
  have hne : s ≠ "" := by
    rintro rfl
    cases h
  simpa [Datum.truthy, Datum.str, MarkedText.isEmpty] using hne

lemma ofDatum_of_named (h : Named d l) (fallback : LogLevel) : ofDatum d fallback = l := by
  have htrue := h.truthy
  obtain ⟨h⟩ := h
  have hshown (s : String) : (Datum.str s).shown = s := rfl
  simp only [Datum.str] at htrue hshown ⊢
  simp only [ofDatum, htrue, hshown, h, if_true]

lemma ofDatum_of_written (h : Written d l) (fallback : LogLevel) : ofDatum d fallback = l := by
  cases h with
  | name h => exact ofDatum_of_named h fallback
  | number i => rfl

lemma not_namesOther_of_written (h : Written d l) : ¬NamesOther d := by
  rintro ⟨t, ht, hother⟩
  cases h with
  | name h =>
    obtain ⟨h⟩ := h
    obtain rfl := Datum.text.inj ht
    have hshown (s : String) : (MarkedText.plain s).shown = s := rfl
    have hnone : ∀ name ∈ ["BASIC_FORMAT", "_STYLES"], names.lookup name = none := by decide
    rw [hshown] at hother
    rw [hnone _ hother] at h
    cases h
  | number i => cases ht

lemma not_namesOther_of_mayGive {o : Option LogLevel} (h : MayGive Written d o) : ¬NamesOther d := by
  cases h with
  | absent => rintro ⟨t, ht, -⟩; cases ht
  | empty =>
    rintro ⟨t, ht, hother⟩
    obtain rfl := Datum.text.inj ht
    revert hother
    decide
  | given h => exact not_namesOther_of_written h

lemma ofDatum_of_mayGive {o : Option LogLevel} (h : MayGive Written d o) (fallback : LogLevel) :
    ofDatum d fallback = o.getD fallback := by
  cases h with
  | absent => rfl
  | empty => rfl
  | given h => exact ofDatum_of_written h fallback

end LogLevel

section

variable {α : Type} {R : Datum → α → Prop} {d : Datum} {o : Option α}

lemma MayGive.truthy_eq (hR : ∀ d a, R d a → d.truthy = true) (h : MayGive R d o) : d.truthy = o.isSome := by
  cases h with
  | absent => rfl
  | empty => rfl
  | given h => exact hR _ _ h

/-- What is given comes first, else the other value counts. -/
lemma MayGive.orElse_eq (hR : ∀ d a, R d a → d.truthy = true) (h : MayGive R d o) (other : Datum) :
    d.orElse other = if o.isSome then d else other := by
  rw [Datum.orElse, h.truthy_eq hR]

end

lemma IsLogPath.truthy {d : Datum} {t : MarkedText} (h : IsLogPath d t) : d.truthy = true := by
  obtain ⟨h⟩ := h
  simpa [Datum.truthy, Datum.str, MarkedText.isEmpty] using h

lemma orElse_of_isLogPath {d : Datum} {o : Option MarkedText} (h : MayGive IsLogPath d o) (t : MarkedText) :
    d.orElse (.text t) = .text (o.getD t) := by
  rw [h.orElse_eq fun _ _ => IsLogPath.truthy]
  cases h with
  | absent => rfl
  | empty => rfl
  | given h => cases h; rfl

lemma ofDatum_orElse {d e : Datum} {o p : Option LogLevel} (hd : MayGive LogLevel.Named d o)
    (he : MayGive LogLevel.Written e p) (fallback : LogLevel) :
    LogLevel.ofDatum (d.orElse e) fallback = (o.or p).getD fallback := by
  rw [hd.orElse_eq fun _ _ => LogLevel.Named.truthy]
  cases hd with
  | absent => exact LogLevel.ofDatum_of_mayGive he fallback
  | empty => exact LogLevel.ofDatum_of_mayGive he fallback
  | given h => exact LogLevel.ofDatum_of_named h fallback

lemma not_namesOther_orElse {d e : Datum} {o p : Option LogLevel} (hd : MayGive LogLevel.Named d o)
    (he : MayGive LogLevel.Written e p) : ¬LogLevel.NamesOther (d.orElse e) := by
  rw [hd.orElse_eq fun _ _ => LogLevel.Named.truthy]
  cases hd with
  | absent => exact LogLevel.not_namesOther_of_mayGive he
  | empty => exact LogLevel.not_namesOther_of_mayGive he
  | given h => exact LogLevel.not_namesOther_of_written (.name h)

/-- The set-up for arguments and a section. -/
lemma LogSetup.make_eq {file level : Datum} {es : Datum.Entries} {file? : Option MarkedText}
    {level? : Option LogLevel} {x : LogSection} (hfile : MayGive IsLogPath file file?)
    (hlevel : MayGive LogLevel.Named level level?) (hx : x.Reads es) :
    make file level es = .ok (x.overridden file? level?) := by
  have hpath : file.orElse ((setting es "LOG_FILE" .none).orElse defaultFile) =
      .text ((file?.or x.file).getD (.plain "logs/weaviate_query.log")) := by
    have hdefault : defaultFile = .text (.plain "logs/weaviate_query.log") := rfl
    rw [hdefault, orElse_of_isLogPath hx.file, orElse_of_isLogPath hfile]
    cases file? <;> rfl
  unfold make
  simp only [hpath, ofDatum_orElse hlevel hx.level, LogLevel.ofDatum_of_mayGive hx.consoleLevel,
    LogLevel.ofDatum_of_mayGive hx.httpLevel]
  rfl

/-! ### One call -/

/-- The log file of a set-up can be opened. -/
def LogSetup.Opens (u : LogSetup) (files : Files) : Prop := files.Opens u.file.content

namespace LogCall

variable (c : LogCall)

/-- Whether the call gives both the file and the level. -/
def givesBoth : Bool := c.file.isSome && c.level.isSome

/-- The section that the call reads. -/
def sectionRead : LogSection := if c.givesBoth then .unset else c.settings

/-- The set-up that the call makes. -/
def setup : LogSetup := c.sectionRead.overridden c.file c.level

lemma setup_of_not_givesBoth (h : c.givesBoth = false) : c.setup = c.settings.overridden c.file c.level := by
  unfold setup sectionRead
  rw [h]
  rfl

/-- Where both are given, the section sets no level of its own either. -/
lemma setup_of_givesBoth (h : c.givesBoth = true) : c.setup =
    let u := c.settings.overridden c.file c.level
    { u with consoleLevel := u.fileLevel, httpLevel := .number LogLevel.warning } := by
  obtain ⟨hfile, hlevel⟩ := Bool.and_eq_true_iff.1 h
  obtain ⟨t, ht⟩ := Option.isSome_iff_exists.1 hfile
  obtain ⟨l, hl⟩ := Option.isSome_iff_exists.1 hlevel
  unfold setup sectionRead
  rw [h, ht, hl]
  rfl

lemma findSection_eq [YamlLibrary] (files : Files) (env : Environment) :
    ∃ es records, c.arguments.findSection files env = .ok (es, records) ∧ c.sectionRead.Reads es := by
  have hboth : (c.arguments.file.truthy && c.arguments.level.truthy) = c.givesBoth := by
    rw [c.reads_file.truthy_eq fun _ _ => IsLogPath.truthy, c.reads_level.truthy_eq fun _ _ => LogLevel.Named.truthy]
    rfl
  obtain ⟨s, es, hs, hes, hreads⟩ := c.reads_settings
  unfold LogArguments.findSection sectionRead
  rw [hboth]
  cases c.givesBoth with
  | true => exact ⟨[], [], rfl, .absent, .absent, .absent, .absent⟩
  | false =>
    simp only [hs, LogArguments.sectionOf, Settings.entries_eq_ok_iff.2 hes]
    exact ⟨es, _, rfl, hreads⟩

lemma exists_setup [YamlLibrary] {files : Files} (env : Environment) (hopen : c.setup.Opens files) :
    ∃ records, c.arguments.setup files env = .ok (c.setup, records) := by
  obtain ⟨es, records, hsection, hreads⟩ := c.findSection_eq files env
  have hmake : LogSetup.make c.arguments.file c.arguments.level es = .ok c.setup :=
    LogSetup.make_eq c.reads_file c.reads_level hreads
  obtain ⟨_, hfile⟩ := (c.setup.demands_openFile files).exists_ok_iff.2 hopen
  obtain ⟨_, hlevels⟩ := (LogSetup.demands_checkLevels c.arguments.level es).exists_ok_iff.2
    ⟨not_namesOther_orElse c.reads_level hreads.level, LogLevel.not_namesOther_of_mayGive hreads.consoleLevel,
      LogLevel.not_namesOther_of_mayGive hreads.httpLevel⟩
  refine ⟨records, ?_⟩
  unfold LogArguments.setup
  rw [hsection]
  change (LogSetup.make c.arguments.file c.arguments.level es >>= fun u => u.openFile files >>= fun _ =>
    LogSetup.checkLevels c.arguments.level es >>= fun _ => pure (u, records)) = _
  rw [hmake]
  change (c.setup.openFile files >>= _) = _
  rw [hfile]
  change (LogSetup.checkLevels c.arguments.level es >>= _) = _
  rw [hlevels]
  rfl

end LogCall

/-! ### Loggers -/

namespace Loggers

lemma handlers_foldl_removeHandler (hs : List LogHandler) (l : Loggers) :
    (hs.foldl removeHandler l).handlers = hs.foldl List.erase l.handlers := by
  induction hs generalizing l with
  | nil => rfl
  | cons h hs ih => exact ih (l.removeHandler h)

/-- A list without each of its items is empty. -/
lemma foldl_erase_self (hs : List LogHandler) : hs.foldl List.erase hs = [] := by
  induction hs with
  | nil => rfl
  | cons h hs ih => rw [List.foldl_cons, List.erase_cons_head, ih]

lemma handlers_install (l : Loggers) (u : LogSetup) :
    (l.install u).handlers = [.file u.path u.fileLevel, .console u.consoleLevel] := by
  have hcleared : (l.handlers.foldl removeHandler l).handlers = [] := by
    rw [handlers_foldl_removeHandler, foldl_erase_self]
  simp [install, addHandler, LogSetup.httpLoggers, setLevel, hcleared]

lemma ownLevel?_install (l : Loggers) (u : LogSetup) :
    ∀ logger ∈ LogSetup.httpLoggers, (l.install u).ownLevel? logger = some u.httpLevel := by
  intro logger hlogger
  obtain rfl | rfl : logger = "httpx" ∨ logger = "httpcore" := by simpa [LogSetup.httpLoggers] using hlogger
  · rfl
  · rfl

end Loggers

namespace Log

/-- What is in force is this set-up: the root logger has its two handlers and no others, and lets pass what one of
them takes; the loggers of the HTTP layer have its level. -/
structure InForce (l : Log) (u : LogSetup) : Prop where
  setup : l.setup = u
  handlers : l.loggers.handlers = [.file u.path u.fileLevel, .console u.consoleLevel]
  rootLevel : l.loggers.rootLevel.value = min u.fileLevel.value u.consoleLevel.value
  httpLevel : ∀ logger ∈ LogSetup.httpLoggers, l.loggers.ownLevel? logger = some u.httpLevel

/-- Records change neither the loggers nor the set-up. -/
lemma write_loggers (l : Log) (records : List LogRecord) :
    (l.write records).loggers = l.loggers ∧ (l.write records).setup = l.setup := by
  have htake (r : LogRecord) (hs : List LogHandler) (l : Log) :
      (hs.foldl (writeTo r) l).loggers = l.loggers ∧ (hs.foldl (writeTo r) l).setup = l.setup := by
    induction hs generalizing l with
    | nil => exact ⟨rfl, rfl⟩
    | cons h hs ih =>
      have hone : (l.writeTo r h).loggers = l.loggers ∧ (l.writeTo r h).setup = l.setup := by
        cases h <;> exact ⟨rfl, rfl⟩
      exact ⟨(ih _).1.trans hone.1, (ih _).2.trans hone.2⟩
  induction records generalizing l with
  | nil => exact ⟨rfl, rfl⟩
  | cons r records ih =>
    obtain ⟨hloggers, hsetup⟩ := htake r (l.loggers.takers r) l
    exact ⟨(ih _).1.trans hloggers, (ih _).2.trans hsetup⟩

section

variable [YamlLibrary]

/-- **One set-up.** Whatever was in force before, the set-up of the call is in force after it. -/
theorem inForce_configure {files : Files} (env : Environment) {c : LogCall} (hopen : c.setup.Opens files)
    (before : Option Log) : ∃ l, configure files env c.arguments before = .ok l ∧ l.InForce c.setup := by
  obtain ⟨records, hsetup⟩ := c.exists_setup env hopen
  let old := (before.getD ⟨c.setup, .initial, [], []⟩).write records
  let new : Log := { old with setup := c.setup, loggers := old.loggers.install c.setup }
  obtain ⟨hloggers, hkeep⟩ := new.write_loggers [c.setup.report]
  refine ⟨new.write [c.setup.report], ?_, ?_⟩
  · unfold configure
    rw [hsetup]
    rfl
  · constructor
    · exact hkeep
    · rw [hloggers]
      exact old.loggers.handlers_install c.setup
    · rw [hloggers]
      exact LogLevel.value_min c.setup.fileLevel c.setup.consoleLevel
    · rw [hloggers]
      exact old.loggers.ownLevel?_install c.setup

lemma configureAll_append {files : Files} {env : Environment} {calls : List LogArguments} {a : LogArguments}
    {before : Option Log} {l : Log} (hbefore : configureAll files env calls = .ok before)
    (hl : configure files env a before = .ok l) : configureAll files env (calls ++ [a]) = .ok (some l) := by
  unfold configureAll at hbefore ⊢
  rw [List.foldlM_append, hbefore]
  change ((configure files env a before).map some >>= pure) = _
  rw [hl]
  rfl

/-- Set-ups whose log files can be opened all succeed. -/
lemma exists_configureAll {files : Files} (env : Environment) {calls : List LogCall}
    (hopen : ∀ c ∈ calls, c.setup.Opens files) :
    ∃ before, configureAll files env (calls.map LogCall.arguments) = .ok before := by
  induction calls using List.reverseRecOn with
  | nil => exact ⟨none, rfl⟩
  | append_singleton calls c ih =>
    obtain ⟨before, hbefore⟩ := ih fun b hb => hopen b (List.mem_append_left _ hb)
    obtain ⟨l, hl, -⟩ := inForce_configure env (hopen c (by simp)) before
    rw [List.map_append]
    exact ⟨some l, configureAll_append hbefore hl⟩

/-- **Only the last set-up counts, and arguments override what they name.** After any number of calls of the set-up
that can open their log files, what the last of them asks for is in force. Its file and its level are those of its
arguments where they are given, else those of the section, else the defaults; the level of the console is that of
the section, else that of the file; the level of the HTTP layer is that of the section, else that of warnings. The
one exception is a call that gives both the file and the level: in it the section sets no level at all. -/
theorem configureAll_inForce {files : Files} (env : Environment) {calls : List LogCall} {c : LogCall}
    (hopen : ∀ b ∈ calls ++ [c], b.setup.Opens files) :
    ∃ l, configureAll files env ((calls ++ [c]).map LogCall.arguments) = .ok (some l) ∧ l.InForce c.setup ∧
      (c.givesBoth = false → c.setup = c.settings.overridden c.file c.level) ∧
      (c.givesBoth = true → c.setup =
        let u := c.settings.overridden c.file c.level
        { u with consoleLevel := u.fileLevel, httpLevel := .number LogLevel.warning }) := by
  obtain ⟨before, hbefore⟩ := exists_configureAll env fun b hb => hopen b (List.mem_append_left _ hb)
  obtain ⟨l, hl, hforce⟩ := inForce_configure env (hopen c (by simp)) before
  refine ⟨l, ?_, hforce, c.setup_of_not_givesBoth, c.setup_of_givesBoth⟩
  rw [List.map_append]
  exact configureAll_append hbefore hl

/-- A set-up that is repeated has its handlers once: what it asks for is in force as it is after a single one. -/
theorem configureAgain_inForce {files : Files} (env : Environment) {c : LogCall} (hopen : c.setup.Opens files)
    (repetitions : Nat) : ∃ l, configureAgain files env c.arguments repetitions = .ok l ∧ l.InForce c.setup := by
  induction repetitions with
  | zero => exact inForce_configure env hopen none
  | succ n ih =>
    obtain ⟨before, hbefore, -⟩ := ih
    obtain ⟨l, hl, hforce⟩ := inForce_configure env hopen (some before)
    refine ⟨l, ?_, hforce⟩
    rw [configureAgain, hbefore]
    exact hl

end

/-- Settings that keep the console to errors. -/
def quietSettings : Settings := .ofDatum (.object [("LOGGING", .object [("LEVEL", .str "debug"),
  ("CONSOLE_LEVEL", .int 40), ("HTTP_LEVEL", .none)])])

/-- A call with these settings, and a level or none. -/
def quietCall (file level : Option String) : LogArguments :=
  ⟨(file.map Datum.str).getD .none, (level.map Datum.str).getD .none, some quietSettings, none⟩

lemma quietSettings_reads : ∃ s es, some quietSettings = some s ∧ s.HasSection "LOGGING" es ∧
    LogSection.Reads ⟨none, some (.number 10), some (.number 40), none⟩ es := by
  refine ⟨_, _, rfl, .dict rfl, ?_⟩
  exact ⟨.absent, .given (.name ⟨rfl⟩), .given (.number 40), .absent⟩

/-- A call that gives both comes first, and then one that gives the level alone. -/
theorem configureAll_inForce_two_calls :
    ∃ l, configureAll (fun _ => none) (fun _ => none)
        [quietCall (some "a.log") (some "info"), quietCall none (some "warning")] = .ok (some l) ∧
      l.InForce ⟨.plain "logs/weaviate_query.log", .number 30, .number 40, .number 30⟩ := by
  let both : LogCall := ⟨quietCall (some "a.log") (some "info"), some (.plain "a.log"), some (.number 20), _,
    .given ⟨by decide⟩, .given ⟨rfl⟩, quietSettings_reads⟩
  let leveled : LogCall := ⟨quietCall none (some "warning"), none, some (.number 30), _,
    .absent, .given ⟨rfl⟩, quietSettings_reads⟩
  have hopen : ∀ c ∈ [both] ++ [leveled], c.setup.Opens fun _ => none := by
    intro c hc
    obtain rfl | rfl : c = both ∨ c = leveled := by simpa using hc
    all_goals exact ⟨by decide, fun _ _ => .inl rfl, nofun, nofun⟩
  obtain ⟨l, hl, hforce, -, -⟩ := configureAll_inForce (fun _ => none) hopen
  exact ⟨l, hl, hforce⟩

/-- With both the file and the level given, the console takes what the settings would keep from it. -/
theorem configure_both_given :
    quietSettings.get "LOGGING.CONSOLE_LEVEL" .none = .int 40 ∧
    ∃ l, configure (fun _ => none) (fun _ => none) (quietCall (some "t.log") (some "INFO")) none = .ok l ∧
      l.loggers.handlers = [.file "t.log" (.number 20), .console (.number 20)] := by
  let both : LogCall := ⟨quietCall (some "t.log") (some "INFO"), some (.plain "t.log"), some (.number 20), _,
    .given ⟨by decide⟩, .given ⟨rfl⟩, quietSettings_reads⟩
  have hopen : both.setup.Opens fun _ => none := ⟨by decide, fun _ _ => .inl rfl, nofun, nofun⟩
  obtain ⟨l, hl, hforce⟩ := inForce_configure (fun _ => none) hopen none
  have hpath : both.setup.path = "t.log" := by decide
  refine ⟨rfl, l, hl, ?_⟩
  rw [hforce.handlers, hpath]
  rfl

end Log

end VectorQuery
