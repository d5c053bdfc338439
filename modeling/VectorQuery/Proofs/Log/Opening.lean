import VectorQuery.Log.Setup
import VectorQuery.Proofs.Settings.Construction

/-! What setting up the log demands. It needs a section that is a dictionary, a file that can be opened, and settings
of levels that do not name something else. Whatever is wrong with them is noticed only where they are used, and so
nothing reports it. -/
namespace VectorQuery
open Checked
open Settings (setting)

/-! ### The file -/

/-- A file can be opened for writing at a path: neither a file nor an unreachable place is on the way to it, and it is
no such place and no directory itself. -/
structure Files.Opens (files : Files) (path : String) : Prop where
  noNull : '\x00' ∉ path.toList
  way : ∀ p ∈ FilePath.above path, files p = none ∨ files p = some .directory
  noDirectory : files (FilePath.resolved path) ≠ some .directory
  reachable : files (FilePath.resolved path) ≠ some .unreachable

lemma Files.isEnd_eq_false_iff {files : Files} {p : String} :
    (files p).any FileEntry.isEnd = false ↔ files p = none ∨ files p = some .directory := by
  match files p with
  | none => simp
  | some .directory => simp [FileEntry.isEnd]
  | some (.text _) => simp [FileEntry.isEnd]
  | some .unreachable => simp [FileEntry.isEnd]

namespace LogSetup

lemma demands_openFile (files : Files) (u : LogSetup) : Demands (u.openFile files) (files.Opens u.file.content) := by
  unfold openFile
  split
  · rename_i h
    exact demands_error .badValue fun ho => ho.noNull (by simpa using h)
  rename_i hnull
  split
  · rename_i h
    obtain ⟨p, hp, hend⟩ := List.any_eq_true.1 h
    refine demands_error .nameTooLong fun ho => ?_
    rw [Files.isEnd_eq_false_iff.2 (ho.way p hp)] at hend
    cases hend
  rename_i hway
  split
  · rename_i h
    exact demands_error .isDirectory fun ho => ho.noDirectory h
  · rename_i h
    exact demands_error .nameTooLong fun ho => ho.reachable h
  · rename_i hdirectory hreachable
    have hfree : ∀ p ∈ FilePath.above u.file.content, (files p).any FileEntry.isEnd = false := by simpa using hway
    exact demands_ok () ⟨by simpa using hnull, fun p hp => Files.isEnd_eq_false_iff.1 (hfree p hp), hdirectory, hreachable⟩

lemma isUnchecked_make (file level : Datum) (es : Datum.Entries) : FailsIn Fault.IsUnchecked (make file level es) := by
  unfold make
  dsimp only
  split
  · exact failsIn_ok _
  · exact failsIn_error .wrongType

/-- What names the log file: its caller, or else the section, or else the default. -/
def named (file : Datum) (es : Datum.Entries) : Datum :=
  file.orElse ((setting es "LOG_FILE" .none).orElse (.str "logs/weaviate_query.log"))

lemma exists_make_iff {file level : Datum} {es : Datum.Entries} {P : MarkedText → Prop} :
    (∃ u, make file level es = .ok u ∧ P u.file) ↔
      ∃ t : MarkedText, named file es = .text t ∧ P t := by
  have hfile : file.orElse ((setting es "LOG_FILE" .none).orElse defaultFile) = named file es := rfl
  unfold make
  dsimp only
  rw [hfile]
  cases named file es with
  | text t => simp
  | _ => simp

end LogSetup

/-! ### The levels -/

/-- A setting that names something else than a level, in any case of its letters. -/
def LogLevel.NamesOther (d : Datum) : Prop :=
  ∃ t : MarkedText, d = .text t ∧ String.ofList (Text.upper t.shown.toList) ∈ ["BASIC_FORMAT", "_STYLES"]

lemma LogLevel.lookup_otherNames (name : String) : otherNames.lookup name =
    if name = "BASIC_FORMAT" then some .badValue else if name = "_STYLES" then some .wrongType else none := by
  split_ifs with hformat hstyles
  · subst hformat
    rfl
  · subst hstyles
    rfl
  · simp [otherNames, List.lookup_cons, beq_false_of_ne hformat, beq_false_of_ne hstyles]

lemma LogLevel.demands_check (d : Datum) : Demands (check d) (¬NamesOther d) := by
  cases d with
  | text t =>
    have hnames : NamesOther (.text t) ↔ String.ofList (Text.upper t.shown.toList) = "BASIC_FORMAT" ∨
        String.ofList (Text.upper t.shown.toList) = "_STYLES" := by simp [NamesOther]
    unfold check
    rw [hnames]
    dsimp only
    rw [lookup_otherNames]
    split_ifs with hformat hstyles
    · exact demands_error .badValue fun h => h (.inl hformat)
    · exact demands_error .wrongType fun h => h (.inr hstyles)
    · exact demands_ok () (not_or.2 ⟨hformat, hstyles⟩)
  | _ => exact demands_ok () nofun

namespace LogSetup

/-- What a set-up can use: entries of a log section, under the file and the level that its caller gives. -/
structure IsUsable (files : Files) (file level : Datum) (es : Datum.Entries) : Prop where
  path : ∃ t : MarkedText, named file es = .text t ∧ files.Opens t.content
  level : ¬LogLevel.NamesOther (level.orElse (setting es "LEVEL" .none))
  consoleLevel : ¬LogLevel.NamesOther (setting es "CONSOLE_LEVEL" .none)
  httpLevel : ¬LogLevel.NamesOther (setting es "HTTP_LEVEL" .none)

lemma demands_checkLevels (level : Datum) (es : Datum.Entries) : Demands (checkLevels level es)
    (¬LogLevel.NamesOther (level.orElse (setting es "LEVEL" .none)) ∧
      ¬LogLevel.NamesOther (setting es "CONSOLE_LEVEL" .none) ∧ ¬LogLevel.NamesOther (setting es "HTTP_LEVEL" .none)) := by
  unfold checkLevels
  exact (LogLevel.demands_check _).bind_and fun _ => (LogLevel.demands_check _).bind_and fun _ =>
    LogLevel.demands_check _

lemma demands_use (files : Files) (file level : Datum) (es : Datum.Entries) (records : List LogRecord) :
    Demands (do
      let u ← make file level es
      u.openFile files
      checkLevels level es
      pure (u, records)) (IsUsable files file level es) := by
  have hmake : Demands (make file level es) (∃ u, make file level es = .ok u) :=
    ⟨Iff.rfl, isUnchecked_make file level es⟩
  refine (hmake.bind fun u => (demands_openFile files u).bind_and fun _ =>
    (demands_checkLevels level es).bind_and fun _ => demands_ok (u, records) trivial).congr ?_
  rw [exists_make_iff (P := fun t => files.Opens t.content ∧ _ ∧ True)]
  constructor
  · rintro ⟨t, ht, hopen, ⟨hlevel, hconsole, hhttp⟩, -⟩
    exact ⟨⟨t, ht, hopen⟩, hlevel, hconsole, hhttp⟩
  · rintro ⟨⟨t, ht, hopen⟩, hlevel, hconsole, hhttp⟩
    exact ⟨t, ht, hopen, ⟨hlevel, hconsole, hhttp⟩, trivial⟩

end LogSetup

/-- With loaded settings, and without both a file and a level of its caller, a set-up needs a section to use. -/
theorem LogArguments.demands_setup [YamlLibrary] (files : Files) (env : Environment) {a : LogArguments} {s : Settings}
    (hsettings : a.settings = some s) (hread : (a.file.truthy && a.level.truthy) = false) :
    Demands (a.setup files env)
      (∃ es, s.HasSection "LOGGING" es ∧ LogSetup.IsUsable files a.file a.level es) := by
  have hsection : a.findSection files env = LogArguments.sectionOf s := by
    unfold findSection
    rw [hread, hsettings]
    rfl
  have h := (Settings.demands_entries s "LOGGING").bind fun es => LogSetup.demands_use files a.file a.level es
    (if (s.get? "LOGGING").isSome then [] else [missingSection])
  simp only [Settings.entries_eq_ok_iff] at h
  unfold setup
  rw [hsection, sectionOf]
  cases hes : s.entries "LOGGING" with
  | error e => rwa [hes] at h
  | ok es => rwa [hes] at h

end VectorQuery
