import VectorQuery.Log.Level
import VectorQuery.Settings.Files
/-! Where log records go and from which levels on: explicit arguments win over the section `LOGGING` of
the settings. -/
namespace VectorQuery
open Settings (setting)

/-- A record of the log. -/
structure LogRecord where
  logger : String
  level : Int
  message : String

/-- Where records go. -/
structure LogSetup where
  /-- the path of the log file as it was given -/
  file : MarkedText
  fileLevel : LogLevel
  consoleLevel : LogLevel
  /-- the level of the loggers of the HTTP layer -/
  httpLevel : LogLevel

/-- What the caller of the set-up gives; absent or empty values are not given. -/
structure LogArguments where
  file : Datum
  level : Datum
  /-- settings that are loaded already -/
  settings : Option Settings
  /-- where to load settings from otherwise -/
  path : Option String

namespace LogSetup

/-- The log file when nobody names one. -/
def defaultFile : Datum := .str "logs/weaviate_query.log"

/-- The level of the root logger: no handler misses a record because of it. -/
def rootLevel (s : LogSetup) : LogLevel := .min s.fileLevel s.consoleLevel

/-- The set-up for arguments and a section of settings. -/
def make (file level : Datum) (es : Datum.Entries) : Checked LogSetup := do
  let fileLevel := LogLevel.ofDatum (level.orElse (setting es "LEVEL" .none)) (.number LogLevel.info)
  let consoleLevel := LogLevel.ofDatum (setting es "CONSOLE_LEVEL" .none) fileLevel
  let httpLevel := LogLevel.ofDatum (setting es "HTTP_LEVEL" .none) (.number LogLevel.warning)
  match file.orElse ((setting es "LOG_FILE" .none).orElse defaultFile) with
  | .text t => .ok ⟨t, fileLevel, consoleLevel, httpLevel⟩
  | _ => .error .wrongType

/-- The path of the log file in its shortest spelling. -/
def path (s : LogSetup) : String := FilePath.resolved s.file.content

/-- Opens the log file, with the directories on the way to it. -/
def openFile (files : Files) (s : LogSetup) : Checked Unit :=
  if s.file.content.toList.contains '\x00' then .error .badValue
  else if (FilePath.above s.file.content).any fun p => (files p).any FileEntry.isEnd then .error .nameTooLong
  else match files s.path with
    | some .directory => .error .isDirectory
    | some .unreachable => .error .nameTooLong
    | _ => .ok ()

/-- Checks the settings of levels in the order in which the levels are set. -/
def checkLevels (level : Datum) (es : Datum.Entries) : Checked Unit := do
  LogLevel.check (level.orElse (setting es "LEVEL" .none))
  LogLevel.check (setting es "CONSOLE_LEVEL" .none)
  LogLevel.check (setting es "HTTP_LEVEL" .none)

/-- The record that reports a set-up. -/
def report (s : LogSetup) : LogRecord :=
  ⟨"weaviate_query.logging_setup", LogLevel.debug,
    "Logging configured: file=" ++ s.file.shown ++ " level=" ++ s.fileLevel.nameOf ++
      " console=" ++ s.consoleLevel.nameOf⟩

end LogSetup

namespace LogArguments
variable [YamlLibrary]

/-- The record that a look-up leaves when settings have no section. -/
def missingSection : LogRecord :=
  ⟨"Config", LogLevel.debug, "Config.get_nested(LOGGING) not found, returning default=\x7b\x7d"⟩

/-- The record that loading settings leaves. -/
def loading (path : Option String) : LogRecord :=
  ⟨"weaviate_query.config", LogLevel.info,
    "Called get_config(config_path=" ++ path.getD "None" ++ ")"⟩

/-- The section of settings, and the record left where it is missing. -/
def sectionOf (s : Settings) : Checked (Datum.Entries × List LogRecord) := do
  let es ← s.entries "LOGGING"
  pure (es, if (s.get? "LOGGING").isSome then [] else [missingSection])

/-- The section to use and the records left on the way to it. It is not looked for when both the file
and the level are given; a missing file of settings has none. -/
def findSection (files : Files) (env : Environment) (a : LogArguments) :
    Checked (Datum.Entries × List LogRecord) :=
  if a.file.truthy && a.level.truthy then .ok ([], [])
  else match a.settings with
    | some s => sectionOf s
    | none =>
      match Settings.load files env a.path with
      | .error (.missingFile _) => .ok ([], [loading a.path])
      | .error e => .error e
      | .ok s => (sectionOf s).map fun (es, records) => (es, loading a.path :: records)

/-- The set-up, and the records left on the way to it. -/
def setup (files : Files) (env : Environment) (a : LogArguments) :
    Checked (LogSetup × List LogRecord) := do
  let (es, records) ← a.findSection files env
  let s ← LogSetup.make a.file a.level es
  s.openFile files
  LogSetup.checkLevels a.level es
  pure (s, records)

end LogArguments

end VectorQuery
