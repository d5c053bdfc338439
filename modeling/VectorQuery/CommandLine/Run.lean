import VectorQuery.Client.Call
import VectorQuery.CommandLine.Descriptor
import VectorQuery.CommandLine.Report
import VectorQuery.Log.Setup
import VectorQuery.Settings.Rendering
import VectorQuery.Transport.Execute
import VectorQuery.Transport.OfSettings
/-! What the command line does: print a query, or run it and print its rows. -/
namespace VectorQuery.CommandLine

/-- A run up to the point where it has nothing to send, or waits for the answer to its request. -/
inductive Plan
  | done (report : Report)
  | send (transport : Transport) (exchange : Exchange (Noted Extraction))

/-- How the log is set up for a command line: as its settings say, but with every record if that is asked for. -/
def Arguments.logging (a : Arguments) (s : Settings) : LogArguments where
  file := .none
  level := if a.debug then .str "DEBUG" else .none
  settings := some s
  path := none

namespace Plan

/-- The plan of a command line with its settings. -/
def ofSettings [HttpLibrary] (a : Arguments) (s : Settings) : Checked Plan := do
  let q ← a.descriptor
  if a.renderOnly then
    let text ← q.render (← RendererConfig.ofSettings s)
    pure (.done ⟨0, text, ""⟩)
  else
    let transport ← Transport.ofSettings s
    let exchange ← Client.get (← RendererConfig.ofSettings s) q
    pure (.send transport exchange)

/-- The plan of a command line. The log is set up before anything else is made of the settings. -/
def make [YamlLibrary] [HttpLibrary] (files : Files) (env : Environment) (a : Arguments) : Checked Plan := do
  let s ← Settings.load files env (some a.configFile)
  let _ ← (a.logging s).setup files env
  ofSettings a s

/-- The report of an exchange with the result of its request. -/
def answered (exchange : Exchange (Noted Extraction)) (result : Checked Datum) : Checked Report :=
  result.map fun d => Report.ofExtraction (exchange.read d).value

/-- What becomes of a plan whose requests have known outcomes: the report, and what was sent. -/
def carryOut [HttpLibrary] [RetryLibrary] (outcomes : Nat → Outcome) :
    Checked Plan → Checked Report × List Sent
  | .error e => (Report.settle (.error e), [])
  | .ok (.done report) => (.ok report, [])
  | .ok (.send transport exchange) =>
    let (result, sent) := transport.execute outcomes exchange.request
    (Report.settle (answered exchange result), sent)

end Plan

/-- A run whose requests have known outcomes: its report, and what it sent. -/
def run [YamlLibrary] [HttpLibrary] [RetryLibrary] (files : Files) (env : Environment)
    (outcomes : Nat → Outcome) (a : Arguments) : Checked Report × List Sent :=
  Plan.carryOut outcomes (Plan.make files env a)

end VectorQuery.CommandLine
