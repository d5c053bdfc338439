import VectorQuery.Quantity
import VectorQuery.Settings.Basic
/-! Defaults that queries and aggregations share when they are rendered, and the section of the settings that sets
them. -/
namespace VectorQuery

/-- A consistency level, as the caller wrote it. -/
structure ConsistencyLevel where
  text : MarkedText
  known : consistencyLevels.contains text.content = true

namespace ConsistencyLevel

/-- The value as a level, if it is one. -/
def ofDatum? : Datum → Option ConsistencyLevel
  | .text t => if h : consistencyLevels.contains t.content = true then some ⟨t, h⟩ else none
  | _ => none

def view (l : ConsistencyLevel) : Datum := .text l.text

end ConsistencyLevel

structure RendererConfig where
  /-- how many values `topOccurrences` asks for -/
  topOccurrencesLimit : Count
  /-- the level of a query that sets none -/
  defaultConsistencyLevel : Option ConsistencyLevel
  /-- how many spaces a level of nesting takes -/
  indent : Nat

namespace RendererConfig

/-- The settings used when none are given. -/
def standard : RendererConfig := ⟨⟨5, by decide⟩, none, 2⟩

/-- What one level of nesting is indented by. -/
def indentUnit (c : RendererConfig) : List Char := List.replicate c.indent ' '

def view (c : RendererConfig) : Datum :=
  .record "RendererConfig" [("top_occurrences_limit", c.topOccurrencesLimit.view),
    ("default_consistency_level", viewOption ConsistencyLevel.view c.defaultConsistencyLevel),
    ("indent", .int c.indent)]

/-- Refuses the value of a setting. -/
def misconfigured (setting : String) (expected : Expected) (d : Datum) : Checked α :=
  .error (.misconfigured setting expected d)

def checkLimit (d : Datum) : Checked Count :=
  match d with
  | .int i =>
    if h : 0 < i.toNat then .ok ⟨i.toNat, h⟩
    else misconfigured "TOP_OCCURRENCES_LIMIT" .positiveInteger d
  | _ => misconfigured "TOP_OCCURRENCES_LIMIT" .positiveInteger d

def checkLevel (d : Datum) : Checked ConsistencyLevel :=
  match ConsistencyLevel.ofDatum? d with
  | some l => .ok l
  | none => misconfigured "DEFAULT_CONSISTENCY_LEVEL" .consistencyLevel d

def checkIndent (d : Datum) : Checked Nat :=
  match d with
  | .int i => if 0 ≤ i then .ok i.toNat else misconfigured "INDENT" .nonNegativeInteger d
  | _ => misconfigured "INDENT" .nonNegativeInteger d

def check (limit level indent : Datum) : Checked RendererConfig := do
  let k ← checkLimit limit
  let l ← optional checkLevel level
  let n ← checkIndent indent
  pure ⟨k, l, n⟩

open Settings (setting) in
/-- The defaults that the section `RENDERING` sets; the others are the standard ones. -/
def ofSettings (s : Settings) : Checked RendererConfig := do
  let es ← s.entries "RENDERING"
  check (setting es "TOP_OCCURRENCES_LIMIT" standard.topOccurrencesLimit.view)
    (setting es "DEFAULT_CONSISTENCY_LEVEL" .none) (setting es "INDENT" (.int standard.indent))

end RendererConfig

end VectorQuery
