import VectorQuery.Datum.Basic
/-! References to environment variables inside a tree of settings. -/
namespace VectorQuery

/-- The variables of an environment. -/
abbrev Environment := String → Option String

namespace Environment

/-- The name that a text refers to as a whole: what stands between the two braces. -/
def reference? (s : List Char) : Option (List Char) :=
  match s with
  | '$' :: '{' :: r => if r.getLast? = some '}' then some r.dropLast else none
  | _ => none

/-- The value that stands for a text: that of its variable, or the text itself. -/
def substituteText (env : Environment) (t : MarkedText) : Datum :=
  match reference? t.content.toList with
  | none => .text t
  | some name =>
    match env (String.ofList name) with
    | some value => .str value
    | none => .none

mutual

/-- The names of the variables that a tree refers to. -/
def references : Datum → List String
  | .text t => (reference? t.content.toList).toList.map String.ofList
  | .list xs => referencesItems xs
  | .dict es => referencesEntries es
  | _ => []

def referencesItems : List Datum → List String
  | [] => []
  | x :: r => references x ++ referencesItems r

def referencesEntries : Datum.Entries → List String
  | [] => []
  | (_, v) :: r => references v ++ referencesEntries r

end

mutual

/-- The tree with every reference replaced; keys, tuples and other data stay as they are. -/
def substitute (env : Environment) : Datum → Datum
  | .text t => env.substituteText t
  | .list xs => .list (env.substituteItems xs)
  | .dict es => .dict (env.substituteEntries es)
  | d => d

def substituteItems (env : Environment) : List Datum → List Datum
  | [] => []
  | x :: r => env.substitute x :: env.substituteItems r

def substituteEntries (env : Environment) : Datum.Entries → Datum.Entries
  | [] => []
  | (k, v) :: r => (k, env.substitute v) :: env.substituteEntries r

end

end Environment

end VectorQuery
