import VectorQuery.Phrase
import VectorQuery.GraphQL.Name
/-! Generative directives: a prompt for a provider, with parameters and the properties it needs. -/
namespace VectorQuery

/-- Parameters of a provider; each is sent only when set. -/
structure ProviderParams where
  model : Option Phrase
  temperature : Option Quantity
  maxTokens : Option Count
  topP : Option Share

/-- A provider, as the caller wrote it. -/
structure Provider where
  text : MarkedText
  known : (providerKeys.lookup text.content).isSome = true

structure GenerateDirective where
  mode : GenerateMode
  prompt : Phrase
  provider : Provider
  params : ProviderParams
  explicitProperties : List Name

namespace ProviderParams

/-- No parameter set. -/
def unset : ProviderParams := ⟨none, none, none, none⟩

def view (p : ProviderParams) : Datum :=
  .record "ProviderParams" [("model", viewOption Phrase.view p.model),
    ("temperature", viewOption Quantity.view p.temperature),
    ("max_tokens", viewOption Count.view p.maxTokens),
    ("top_p", viewOption (·.view) p.topP)]

/-- A finite number that is not negative. -/
def checkTemperature (d : Datum) : Checked Quantity :=
  let refused : Checked Quantity := reject (.mustBe "temperature" .nonNegativeNumber d)
  match d.num? with
  | none => refused
  | some n =>
    if h : n.isFinite = true then
      if Num.lt n (.int 0) then refused else .ok ⟨n, h⟩
    else if n.toDouble?.isNone then .error .tooLarge
    else refused

/-- A share; a number that is none is refused like any other outside the range. -/
def checkTopP (d : Datum) : Checked Share :=
  let refused : Checked Share := reject (.mustBe "top_p" .share d)
  match d.num? with
  | none => refused
  | some n =>
    if h : n.isFinite = true ∧ n.inUnit = true then .ok ⟨⟨n, h.1⟩, h.2⟩ else refused

def check (model temperature maxTokens topP : Datum) : Checked ProviderParams := do
  let m ← optional (Phrase.check "model") model
  let t ← optional checkTemperature temperature
  let k ← optional (Count.check "max_tokens") maxTokens
  let p ← optional checkTopP topP
  pure ⟨m, t, k, p⟩

end ProviderParams

namespace Provider

/-- The key of the provider on the wire. -/
def key (p : Provider) : String := (providerKeys.lookup p.text.content).get p.known

def check (d : Datum) : Checked Provider :=
  match d with
  | .none => reject .providerMissing
  | .text t =>
    if h : (providerKeys.lookup t.content).isSome = true then .ok ⟨t, h⟩
    else reject (.provider d)
  | _ => reject (.provider d)

end Provider

/-- Whether a value names a provider. -/
def isProvider (d : Datum) : Bool :=
  match d with
  | .text t => providers.contains t.content
  | _ => false

namespace GenerateDirective

def view (g : GenerateDirective) : Datum :=
  .record "GenerateDirective" [("mode", .text (.word (.mode g.mode))),
    ("prompt_template", g.prompt.view), ("provider", .text g.provider.text),
    ("provider_params", g.params.view),
    ("explicit_properties", .tuple (g.explicitProperties.map Name.view))]

def checkPrompt (d : Datum) : Checked Phrase :=
  match d with
  | .none => reject .promptMissing
  | .text t => if h : t.isPhrase = true then .ok ⟨t, h⟩ else reject .promptEmpty
  | _ => reject .promptEmpty

def checkMode (d : Datum) : Checked GenerateMode :=
  match d.text?.bind fun t => GenerateMode.ofSymbol? t.content with
  | some m => .ok m
  | none => reject (.mode d)

/-- A single text, or a sequence, as the data to check one by one. -/
def oneOrMany (d : Datum) : Checked (List Datum) :=
  match d with
  | .text t => .ok [.text t]
  | d => itemsOf d

/-- Checks in order; the parameters are checked already, unless they are of another type. -/
def check (mode prompt provider : Datum) (params : Except Datum ProviderParams)
    (explicit : Datum) : Checked GenerateDirective := do
  let text ← checkPrompt prompt
  let who ← Provider.check provider
  let how ← checkMode mode
  let ps ← match params with
    | .ok ps => .ok ps
    | .error d => reject (.mustBe "provider_params" .params d)
  let names ← (← oneOrMany explicit).mapM (Name.check "property name")
  pure ⟨how, text, who, ps, names⟩

end GenerateDirective

end VectorQuery
