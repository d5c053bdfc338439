import VectorQuery.Quantity
import VectorQuery.Text.Split
/-! Text that says something: it holds a character that is not blank. -/
namespace VectorQuery

/-- Whether a text holds more than blanks. -/
def MarkedText.isPhrase (t : MarkedText) : Bool := !Text.allBlank t.content.toList

structure Phrase where
  text : MarkedText
  valid : text.isPhrase = true

namespace Phrase

def view (p : Phrase) : Datum := .text p.text

def content (p : Phrase) : String := p.text.content

/-- The value as a text that is not blank. -/
def check (subject : String) : Datum → Checked Phrase
  | .text t =>
    if h : t.isPhrase = true then .ok ⟨t, h⟩
    else reject (.mustBe subject .nonEmptyString (.text t))
  | d => reject (.mustBe subject .nonEmptyString d)

end Phrase

/-- One phrase or more. -/
structure Phrases where
  head : Phrase
  tail : List Phrase

namespace Phrases

def toList (ps : Phrases) : List Phrase := ps.head :: ps.tail

def texts (ps : Phrases) : List MarkedText := ps.toList.map Phrase.text

def view (ps : Phrases) : Datum := .tuple (ps.toList.map Phrase.view)

/-- A single text, or a sequence of texts. -/
def check (name : String) (d : Datum) : Checked Phrases := do
  let items ← match d with
    | .text t => .ok [Datum.text t]
    | d => itemsOf d
  match ← items.mapM (Phrase.check (name ++ " concept")) with
  | [] => reject (.noConcepts name)
  | p :: ps => pure ⟨p, ps⟩

end Phrases

end VectorQuery
