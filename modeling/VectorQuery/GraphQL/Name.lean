import VectorQuery.Fault
/-! GraphQL names: an ASCII letter or underscore, then letters, digits and underscores. One line feed
at the end is let through. -/
namespace VectorQuery

namespace GraphQL

def isNameStart (c : Char) : Bool := c == '_' || c.isAlpha

def isNameChar (c : Char) : Bool := isNameStart c || c.isDigit

/-- Name characters to the end, or to a final line feed. -/
def isNameTail : List Char → Bool
  | [] => true
  | ['\n'] => true
  | c :: r => isNameChar c && isNameTail r

/-- What is accepted as a name. -/
def isName : List Char → Bool
  | [] => false
  | c :: r => isNameStart c && isNameTail r

end GraphQL

/-- Text that was accepted as a name. -/
structure Name where
  text : MarkedText
  valid : GraphQL.isName text.content.toList = true

namespace Name

def content (n : Name) : String := n.text.content

def view (n : Name) : Datum := .text n.text

/-- The value as a name; `what` says in the message what it names. -/
def check (what : String) : Datum → Checked Name
  | .text t =>
    if h : GraphQL.isName t.content.toList = true then .ok ⟨t, h⟩
    else reject (.invalid what (.text t))
  | d => reject (.invalid what d)

end Name

/-- Whether plain data are accepted as a name. -/
def Datum.isName : Datum → Bool
  | .text t => GraphQL.isName t.content.toList
  | _ => false

end VectorQuery
