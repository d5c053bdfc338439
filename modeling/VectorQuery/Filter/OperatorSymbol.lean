import VectorQuery.GraphQL.Name
import VectorQuery.Notice
import VectorQuery.Text.Split
import VectorQuery.Text.Upper
/-! Operators of conditions: the known ones, and any other symbol whose camel case is a name. -/
namespace VectorQuery
open Text

/-- A word with its first letter in upper case. -/
def capitalize : List Char → List Char
  | [] => []
  | c :: r => upperChar c ++ r

/-- The parts between underscores, each capitalized and joined. -/
def camelize (s : List Char) : List Char := (splitOn '_' s).flatMap capitalize

/-- Text as an operator's name on the wire. -/
def camelText (s : String) : String := String.ofList (camelize s.toList)

/-- Text that may stand as an operator outside the table. -/
def MarkedText.isOperatorSymbol (t : MarkedText) : Bool :=
  GraphQL.isName (camelize t.content.toList)

inductive OperatorSymbol
  | known (o : Operator)
  | other (t : MarkedText) (valid : t.isOperatorSymbol = true)

namespace OperatorSymbol

def view : OperatorSymbol → Datum
  | known o => .text (.word (.operator o))
  | other t _ => .text t

/-- The value as an operator. -/
def check (d : Datum) : Checked OperatorSymbol :=
  match d with
  | .text t =>
    if t.isEmpty then reject (.invalid "operator" d)
    else match Operator.ofSymbol? t.content with
      | some o => .ok (.known o)
      | none =>
        if h : t.isOperatorSymbol = true then .ok (.other t h)
        else reject (.invalid "operator" d)
  | _ => reject (.invalid "operator" d)

end OperatorSymbol

/-- The wire name of any value in the place of an operator. -/
def operatorName (d : Datum) : Checked (Noted String) :=
  if !d.isKey then .error .wrongType
  else match d.text?.bind fun t => Operator.ofSymbol? t.content with
    | some o => .ok ⟨o.wireName, []⟩
    | none =>
      let name := camelText d.shown
      .ok ⟨name, [.unknownOperator d name]⟩

namespace OperatorSymbol

/-- The name on the wire, with a warning for an operator outside the table. -/
def wireName : OperatorSymbol → Noted String
  | known o => ⟨o.wireName, []⟩
  | other t _ =>
    let name := camelText t.shown
    ⟨name, [.unknownOperator (.text t) name]⟩

end OperatorSymbol

end VectorQuery
