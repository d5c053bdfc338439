import VectorQuery.Datum.Basic
import VectorQuery.Text.Quoted
import VectorQuery.Text.Split
import VectorQuery.Number.Shortest
/-! The two texts of plain data: one that shows its kind, for messages about a value, and one that
reads as itself inside a text. -/
namespace VectorQuery
open VectorQuery.Text

/-- The text of a double. -/
def Double.show (d : Double) : String := String.ofList d.text

/-- The text of a number. -/
def Num.show : Num → String
  | .int i => toString i
  | .float d => d.show

/-- A text in quotes. -/
def quotedText (s : String) : String := String.ofList (quoted s.toList)

namespace MarkedText

/-- The quoted text, inside the name of its mark. -/
def detailed : MarkedText → String
  | plain s => quotedText s
  | bare s => "EnumValue(" ++ quotedText s ++ ")"
  | block s => "BlockString(" ++ quotedText s ++ ")"
  | word w => "<" ++ w.qualified ++ ": " ++ quotedText w.symbol ++ ">"

end MarkedText

/-- An offset as a constructor call: days below zero, then seconds of the day and microseconds, where there
are some. -/
def Offset.detailed (o : Offset) : String :=
  if o.microseconds = 0 then "datetime.timezone.utc"
  else
    let ofDay := o.microseconds % 86400000000
    let parts := (if o.microseconds < 0 then ["days=-1"] else []) ++
      (if ofDay / 1000000 = 0 then [] else ["seconds=" ++ toString (ofDay / 1000000)]) ++
      (if ofDay % 1000000 = 0 then [] else ["microseconds=" ++ toString (ofDay % 1000000)])
    "datetime.timezone(datetime.timedelta(" ++ ", ".intercalate parts ++ "))"

namespace Moment

/-- A moment as a constructor call, without trailing parts that are zero. -/
def detailed (t : Moment) : String :=
  let parts := [t.year, t.month, t.day, t.hour, t.minute] ++
    (if t.microsecond ≠ 0 then [t.second, t.microsecond]
      else if t.second ≠ 0 then [t.second] else [])
  "datetime.datetime(" ++ ", ".intercalate (parts.map toString) ++
    (match t.offset with
      | none => ""
      | some o => ", tzinfo=" ++ o.detailed) ++ ")"

end Moment

/-- A day as a constructor call. -/
def Day.detailed (d : Day) : String :=
  "datetime.date(" ++ ", ".intercalate ([d.year, d.month, d.day].map toString) ++ ")"

namespace Datum

mutual

/-- The text that shows the kind of the data as well. -/
def detailed : Datum → String
  | .none => "None"
  | .bool b => if b then "True" else "False"
  | .int i => toString i
  | .float d => d.show
  | .text t => t.detailed
  | .bytes bs => String.ofList (quotedBytes bs)
  | .day d => d.detailed
  | .moment t => t.detailed
  | .list xs => "[" ++ ", ".intercalate (detailedItems xs) ++ "]"
  | .tuple [x] => "(" ++ x.detailed ++ ",)"
  | .tuple xs => "(" ++ ", ".intercalate (detailedItems xs) ++ ")"
  | .set [] => "set()"
  | .set xs => "\x7b" ++ ", ".intercalate (detailedItems xs) ++ "\x7d"
  | .dict es => "\x7b" ++ ", ".intercalate (detailedEntries es) ++ "\x7d"
  | .record name fs => name ++ "(" ++ ", ".intercalate (detailedFields fs) ++ ")"

def detailedItems : List Datum → List String
  | [] => []
  | x :: r => x.detailed :: detailedItems r

def detailedEntries : List (Datum × Datum) → List String
  | [] => []
  | (k, v) :: r => (k.detailed ++ ": " ++ v.detailed) :: detailedEntries r

def detailedFields : List (String × Datum) → List String
  | [] => []
  | (n, v) :: r => (n ++ "=" ++ v.detailed) :: detailedFields r

end

/-- The text of the data inside another text. -/
def shown : Datum → String
  | .text t => t.shown
  | .day d => String.ofList d.iso
  | .moment t => String.ofList (t.text ' ')
  | d => d.detailed

end Datum

end VectorQuery
