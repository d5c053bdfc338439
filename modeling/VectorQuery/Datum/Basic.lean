import VectorQuery.Vocabulary
import VectorQuery.Moment
import VectorQuery.Number.Double
/-! Plain data: what configuration files, response bodies and error reports are made of, and what
callers may hand over where one exact type is asked for. -/
namespace VectorQuery

/-- Text, with the mark that decides how it is written into a document. -/
inductive MarkedText
  /-- written as a quoted string -/
  | plain (s : String)
  /-- written bare, as an enum value -/
  | bare (s : String)
  /-- written as a block string -/
  | block (s : String)
  /-- a word of a vocabulary, which stands for its symbol -/
  | word (w : Word)
  deriving DecidableEq

namespace MarkedText

/-- The characters, whatever the mark. -/
def content : MarkedText → String
  | plain s => s
  | bare s => s
  | block s => s
  | word w => w.symbol

/-- The text as it reads inside another text: a word shows its vocabulary. -/
def shown : MarkedText → String
  | plain s => s
  | bare s => s
  | block s => s
  | word w => w.qualified

def isEmpty (t : MarkedText) : Bool := t.content.isEmpty

/-- The same characters; marks do not count. -/
def same (a b : MarkedText) : Bool := a.content == b.content

@[simp] theorem content_plain (s : String) : (plain s).content = s := rfl
@[simp] theorem content_bare (s : String) : (bare s).content = s := rfl
@[simp] theorem content_block (s : String) : (block s).content = s := rfl

end MarkedText

/-- Plain data. Sequences are lists or tuples; a set has each item once and a dictionary each key, and
both keep their order; a record is the view of one of the library's own objects. -/
inductive Datum
  | none
  | bool (b : Bool)
  | int (i : Int)
  | float (d : Double)
  | text (t : MarkedText)
  | bytes (bs : List UInt8)
  | day (d : Day)
  | moment (t : Moment)
  | list (xs : List Datum)
  | tuple (xs : List Datum)
  | set (xs : List Datum)
  | dict (entries : List (Datum × Datum))
  | record (name : String) (fields : List (String × Datum))

namespace Datum

/-- The entries of a dictionary, in order. -/
abbrev Entries := List (Datum × Datum)

instance : Inhabited Datum := ⟨.none⟩

/-- Unmarked text. -/
def str (s : String) : Datum := .text (.plain s)

/-- A dictionary with text keys. -/
def object (entries : List (String × Datum)) : Datum :=
  .dict (entries.map fun (k, v) => (str k, v))

def num : Num → Datum
  | .int i => .int i
  | .float d => .float d

def isNone : Datum → Bool
  | .none => true
  | _ => false

def text? : Datum → Option MarkedText
  | .text t => some t
  | _ => Option.none

/-- A number; truth values are none. -/
def num? : Datum → Option Num
  | .int i => some (.int i)
  | .float d => some (.float d)
  | _ => Option.none

def dict? : Datum → Option Entries
  | .dict es => some es
  | _ => Option.none

/-- Empty, zero and absent data count as false. -/
def truthy : Datum → Bool
  | .none => false
  | .bool b => b
  | .int i => i != 0
  | .float d => !(Num.same (.float d) (.int 0))
  | .text t => !t.isEmpty
  | .bytes bs => !bs.isEmpty
  | .day _ => true
  | .moment _ => true
  | .list xs => !xs.isEmpty
  | .tuple xs => !xs.isEmpty
  | .set xs => !xs.isEmpty
  | .dict es => !es.isEmpty
  | .record .. => true

/-- The data, or a default where it counts as false. -/
def orElse (d other : Datum) : Datum := if d.truthy then d else other

/-- The value of the entry with a text key. -/
def lookup (key : String) : Entries → Option Datum
  | [] => Option.none
  | (.text t, v) :: r => if t.content == key then some v else lookup key r
  | _ :: r => lookup key r

/-- The entry of a dictionary with a text key; other data have none. -/
def get? (d : Datum) (key : String) : Option Datum := d.dict?.bind (lookup key)

/-- The name of the kind of data. -/
def kindName : Datum → String
  | .none => "NoneType"
  | .bool _ => "bool"
  | .int _ => "int"
  | .float _ => "float"
  | .text (.plain _) => "str"
  | .text (.bare _) => "EnumValue"
  | .text (.block _) => "BlockString"
  | .text (.word (.operator _)) => "Operator"
  | .text (.word (.combinator _)) => "CombinatorKind"
  | .text (.word (.direction _)) => "SortDirection"
  | .text (.word (.mode _)) => "GenerateMode"
  | .text (.word (.metric _)) => "Metric"
  | .bytes _ => "bytes"
  | .day _ => "date"
  | .moment _ => "datetime"
  | .list _ => "list"
  | .tuple _ => "tuple"
  | .set _ => "set"
  | .dict _ => "dict"
  | .record name _ => name

/-- What a sequence runs over: items, keys, characters or bytes; other data are no sequence. -/
def items? : Datum → Option (List Datum)
  | .list xs => some xs
  | .tuple xs => some xs
  | .set xs => some xs
  | .dict es => some (es.map Prod.fst)
  | .text t => some (t.content.toList.map fun c => str (String.singleton c))
  | .bytes bs => some (bs.map fun b => .int b.toNat)
  | _ => Option.none

mutual

/-- Data that can be a key of a dictionary: no lists, sets or dictionaries at any depth of tuples. -/
def isKey : Datum → Bool
  | .list _ => false
  | .set _ => false
  | .dict _ => false
  | .tuple xs => areKeys xs
  | _ => true

def areKeys : List Datum → Bool
  | [] => true
  | x :: r => x.isKey && areKeys r

end

end Datum

end VectorQuery
