import VectorQuery.CommandLine.Flag
import VectorQuery.Text.Digit
import VectorQuery.Text.Split
/-! The items of a command line: flags, perhaps cut short or with a value after an equals sign, values,
and a separator after which everything is a value. -/
namespace VectorQuery.CommandLine
open VectorQuery.Text

inductive Item
  | value (text : String)
  | separator
  | flag (f : Flag) (explicit : Option String)
  /-- what looks like a flag and is none -/
  | stranger (text : String)

/-- A number with a minus sign is a value, not a flag. -/
def isNegativeNumber (s : List Char) : Bool :=
  let isNumeral (ds : List Char) : Bool := !ds.isEmpty && ds.all fun c => (digitValue? c).isSome
  let body := if s.getLast? = some '\n' then s.dropLast else s
  match body with
  | '-' :: r =>
    match splitOn '.' r with
    | [ds] => isNumeral ds
    | [whole, places] => (whole.isEmpty || isNumeral whole) && isNumeral places
    | _ => false
  | _ => false

/-- A text before its first equals sign, and the value after that. -/
def cutValue (s : List Char) : String × Option String :=
  match cut? '=' s with
  | none => (String.ofList s, none)
  | some (name, value) => (String.ofList name, some (String.ofList value))

/-- The values that a text after an equals sign gives; two dashes alone give none. -/
def explicitValues (text : String) : List String := if text = "--" then [] else [text]

/-- The spellings that a text with two dashes cuts short. -/
def completions (name : String) : List (String × Flag) :=
  Flag.table.filter fun (spelling, _) => name.toList.isPrefixOf spelling.toList

/-- What is left of a text after the help flag of one letter: the letter may come again, and anything
else is a value that the flag does not take. -/
def afterHelp (r : List Char) : Option String :=
  match r.dropWhile (· = 'h') with
  | [] => none
  | value => some (String.ofList value)

/-- What a text is that begins with a dash and is no spelling of a flag. -/
def dashed (s : List Char) : Except UsageFault Item :=
  let other : Item :=
    if isNegativeNumber s || s.contains ' ' then .value (String.ofList s)
    else .stranger (String.ofList s)
  match s with
  | '-' :: '-' :: _ =>
    let (name, explicit) := cutValue s
    match Flag.table.lookup name, completions name with
    | some f, _ => .ok (.flag f explicit)
    | none, [] => .ok other
    | none, [(_, f)] => .ok (.flag f explicit)
    | none, several => .error (.ambiguous (String.ofList s) (several.map Prod.fst))
  | ['-', 'h', '='] => .ok (.flag .help (some ""))
  | '-' :: 'h' :: '=' :: r => .ok (.flag .help (afterHelp r))
  | '-' :: 'h' :: r => .ok (.flag .help (afterHelp r))
  | _ => .ok other

/-- What one text before the separator is. -/
def itemOf (text : String) : Except UsageFault Item :=
  match Flag.table.lookup text with
  | some f => .ok (.flag f none)
  | none =>
    match text.toList with
    | '-' :: c :: r => dashed ('-' :: c :: r)
    | _ => .ok (.value text)

/-- The items of a command line. -/
def itemsOf : List String → Except UsageFault (List Item)
  | [] => .ok []
  | text :: r =>
    if text = "--" then .ok (.separator :: r.map .value)
    else do
      let item ← itemOf text
      let items ← itemsOf r
      pure (item :: items)

end VectorQuery.CommandLine
