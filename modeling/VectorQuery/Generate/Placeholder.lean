import VectorQuery.GraphQL.Name
import VectorQuery.Distinct
/-! The properties a prompt interpolates: every name between braces. -/
namespace VectorQuery.Generate
open GraphQL

/-- The name between the opening brace before a text and the closing one right after the name. -/
def placeholderAt (s : List Char) : Option (List Char) :=
  match s with
  | [] => none
  | c :: r =>
    let tail := r.takeWhile isNameChar
    match r.drop tail.length with
    | '}' :: _ => if isNameStart c then some (c :: tail) else none
    | _ => none

/-- The names between braces, in order, with repetitions. -/
def placeholders : List Char → List (List Char)
  | [] => []
  | '{' :: r =>
    match placeholderAt r with
    | some name => name :: placeholders r
    | none => placeholders r
  | _ :: r => placeholders r

/-- The properties a prompt needs: its placeholders, then the explicit ones, each once. -/
def promptProperties (template : String) (explicit : List String) : List String :=
  distinct (· == ·) ((placeholders template.toList).map String.ofList ++ explicit)

example : placeholders "{a{b}} {c }{d}".toList = ["b".toList, "d".toList] := by decide

end VectorQuery.Generate
