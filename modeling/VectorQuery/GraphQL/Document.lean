import VectorQuery.GraphQL.Value
/-! The layout of a document: one selection a line, each indented by its depth. -/
namespace VectorQuery.GraphQL

/-- A selection: one line of text, or a header with selections of its own. -/
inductive Selection
  | line (text : List Char)
  | block (header : List Char) (children : List Selection)

namespace Selection

/-- The indentation at a depth. -/
def pad (indent : List Char) (depth : Nat) : List Char := (List.replicate depth indent).flatten

theorem mem_of_mem_pad {indent : List Char} {depth : Nat} {c : Char} (h : c ∈ pad indent depth) :
    c ∈ indent := by
  obtain ⟨w, hw, hc⟩ := List.mem_flatten.1 h
  exact List.eq_of_mem_replicate hw ▸ hc

mutual

/-- The lines of a selection at a depth. -/
def lines (indent : List Char) (depth : Nat) : Selection → List (List Char)
  | .line text => [pad indent depth ++ text]
  | .block header children =>
    (pad indent depth ++ header ++ [' ', '{']) :: linesAll indent (depth + 1) children ++
      [pad indent depth ++ ['}']]

def linesAll (indent : List Char) (depth : Nat) : List Selection → List (List Char)
  | [] => []
  | s :: r => lines indent depth s ++ linesAll indent depth r

end

end Selection

/-- A document with one root field, and one field with arguments and selections below it. -/
structure Document where
  operation : List Char
  collection : List Char
  /-- the argument list as it is written -/
  arguments : List Char
  selection : List Selection

namespace Document

/-- The lines of a document. -/
def lines (doc : Document) (indent : List Char) : List (List Char) :=
  ['{'] :: Selection.lines indent 1
    (.block doc.operation [.block (doc.collection ++ doc.arguments) doc.selection]) ++ [['}']]

/-- The text of a document, every line ended. -/
def chars (doc : Document) (indent : List Char) : List Char :=
  (doc.lines indent).flatMap fun line => line ++ ['\n']

/-- The text of a document. -/
def render (doc : Document) (indent : List Char) : String := String.ofList (doc.chars indent)

end Document

end VectorQuery.GraphQL
