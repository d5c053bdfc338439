import VectorQuery.GraphQL.Name
import VectorQuery.Text.Split
/-! Selections as callers write them: a field name, and after it at most one body in braces. Braces in
string literals do not count, and nothing may follow the brace that closes the body. -/
namespace VectorQuery

namespace GraphQL

/-- The position of the first triple quote. -/
def tripleQuote? : List Char → Option Nat
  | [] => none
  | '"' :: '"' :: '"' :: _ => some 0
  | _ :: r => (tripleQuote? r).map (· + 1)

theorem tripleQuote?_add_lt {s : List Char} {k : Nat} (h : tripleQuote? s = some k) :
    k + 2 < s.length := by
  fun_induction tripleQuote? s generalizing k with
  | case1 => simp at h
  | case2 => simp only [Option.some.injEq] at h; simp only [List.length_cons]; omega
  | case3 c r _ ih =>
    obtain ⟨j, hj, rfl⟩ := Option.map_eq_some_iff.1 h
    have := ih hj
    simp only [List.length_cons]
    omega

/-- The first triple quote at or after a position. -/
def tripleQuoteFrom? (body : List Char) (start : Nat) : Option Nat :=
  (tripleQuote? (body.drop start)).map (start + ·)

theorem lt_of_tripleQuoteFrom? {body : List Char} {start k : Nat}
    (h : tripleQuoteFrom? body start = some k) : start ≤ k ∧ k + 2 < body.length := by
  obtain ⟨j, hj, rfl⟩ := Option.map_eq_some_iff.1 h
  have := tripleQuote?_add_lt hj
  rw [List.length_drop] at this
  omega

/-- The triple quote that ends a block string whose content starts at `start`: the first one that no
backslash precedes. -/
def blockEnd? (body : List Char) (start : Nat) : Option Nat :=
  match h : tripleQuoteFrom? body start with
  | none => none
  | some k =>
    if 0 < k ∧ body[k-1]? = some '\\' then blockEnd? body (k + 3) else some k
termination_by body.length - start
decreasing_by
  have := lt_of_tripleQuoteFrom? h
  omega

/-- The text after the quote that ends a string; there is none when the line or the text ends first. -/
def afterString? : List Char → Option (List Char)
  | [] => none
  | '"' :: r => some r
  | '\n' :: _ => none
  | '\\' :: _ :: r => afterString? r
  | _ :: r => afterString? r

theorem length_afterString? {s r : List Char} (h : afterString? s = some r) :
    r.length < s.length := by
  fun_induction afterString? s with
  | case1 => simp at h
  | case2 => simp only [Option.some.injEq] at h; simp [h]
  | case3 => simp at h
  | case4 c r' ih => have := ih h; simp only [List.length_cons]; omega
  | case5 c r' _ _ _ ih => have := ih h; simp only [List.length_cons]; omega

/-- Whether the text closes `depth` open braces, the last of them with its last character. -/
def closes (s : List Char) (depth : Nat) : Bool :=
  match s with
  | [] => false
  | '"' :: '"' :: '"' :: r =>
    match blockEnd? r 0 with
    | none => false
    | some k => closes (r.drop (k + 3)) depth
  | '"' :: r =>
    match _h : afterString? r with
    | none => false
    | some r' => closes r' depth
  | '#' :: _ => false
  | '{' :: r => closes r (depth + 1)
  | '}' :: r => if depth ≤ 1 then r.isEmpty else closes r (depth - 1)
  | _ :: r => closes r depth
termination_by s.length
decreasing_by
  all_goals simp only [List.length_cons, List.length_drop]
  all_goals first
    | omega
    | (have hr := length_afterString? _h; omega)

/-- Exactly one body in braces. -/
def isBody : List Char → Bool
  | '{' :: r => closes r 1
  | _ => false

/-- The name in front of a text; empty when there is none. -/
def leadingName : List Char → List Char
  | [] => []
  | c :: r => if isNameStart c then c :: r.takeWhile isNameChar else []

/-- A field name with at most one body, and blanks around both. -/
def isSelection (s : List Char) : Bool :=
  let t := Text.trim s
  let name := leadingName t
  let rest := Text.trimLeft (t.drop name.length)
  !name.isEmpty && (rest.isEmpty || isBody rest)

end GraphQL

/-- Text that was accepted as a selection. -/
structure FieldText where
  text : MarkedText
  valid : GraphQL.isSelection text.content.toList = true

namespace FieldText

def content (f : FieldText) : String := f.text.content

def view (f : FieldText) : Datum := .text f.text

/-- The value as a selection; `what` says in the message what it is. -/
def check (what : String) : Datum → Checked FieldText
  | .text t =>
    if h : GraphQL.isSelection t.content.toList = true then .ok ⟨t, h⟩
    else reject (.invalid what (.text t))
  | d => reject (.invalid what d)

end FieldText

end VectorQuery
