import VectorQuery.Settings.Environment
import Mathlib.Data.List.Forall2
import Mathlib.Tactic.Lemma

/-! References to variables in a tree of settings. Replacing them keeps the shape of the tree and all its keys,
and each leaf becomes the value of one variable or stays as it is. What counts is how a text begins and ends, so a
text that begins with one reference and ends with another is taken for a single one. -/
namespace VectorQuery

/-- A tree without its leaves: its lists, and its dictionaries with their keys. -/
inductive Shape
  | leaf
  | list (items : List Shape)
  | dict (entries : List (Datum × Shape))

namespace Datum

mutual

def shape : Datum → Shape
  | .list xs => .list (shapes xs)
  | .dict es => .dict (entryShapes es)
  | _ => .leaf

def shapes : List Datum → List Shape
  | [] => []
  | x :: r => x.shape :: shapes r

def entryShapes : Entries → List (Datum × Shape)
  | [] => []
  | (k, v) :: r => (k, v.shape) :: entryShapes r

end

mutual

/-- The data of a tree that are neither a list nor a dictionary, in order. -/
def leaves : Datum → List Datum
  | .list xs => leavesOfItems xs
  | .dict es => leavesOfEntries es
  | d => [d]

def leavesOfItems : List Datum → List Datum
  | [] => []
  | x :: r => x.leaves ++ leavesOfItems r

def leavesOfEntries : Entries → List Datum
  | [] => []
  | (_, v) :: r => v.leaves ++ leavesOfEntries r

end

/-- A text that begins with a dollar sign and a brace and ends with a brace, with another text between. -/
def IsBraced (d : Datum) (inner : List Char) : Prop :=
  ∃ t, d = .text t ∧ t.content.toList = '$' :: '{' :: inner ++ ['}']

end Datum

namespace Environment

/-- A name that no sign of a reference stands in. -/
def IsVariable (name : List Char) : Prop := ∀ c ∈ name, c ≠ '$' ∧ c ≠ '{' ∧ c ≠ '}'

/-- The value of a variable; one that is not set has none. -/
def valueOf (env : Environment) (name : List Char) : Datum :=
  match env (String.ofList name) with
  | some value => .str value
  | none => .none

lemma reference?_eq_some_iff {s name : List Char} :
    reference? s = some name ↔ s = '$' :: '{' :: name ++ ['}'] := by
  unfold reference?
  split
  · rename_i r
    rw [Option.ite_none_right_eq_some, Option.some.injEq, List.cons_append, List.cons_append,
      List.cons_inj_right, List.cons_inj_right]
    constructor
    · rintro ⟨hlast, rfl⟩
      exact (List.dropLast_append_getLast? '}' hlast).symm
    · rintro rfl
      simp
  · rename_i hs
    refine iff_of_false nofun ?_
    rintro rfl
    exact hs _ rfl

variable {env : Environment}

/-- A leaf and what becomes of it. The name of a variable between the signs is replaced by its value; and so is,
by the second clause, any other text between them, where no reference is meant. -/
structure Replaced (env : Environment) (leaf result : Datum) : Prop where
  reference : ∀ name, leaf.IsBraced name → IsVariable name → result = env.valueOf name
  run : ∀ inner, leaf.IsBraced inner → ¬IsVariable inner → result = env.valueOf inner
  other : (∀ inner, ¬leaf.IsBraced inner) → result = leaf

lemma substituteText_of_reference {t : MarkedText} {name : List Char}
    (h : reference? t.content.toList = some name) : env.substituteText t = env.valueOf name := by
  rw [substituteText, h]
  rfl

lemma replaced_text (t : MarkedText) : env.Replaced (.text t) (env.substituteText t) := by
  have hbraced {inner : List Char} (h : (Datum.text t).IsBraced inner) :
      env.substituteText t = env.valueOf inner := by
    obtain ⟨u, hu, ht⟩ := h
    obtain rfl := Datum.text.inj hu
    exact substituteText_of_reference (reference?_eq_some_iff.2 ht)
  refine ⟨fun _ h _ => hbraced h, fun _ h _ => hbraced h, fun hnone => ?_⟩
  cases hr : reference? t.content.toList with
  | none => rw [substituteText, hr]
  | some name => exact absurd ⟨t, rfl, reference?_eq_some_iff.1 hr⟩ (hnone name)

lemma replaced_self {d : Datum} (h : d.text? = none) : env.Replaced d d := by
  have hnone (inner : List Char) : ¬d.IsBraced inner := by
    rintro ⟨t, rfl, -⟩
    cases h
  exact ⟨fun name hd => absurd hd (hnone name), fun inner hd => absurd hd (hnone inner), fun _ => rfl⟩

/-- Values of variables have no parts, and they are not looked into again. -/
lemma shape_leaves_substituteText (t : MarkedText) :
    (env.substituteText t).shape = .leaf ∧ (env.substituteText t).leaves = [env.substituteText t] := by
  unfold substituteText
  split
  · exact ⟨rfl, rfl⟩
  · split <;> exact ⟨rfl, rfl⟩

mutual

theorem shape_substitute (env : Environment) : ∀ d : Datum, (env.substitute d).shape = d.shape
  | .list xs => congrArg Shape.list (shapes_substituteItems env xs)
  | .dict es => congrArg Shape.dict (entryShapes_substituteEntries env es)
  | .text t => (shape_leaves_substituteText t).1
  | .none | .bool _ | .int _ | .float _ | .bytes _ | .day _ | .moment _ | .tuple _ | .set _
  | .record .. => rfl

theorem shapes_substituteItems (env : Environment) : ∀ xs : List Datum,
    Datum.shapes (env.substituteItems xs) = Datum.shapes xs
  | [] => rfl
  | x :: r => congrArg₂ List.cons (shape_substitute env x) (shapes_substituteItems env r)

theorem entryShapes_substituteEntries (env : Environment) : ∀ es : Datum.Entries,
    Datum.entryShapes (env.substituteEntries es) = Datum.entryShapes es
  | [] => rfl
  | (k, v) :: r => congrArg₂ (fun s ss => (k, s) :: ss) (shape_substitute env v)
      (entryShapes_substituteEntries env r)

end

mutual

theorem replaced_leaves (env : Environment) : ∀ d : Datum,
    List.Forall₂ env.Replaced d.leaves (env.substitute d).leaves
  | .list xs => replaced_leavesOfItems env xs
  | .dict es => replaced_leavesOfEntries env es
  | .text t => by
    rw [substitute, (shape_leaves_substituteText t).2]
    exact .cons (replaced_text t) .nil
  | .none | .bool _ | .int _ | .float _ | .bytes _ | .day _ | .moment _ | .tuple _ | .set _
  | .record .. => .cons (replaced_self rfl) .nil

theorem replaced_leavesOfItems (env : Environment) : ∀ xs : List Datum,
    List.Forall₂ env.Replaced (Datum.leavesOfItems xs) (Datum.leavesOfItems (env.substituteItems xs))
  | [] => .nil
  | x :: r => List.rel_append (replaced_leaves env x) (replaced_leavesOfItems env r)

theorem replaced_leavesOfEntries (env : Environment) : ∀ es : Datum.Entries,
    List.Forall₂ env.Replaced (Datum.leavesOfEntries es)
      (Datum.leavesOfEntries (env.substituteEntries es))
  | [] => .nil
  | (_, v) :: r => List.rel_append (replaced_leaves env v) (replaced_leavesOfEntries env r)

end

/-- The tree keeps its shape and its keys, and every leaf in it is replaced or stays. -/
theorem substitute_keeps_shape (env : Environment) (d : Datum) :
    (env.substitute d).shape = d.shape ∧
      List.Forall₂ env.Replaced d.leaves (env.substitute d).leaves :=
  ⟨shape_substitute env d, replaced_leaves env d⟩

/-- The variables of a server, one of them with a value that looks like a reference. -/
def server : Environment := fun name =>
  [("HOST", "db"), ("PORT", "$\x7bHOST\x7d")].lookup name

example : server.substitute (.list [.str "$\x7bPORT\x7d", .str "$\x7bPORT\x7d/"]) =
    .list [.str "$\x7bHOST\x7d", .str "$\x7bPORT\x7d/"] := by rfl

/-- Two references with a colon between them are taken for one, to a variable that is not set. -/
theorem substitute_two_references :
    server.substitute (.str "$\x7bHOST\x7d:$\x7bPORT\x7d") = .none ∧
      server "HOST" = some "db" ∧ server "PORT" = some "$\x7bHOST\x7d" :=
  ⟨rfl, rfl, rfl⟩

end Environment

end VectorQuery
