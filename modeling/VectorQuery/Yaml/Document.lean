import VectorQuery.Yaml.Graph
import VectorQuery.Yaml.Token
/-! The nodes of the document that tokens write. A text holds one document at most. -/
namespace VectorQuery.Yaml

/-- A document in the making. -/
structure Draft where
  /-- the tokens still to read -/
  tokens : List Token
  nodes : Graph
  /-- the nodes with names -/
  anchors : List (String × Nat)
  /-- how many more nodes may contain each other here -/
  depth : Nat

abbrev Drafting := StateT Draft Checked

/-- Nodes are nested less deeply than this. -/
def maxDepth : Nat := 490

/-- What stands for the beginnings of the names of tags. -/
abbrev Handles := List (String × String)

/-- The handles of every document that does not set them itself. -/
def standardHandles : Handles := [("!", "!"), ("!!", Tag.nameStart)]

namespace Drafting

/-- The next token. -/
def head : Drafting Token := do
  return (← get).tokens.headD (.broken .malformedYaml)

/-- Passes the next token. -/
def skip : Drafting Unit := modify fun d => { d with tokens := d.tokens.drop 1 }

/-- No rule takes the next token. -/
def fail : Drafting α := do
  match ← head with
  | .broken f => throw f
  | _ => throw .malformedYaml

/-- The number of a new node. -/
def add (node : Node) : Drafting Nat := do
  let d ← get
  set { d with nodes := d.nodes.push node }
  return d.nodes.size

/-- A new node whose contents can refer to it. -/
def container (name : Option String) (tag : Tag) (contents : Drafting Content) : Drafting Nat := do
  let d ← get
  if d.depth = 0 then throw .tooDeep
  let n ← add ⟨tag, .sequence []⟩
  modify fun d => { d with
    depth := d.depth - 1
    anchors := (name.map fun a => (a, n)).toList ++ d.anchors }
  let content ← contents
  modify fun d => { d with depth := d.depth + 1, nodes := d.nodes.modify n ({ · with content }) }
  return n

end Drafting

open Drafting

/-- What stands before a node. -/
structure Properties where
  anchor : Option String
  /-- the full name of the tag -/
  tag : Option String

namespace Properties

def isEmpty (p : Properties) : Bool := p.anchor.isNone && p.tag.isNone

/-- The tag of a node of a kind: the standard one, unless the properties name another. -/
def tagOr (p : Properties) (standard : Tag) : Tag :=
  match p.tag with
  | none => standard
  | some name => if name = TagName.unspecific then standard else .ofName name

/-- The tag of a scalar. -/
def tagOfScalar (p : Properties) (text : List Char) (plain : Bool) : Tag :=
  if plain || p.tag = some TagName.unspecific then p.tagOr (.ofPlain text) else p.tagOr .str

/-- The full name of a tag. -/
def nameOf (handles : Handles) (t : TagName) : Drafting String :=
  match t.handle with
  | none => return t.suffix
  | some handle =>
    match handles.lookup handle with
    | none => throw .malformedYaml
    | some start => return start ++ t.suffix

/-- An anchor and a tag, of which any may be missing, in any order. -/
def read (handles : Handles) : Drafting Properties := do
  match ← head with
  | .anchor a =>
    skip
    match ← head with
    | .tag t => do skip; return ⟨some a, some (← nameOf handles t)⟩
    | _ => return ⟨some a, none⟩
  | .tag t =>
    skip
    match ← head with
    | .anchor a => do skip; return ⟨some a, some (← nameOf handles t)⟩
    | .broken f => throw f
    | _ => return ⟨none, some (← nameOf handles t)⟩
  | _ => return ⟨none, none⟩

end Properties

/-- A scalar with properties. -/
def scalarNode (p : Properties) (text : List Char) (plain : Bool) : Drafting Nat := do
  let n ← add ⟨p.tagOfScalar text plain, .scalar text⟩
  modify fun d => { d with anchors := (p.anchor.map fun a => (a, n)).toList ++ d.anchors }
  return n

/-- A node that is left out. -/
def absentNode : Drafting Nat := scalarNode ⟨none, none⟩ [] true

/-- The token cannot begin the value of an entry in a block. -/
def Token.endsEntry : Token → Bool
  | .key => true
  | .value => true
  | .blockEnd => true
  | _ => false

def Token.isItem : Token → Bool
  | .item => true
  | _ => false

def Token.isValue : Token → Bool
  | .value => true
  | _ => false

def Token.isBlockEnd : Token → Bool
  | .blockEnd => true
  | _ => false

/-- The token ends an item or an entry between brackets. -/
def Token.endsPart : Token → Bool
  | .comma => true
  | .closeBracket => true
  | .closeBrace => true
  | _ => false

/-- Where a node stands. -/
inductive Site
  /-- between brackets -/
  | brackets
  /-- in a block -/
  | block
  /-- in an entry of a block, where a sequence need not be indented further -/
  | entry
  deriving DecidableEq

mutual

/-- The node that begins at the next token. -/
def node (h : Handles) (site : Site) : (fuel : Nat) → Drafting Nat
  | 0 => fail
  | fuel + 1 => do
    match ← head with
    | .alias name =>
      skip
      match (← get).anchors.lookup name with
      | some n => return n
      | none => throw .malformedYaml
    | _ =>
      let p ← Properties.read h
      match ← head with
      | .broken f => throw f
      | t =>
        let taken := (← get).anchors
        if p.anchor.any fun a => (taken.lookup a).isSome then throw .malformedYaml
        match t with
        | .scalar text plain => do skip; scalarNode p text plain
        | .openBracket =>
          skip
          container p.anchor (p.tagOr .seq) (.sequence <$> items h true fuel)
        | .openBrace =>
          skip
          container p.anchor (p.tagOr .map) (.mapping <$> entries h true fuel)
        | t =>
          match t, site with
          | .item, .entry =>
            container p.anchor (p.tagOr .seq) (.sequence <$> blockItems h false fuel)
          | .itemsStart, .block | .itemsStart, .entry =>
            skip
            container p.anchor (p.tagOr .seq) (.sequence <$> blockItems h true fuel)
          | .entriesStart, .block | .entriesStart, .entry =>
            skip
            container p.anchor (p.tagOr .map) (.mapping <$> blockEntries h fuel)
          | _, _ => if p.isEmpty then fail else scalarNode p [] true

/-- The items of a sequence in a block; where the sequence is not indented further than its parent, no
token marks its end. -/
def blockItems (h : Handles) (indented : Bool) : (fuel : Nat) → Drafting (List Nat)
  | 0 => fail
  | fuel + 1 => do
    match ← head with
    | .item =>
      skip
      let t ← head
      let absent := t.isItem || t.isBlockEnd || (!indented && t.endsEntry)
      let n ← if absent then absentNode else node h .block fuel
      return n :: (← blockItems h indented fuel)
    | .blockEnd => do
      if indented then skip
      return []
    | _ => if indented then fail else return []

/-- The entries of a mapping in a block. -/
def blockEntries (h : Handles) : (fuel : Nat) → Drafting (List (Nat × Nat))
  | 0 => fail
  | fuel + 1 => do
    match ← head with
    | .key =>
      skip
      let k ← if (← head).endsEntry then absentNode else node h .entry fuel
      let v ← if (← head).isValue then do
          skip
          if (← head).endsEntry then absentNode else node h .entry fuel
        else absentNode
      return (k, v) :: (← blockEntries h fuel)
    | .blockEnd => do skip; return []
    | _ => fail

/-- An entry between brackets after its key token. -/
def entry (h : Handles) : (fuel : Nat) → Drafting (Nat × Nat)
  | 0 => fail
  | fuel + 1 => do
    let t ← head
    let k ← if t.isValue || t.endsPart then absentNode else node h .brackets fuel
    let v ← if (← head).isValue then do
        skip
        if (← head).endsPart then absentNode else node h .brackets fuel
      else absentNode
    return (k, v)

/-- The items up to the closing bracket; a comma stands before all but the first. An entry among the
items is a mapping of its own. -/
def items (h : Handles) (first : Bool) : (fuel : Nat) → Drafting (List Nat)
  | 0 => fail
  | fuel + 1 => do
    match ← head with
    | .closeBracket => do skip; return []
    | t =>
      if !first then
        match t with
        | .comma => skip
        | _ => fail
      match ← head with
      | .closeBracket => do skip; return []
      | .key =>
        skip
        let n ← container none .map ((fun e => .mapping [e]) <$> entry h fuel)
        return n :: (← items h false fuel)
      | _ =>
        let n ← node h .brackets fuel
        return n :: (← items h false fuel)

/-- The entries up to the closing brace; a comma stands before all but the first. -/
def entries (h : Handles) (first : Bool) : (fuel : Nat) → Drafting (List (Nat × Nat))
  | 0 => fail
  | fuel + 1 => do
    match ← head with
    | .closeBrace => do skip; return []
    | t =>
      if !first then
        match t with
        | .comma => skip
        | _ => fail
      match ← head with
      | .closeBrace => do skip; return []
      | .key =>
        skip
        let e ← entry h fuel
        return e :: (← entries h false fuel)
      | _ =>
        let k ← node h .brackets fuel
        let v ← absentNode
        return (k, v) :: (← entries h false fuel)

end

/-- The directives before a document, and the handles that are in force after them. -/
def directives (versionSeen : Bool) (h : Handles) : (fuel : Nat) → Drafting Handles
  | 0 => fail
  | fuel + 1 => do
    match ← head with
    | .directive (.version major) =>
      if versionSeen || major != 1 then throw .malformedYaml
      skip
      directives true h fuel
    | .directive (.handle name start) =>
      if (h.lookup name).isSome then throw .malformedYaml
      skip
      directives versionSeen ((name, start) :: h) fuel
    | .directive .other => do skip; directives versionSeen h fuel
    | _ => return h ++ standardHandles

/-- Passes the marks that end a document. -/
def documentEnds : (fuel : Nat) → Drafting Unit
  | 0 => fail
  | fuel + 1 => do
    match ← head with
    | .documentEnd => do skip; documentEnds fuel
    | _ => return

/-- The root of the document that begins with a mark, after directives if any. -/
def markedDocument (fuel : Nat) : Drafting Nat := do
  let h ← directives false [] fuel
  match ← head with
  | .documentStart =>
    skip
    match ← head with
    | .directive _ | .documentStart | .documentEnd | .textEnd => absentNode
    | _ => node h .block fuel
  | _ => fail

/-- The root of the only document of a text, unless the text has none. -/
def document (fuel : Nat) : Drafting (Option Nat) := do
  let root ← match ← head with
    | .textEnd => return none
    | .directive _ | .documentStart => markedDocument fuel
    | _ => node standardHandles .block fuel
  documentEnds fuel
  match ← head with
  | .textEnd => return some root
  | _ => do
    let _ ← directives false [] fuel
    fail

/-- The nodes that tokens write, and the root among them. A token is looked at by at most four rules
that pass none. -/
def nodesOf (tokens : List Token) : Checked (Option Nat × Graph) := do
  let (root, d) ← (document (4 * tokens.length + 4)).run ⟨tokens, #[], [], maxDepth⟩
  return (root, d.nodes)

end VectorQuery.Yaml
