import VectorQuery.Yaml.Property
/-! The tokens of a text: its marks and scalars, and the beginnings and ends of blocks, which only its
indentation shows. -/
namespace VectorQuery.Yaml

inductive Token
  | directive (d : Directive)
  | documentStart
  | documentEnd
  | textEnd
  /-- the beginning of a sequence in a block -/
  | itemsStart
  /-- the beginning of a mapping in a block -/
  | entriesStart
  | blockEnd
  | item
  | key
  | value
  | openBracket
  | closeBracket
  | openBrace
  | closeBrace
  | comma
  | alias (name : String)
  | anchor (name : String)
  | tag (t : TagName)
  | scalar (text : List Char) (plain : Bool)
  /-- the text is read up to here only, because of a fault -/
  | broken (f : Fault)

end VectorQuery.Yaml
