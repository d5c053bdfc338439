import VectorQuery.Proofs.Query.SelectionTokens

/-! No text of the caller leaves its place in a Get document. -/
namespace VectorQuery.QueryDescriptor
open GraphQL

variable {q : QueryDescriptor} {c : RendererConfig} {text : String}

lemma exists_arguments_of_render (h : q.render c = .ok text) : ∃ fs, q.arguments c = .ok fs := by
  obtain ⟨doc, hdoc, -⟩ := Checked.map_ok h
  obtain ⟨fs, hfs, -⟩ := Checked.bind_ok hdoc
  exact ⟨fs, hfs⟩

/-- With arguments there is a document, and its tokens do not depend on the indent. -/
theorem exists_render_tokens {fs : Arguments} {ts : List Token} (hfs : q.arguments c = .ok fs)
    (hc : isStrictName q.collection.content.toList = true)
    (ha : Value.fieldsLegible fs = true)
    (hs : Selection.tokensAll? (q.selection.map Entry.selection) = some ts) :
    ∃ u, q.render c = .ok u ∧ tokens? u.toList =
      some (documentTokens "Get".toList q.collection.content.toList (argumentsTokens fs) ts) := by
  have hrender : q.render c = .ok (String.ofList (Document.chars ⟨"Get".toList,
      q.collection.content.toList, argumentsChars fs, q.selection.map Entry.selection⟩
        (List.replicate c.indent ' '))) := by
    rw [render, document, hfs]
    rfl
  have hget : isStrictName "Get".toList = true := by decide
  have htokens := tokens?_document hget hc ha hs c.indent
  refine ⟨_, hrender, ?_⟩
  rw [String.toList_ofList]
  exact htokens

/-- The document that is rendered has the tokens of the layout, of the arguments and of the entries, and no
others. The arguments are read back, names and values in order; every brace of the layout is closed by
the layout; the indent makes no difference. -/
theorem tokens?_render (q : QueryDescriptor) (c : RendererConfig)
    (hplain : ∀ t ∈ q.texts, t.isPlain = true)
    (hnames : ∀ t ∈ q.nameTexts, '\n' ∉ t.content.toList)
    (hfields : ∀ f ∈ q.fields, (tokens? f.text.content.toList).isSome = true)
    (h : q.render c = .ok text) :
    ∃ (fs : Arguments) (parenthesized : List Token) (entries : List (List Token)),
      tokens? text.toList = some (documentTokens "Get".toList q.collection.content.toList
        parenthesized entries.flatten) ∧
      q.arguments c = .ok fs ∧
      (fs = [] ∧ parenthesized = [] ∨ ∃ inner,
        parenthesized = .mark '(' :: (inner ++ [.mark ')']) ∧
          readArguments parenthesized = some (fs, [])) ∧
      q.selection.mapM Entry.tokens? = some entries ∧ entries.flatten ≠ [] ∧
      IsFramed "Get".toList q.collection.content.toList parenthesized entries.flatten ∧
      ∀ n, ∃ u, q.render { c with indent := n } = .ok u ∧ tokens? u.toList = tokens? text.toList := by
  obtain ⟨fs, hfs⟩ := exists_arguments_of_render h
  have hfaithful := isFaithful_arguments hplain hnames hfs
  have hlegible := (Value.fieldsLegible_of_faithful hfaithful).1
  obtain ⟨entries, hentries, hlines, hne, hnested⟩ :=
    exists_mapM_tokens (isClosed_selection hplain hnames hfields)
  have hcollection : isStrictName q.collection.content.toList = true :=
    isStrictName_of_isName q.collection.valid (hnames q.collection.text (by simp [nameTexts]))
  obtain ⟨u, hu, htokens⟩ := exists_render_tokens hfs hcollection hlegible hlines
  obtain rfl : u = text := Except.ok.inj (hu.symm.trans h)
  refine ⟨fs, argumentsTokens fs, entries, htokens, hfs, ?_, hentries, hne (selection_ne_nil q),
    isFramed_of_nested _ _ (nested_argumentsTokens fs) hnested, fun n => ?_⟩
  · cases hcases : fs with
    | nil => exact .inl ⟨rfl, rfl⟩
    | cons f r =>
      rw [← hcases]
      refine .inr ⟨Value.fieldsTokens fs, by rw [hcases]; rfl, ?_⟩
      exact readArguments_argumentsTokens (by simp [hcases]) hfaithful
  · -- the arguments read the level of the settings, and nothing else of them
    have hsame : q.arguments { c with indent := n } = .ok fs := hfs
    obtain ⟨v, hv, hvtokens⟩ := exists_render_tokens hsame hcollection hlegible hlines
    exact ⟨v, hv, hvtokens.trans htokens.symm⟩

lemma lexemes?_nestedField : lexemes? "a\x7bb\x7d".toList = some [.token (.name ['a']),
    .token (.mark '{'), .token (.name ['b']), .token (.mark '}')] :=
  lexemes?_cons rfl <| lexemes?_cons rfl <| lexemes?_cons rfl <| lexemes?_cons rfl lexemes?_nil

/-- A query whose texts try to end strings, arguments and selections. -/
def hostile : QueryDescriptor where
  collection := ⟨.plain "Doc", by decide⟩
  fields := [⟨.plain "a\x7bb\x7d", (isSelection_eq lexemes?_nestedField).trans (by decide)⟩]
  search := none
  filter := some (.leaf ⟨⟨[.plain "n"], by decide⟩, .known .equal, .text (.plain "\"\x7d) \x7b")⟩)
  limit := none
  offset := none
  sort := []
  groupBy := none
  autocut := none
  additionalFields := []
  consistencyLevel := none
  tenant := some ⟨.plain "\x7d\n#", by decide⟩
  generate := some ⟨.single, ⟨.plain "\"\"\"\x7d \x7bb\x7d", by decide⟩, ⟨.plain "openai", by decide⟩,
    .unset, []⟩

/-- The hostile texts are read back as the strings they are. -/
theorem tokens?_render_hostile : ∃ (text : String) (parenthesized selection : List Token),
    hostile.render .standard = .ok text ∧
    tokens? text.toList =
      some (documentTokens "Get".toList "Doc".toList parenthesized selection) ∧
    readArguments parenthesized = some ([("where", .object [("path", .list [.string "n"]),
      ("operator", .enum "Equal"), ("valueText", .string "\"\x7d) \x7b")]),
      ("tenant", .string "\x7d\n#")], []) ∧
    IsFramed "Get".toList "Doc".toList parenthesized selection := by
  obtain ⟨text, htext⟩ : ∃ text, hostile.render .standard = .ok text := ⟨_, rfl⟩
  have hfields : ∀ f ∈ hostile.fields, (tokens? f.text.content.toList).isSome = true := by
    refine List.forall_mem_singleton.2 ?_
    change ((lexemes? "a\x7bb\x7d".toList).map tokensOf).isSome = true
    rw [lexemes?_nestedField]
    rfl
  obtain ⟨fs, parenthesized, entries, htokens, hfs, harguments, -, -, hframed, -⟩ :=
    tokens?_render hostile .standard (by decide) (by decide) hfields htext
  have hvalues : hostile.arguments .standard = .ok [("where", .object [("path", .list [.string "n"]),
      ("operator", .enum "Equal"), ("valueText", .string "\"\x7d) \x7b")]),
      ("tenant", .string "\x7d\n#")] := rfl
  obtain rfl := Except.ok.inj (hfs.symm.trans hvalues)
  refine ⟨text, parenthesized, entries.flatten, htext, htokens, ?_, hframed⟩
  rcases harguments with ⟨hnil, -⟩ | ⟨inner, -, hread⟩
  · cases hnil
  · exact hread

end VectorQuery.QueryDescriptor
