import VectorQuery.Client.Call
import VectorQuery.Proofs.GraphQL.DocumentTokens
import VectorQuery.Proofs.GraphQL.Names

/-! The collection that a document asks for, and the rows that are found in the answer to it. The server reads a
name of the grammar; the client looks for the name as it was accepted. -/
namespace VectorQuery
open GraphQL

/-! ### What a document asks for -/

namespace GraphQL

/-- The first tokens of a text, at most `n` of them. -/
def firstTokens : (n : Nat) → List Char → List Token
  | 0, _ => []
  | n + 1, s =>
    match nextToken? s with
    | none => []
    | some (t, r) => t :: firstTokens n r

/-- The root field that a document asks for, and the field in it, unless that is to be answered under another
name. -/
def asked? (s : List Char) : Option (List Char × List Char) :=
  match firstTokens 5 s with
  | [.mark '{', .name operation, .mark '{', .name field, .mark c] =>
    if c = ':' then none else some (operation, field)
  | _ => none

lemma firstTokens_of_yields {s r : List Char} {ts : List Token} (h : Yields s ts r) :
    firstTokens ts.length s = ts := by
  induction ts generalizing s with
  | nil => rfl
  | cons t ts ih =>
    obtain ⟨q, hq, hrest⟩ := h
    rw [List.length_cons, firstTokens, show nextToken? s = some (t, q) from hq]
    exact congrArg (t :: ·) (ih hrest)

variable {t : Token} {ts : List Token} {s r : List Char}

lemma yields_pad (n depth : Nat) (h : Yields s (t :: ts) r) :
    Yields (Selection.pad (List.replicate n ' ') depth ++ s) (t :: ts) r := by
  have hspaces (w : List Char) (hw : ∀ c ∈ w, c = ' ') : Yields (w ++ s) (t :: ts) r := by
    induction w with
    | nil => exact h
    | cons c w ih =>
      obtain rfl := hw c (by simp)
      exact yields_of_lexeme? (x := .blank ' ') rfl rfl (ih fun d hd => hw d (by simp [hd]))
  exact hspaces _ fun c hc => Selection.eq_space_of_mem_pad hc

lemma yields_lineFeed (h : Yields s (t :: ts) r) : Yields ('\n' :: s) (t :: ts) r :=
  yields_of_lexeme? (x := .blank '\n') rfl rfl h

/-- What follows a collection: arguments, or the brace that opens its selection. -/
lemma yields_behind (arguments : Arguments) (u : List Char) :
    Delimited (argumentsChars arguments ++ ' ' :: '{' :: u) ∧
      ∃ c r, c ≠ ':' ∧ Yields (argumentsChars arguments ++ ' ' :: '{' :: u) [.mark c] r := by
  unfold argumentsChars
  split
  · exact ⟨delimited_cons (by decide) _, '{', u, by decide,
      yields_of_lexeme? (x := .blank ' ') rfl rfl (yields_of_token? rfl)⟩
  · exact ⟨delimited_cons (by decide) _, '(', _, by decide, yields_of_token? rfl⟩

/-- A collection is read without the line feed. -/
lemma yields_collection (n : Name) {c : Char} (hs : Delimited s) (h : Yields s [.mark c] r) :
    Yields (n.content.toList ++ s) [.name n.stem, .mark c] r := by
  obtain ⟨hstrict, hn | hn⟩ := n.toList_content
  · rw [hn]
    have hname : Yields (n.stem ++ s) [.name n.stem] s :=
      yields_of_token? (token?_name hstrict hs.stops_isNameChar)
    exact hname.append h
  · rw [hn, List.append_assoc]
    have hname : Yields (n.stem ++ '\n' :: s) [.name n.stem] ('\n' :: s) :=
      yields_of_token? (token?_name hstrict (delimited_cons (by decide) s).stops_isNameChar)
    exact hname.append (yields_lineFeed h)

/-- A document asks for its operation and for its collection without the line feed. -/
theorem asked?_document {operation : List Char} (ho : isStrictName operation = true) (n : Name)
    (arguments : Arguments) (selection : List Selection) (indent : Nat) :
    asked? (Document.chars ⟨operation, n.content.toList, argumentsChars arguments, selection⟩
      (List.replicate indent ' ')) = some (operation, n.stem) := by
  obtain ⟨u, hu⟩ : ∃ u, Document.chars
      ⟨operation, n.content.toList, argumentsChars arguments, selection⟩
        (List.replicate indent ' ') = '{' :: '\n' :: (Selection.pad (List.replicate indent ' ') 1 ++
          (operation ++ ' ' :: '{' :: '\n' :: (Selection.pad (List.replicate indent ' ') 2 ++
            (n.content.toList ++ (argumentsChars arguments ++ ' ' :: '{' :: u))))) := by
    simp only [Document.chars, Document.lines, Selection.lines, Selection.linesAll,
      List.flatMap_cons, List.flatMap_append, List.append_assoc, List.cons_append, List.nil_append]
    exact ⟨_, rfl⟩
  obtain ⟨hdelimited, c, r, hc, hbehind⟩ := yields_behind arguments u
  have hbrace {v : List Char} : Yields ('{' :: v) [.mark '{'] v := yields_of_token? rfl
  have hcollection := yields_pad indent 2 (yields_collection n hdelimited hbehind)
  have hoperation := yields_pad indent 1
    ((yields_opening ho _).append (yields_lineFeed hcollection))
  have hfirst : firstTokens 5 _ =
      [.mark '{', .name operation, .mark '{', .name n.stem, .mark c] :=
    firstTokens_of_yields (hbrace.append (yields_lineFeed hoperation))
  rw [asked?, hu, hfirst]
  exact if_neg hc

end GraphQL

/-! ### What is found in the answer -/

/-- An answer with the rows of a collection, under the names that were asked for. -/
def answer (operation collection : List Char) (rows : List Row) : Datum :=
  .object [("data", .object [(String.ofList operation,
    .object [(String.ofList collection, .list (rows.map .dict))])])]

lemma rowsOf_rows (rows : List Row) : Envelope.rowsOf (.list (rows.map .dict)) = rows := by
  have hdict : Datum.dict? ∘ Datum.dict = some := rfl
  rw [Envelope.rowsOf, List.filterMap_map, hdict, List.filterMap_some]

lemma rows_extract_answer (operation key : String) (collection : List Char) (rows : List Row) :
    (Envelope.extract (answer operation.toList collection rows) operation key).value.rows =
      if collection = key.toList then rows else [] := by
  have hkey : (String.ofList collection == key) = decide (collection = key.toList) := by
    rw [Bool.eq_iff_iff, beq_iff_eq, decide_eq_true_iff, ← String.toList_inj, String.toList_ofList]
  simp only [Envelope.extract, Envelope.node, answer, Datum.object, Datum.str, Datum.get?,
    Datum.dict?, Datum.lookup, List.foldl_cons, List.foldl_nil, List.map_cons, List.map_nil,
    Option.bind_some, MarkedText.content_plain, String.ofList_toList, beq_self_eq_true, if_true,
    Option.getD_some, hkey, decide_eq_true_eq]
  split
  · exact rowsOf_rows rows
  · rfl

/-- A request for a collection, and the reading of its answer. The server reads the name without the line feed,
and rows under that name are found where there was none. -/
structure AsksFor (x : Exchange (Noted Extraction)) (operation : String) (collection : Name) :
    Prop where
  asks : ∃ text, x.request.body = .object [("query", .str text)] ∧
    asked? text.toList = some (operation.toList, collection.stem)
  named : IsGrammarName collection.stem
  found : ∀ rows, (x.read (answer operation.toList collection.stem rows)).value.rows =
    if '\n' ∈ collection.content.toList then [] else rows

namespace Client
open Checked

variable {c : RendererConfig} {x : Exchange (Noted Extraction)}

lemma asksFor_of_document {operation : String} (ho : isStrictName operation.toList = true) (n : Name)
    (arguments : Arguments) (selection : List Selection) (indent : Nat) :
    AsksFor ((raw (.str (Document.render ⟨operation.toList, n.content.toList,
        argumentsChars arguments, selection⟩ (List.replicate indent ' ')))).map
      fun d => Envelope.extract d operation n.content) operation n := by
  refine ⟨⟨_, rfl, ?_⟩, isStrictName_iff.1 n.toList_content.1, fun rows => ?_⟩
  · rw [Document.render, String.toList_ofList]
    exact asked?_document ho n arguments selection indent
  · have hrows := rows_extract_answer operation n.content n.stem rows
    rw [← ite_not]
    simp only [n.stem_eq_iff] at hrows
    exact hrows

theorem asksFor_of_get {q : QueryDescriptor} (h : get c q = .ok x) :
    AsksFor x "Get" q.collection := by
  obtain ⟨text, htext, rfl⟩ := map_ok h
  obtain ⟨doc, hdoc, rfl⟩ := map_ok htext
  obtain ⟨fs, -, hdoc⟩ := bind_ok hdoc
  obtain rfl := pure_ok hdoc
  exact asksFor_of_document (by decide) q.collection fs _ c.indent

theorem asksFor_of_aggregate {a : AggregateDescriptor} (h : aggregate c a = .ok x) :
    AsksFor x "Aggregate" a.collection := by
  obtain ⟨text, htext, rfl⟩ := map_ok h
  obtain ⟨fs, -, htext⟩ := bind_ok htext
  obtain rfl := pure_ok htext
  exact asksFor_of_document (by decide) a.collection fs _ c.indent

end Client

/-- What is accepted as a name is a name of the grammar, alone or with one line feed behind it. So is every name
that a query or an aggregation is made with, and every key of data that are encoded; a name is one of the
grammar exactly when it has no line feed. A request asks for a name of the grammar in any case, and the rows
of its answer are found exactly when the collection has no line feed. -/
theorem accepted_name_iff (q : QueryDescriptor) (a : AggregateDescriptor) (c : RendererConfig) :
    (∀ d : Datum, d.isName = true ↔ ∃ t, d = .text t ∧
      ∃ w, IsGrammarName w ∧ (t.content.toList = w ∨ t.content.toList = w ++ ['\n'])) ∧
    (∀ n ∈ q.names ++ a.names, n.view.isName = true ∧
      (IsGrammarName n.content.toList ↔ '\n' ∉ n.content.toList)) ∧
    (∀ d v, Value.ofDatum d = .ok v → ∀ k ∈ d.keys, k.isName = true) ∧
    (∀ x, Client.get c q = .ok x → AsksFor x "Get" q.collection) ∧
    ∀ x, Client.aggregate c a = .ok x → AsksFor x "Aggregate" a.collection :=
  ⟨fun _ => Datum.isName_iff, fun n _ => ⟨n.valid, n.isGrammarName_iff⟩,
    fun d _ h => Value.isName_of_ofDatum d h, fun _ h => Client.asksFor_of_get h,
    fun _ h => Client.asksFor_of_aggregate h⟩

/-- The query of a whole collection, whose name ends with a line feed. -/
def lineFeedQuery : QueryDescriptor where
  collection := ⟨.plain "A\n", by decide⟩
  fields := []
  search := none
  filter := none
  limit := none
  offset := none
  sort := []
  groupBy := none
  autocut := none
  additionalFields := []
  consistencyLevel := none
  tenant := none
  generate := none

/-- The line feed is accepted although the text is no name. The document asks for the collection without it, and
the row that comes back is not found. -/
theorem get_lineFeed : Datum.isName (.str "A\n") = true ∧ ¬IsGrammarName "A\n".toList ∧
    QuerySlots.check { collection := .str "A\n" } = .ok lineFeedQuery ∧
    ∃ x, Client.get .standard lineFeedQuery = .ok x ∧
      (∃ text, x.request.body = .object [("query", .str text)] ∧
        asked? text.toList = some ("Get".toList, "A".toList)) ∧
      ∀ row, (x.read (answer "Get".toList "A".toList [row])).value.rows = [] := by
  obtain ⟨x, hx⟩ : ∃ x, Client.get .standard lineFeedQuery = .ok x := ⟨_, rfl⟩
  have hasks := Client.asksFor_of_get hx
  have hnot : ¬IsGrammarName "A\n".toList := fun h =>
    absurd (isStrictName_iff.2 h) (by decide)
  exact ⟨rfl, hnot, rfl, x, hx, hasks.asks, fun row => hasks.found [row]⟩

end VectorQuery
