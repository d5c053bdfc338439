import VectorQuery.GraphQL.Document
import VectorQuery.Proofs.GraphQL.Braces
import VectorQuery.Proofs.GraphQL.InputValue

/-! The tokens of a document. The layout adds braces only: indentation and line ends are passed over, so
the tokens are the same for every indent. -/
namespace VectorQuery.GraphQL

lemma tokens?_of_lexeme? {s r : List Char} {x : Lexeme} (h : lexeme? s = some (x, r)) :
    tokens? s = (tokens? r).map (x.token?.toList ++ ·) := by
  rw [tokens?, lexemes?_of_lexeme? h, tokens?]
  cases lexemes? r with
  | none => rfl
  | some xs => cases x <;> rfl

lemma tokens?_of_nextToken? {s r : List Char} {t : Token} (h : nextToken? s = some (t, r)) :
    tokens? s = (tokens? r).map (t :: ·) := by
  fun_induction nextToken? s with
  | case1 => cases h
  | case2 s u q hs =>
    cases h
    exact tokens?_of_lexeme? hs
  | case3 s x q hx hs ih =>
    have hnone : x.token? = none := by
      cases x with
      | token t => exact absurd rfl (hx t)
      | _ => rfl
    rw [tokens?_of_lexeme? hs, hnone, ih h]
    cases tokens? r <;> rfl

/-- The tokens that a text yields, and the tokens of what follows. -/
theorem tokens?_of_yields {s r : List Char} {ts : List Token} (h : Yields s ts r) :
    tokens? s = (tokens? r).map (ts ++ ·) := by
  induction ts generalizing s with
  | nil =>
    obtain rfl : s = r := h
    cases tokens? s <;> rfl
  | cons t ts ih =>
    obtain ⟨q, hq, hrest⟩ := h
    rw [tokens?_of_nextToken? hq, ih hrest]
    cases tokens? r <;> rfl

lemma tokens?_spaces {w : List Char} (hw : ∀ c ∈ w, c = ' ') (s : List Char) :
    tokens? (w ++ s) = tokens? s := by
  induction w with
  | nil => rfl
  | cons c w ih =>
    obtain rfl := hw c (by simp)
    have hblank : lexeme? (' ' :: (w ++ s)) = some (.blank ' ', w ++ s) := rfl
    rw [List.cons_append, tokens?_of_lexeme? hblank, ih fun d hd => hw d (by simp [hd])]
    cases tokens? s <;> rfl

lemma Selection.eq_space_of_mem_pad {n depth : Nat} {c : Char}
    (h : c ∈ pad (List.replicate n ' ') depth) : c = ' ' :=
  List.eq_of_mem_replicate (mem_of_mem_pad h)

lemma tokens?_pad (n depth : Nat) (s : List Char) :
    tokens? (Selection.pad (List.replicate n ' ') depth ++ s) = tokens? s :=
  tokens?_spaces (fun _ hc => Selection.eq_space_of_mem_pad hc) s

namespace Selection

mutual

/-- The tokens of a selection, each of its lines taken by itself. -/
def tokens? : Selection → Option (List Token)
  | .line text => GraphQL.tokens? text
  | .block header children => do
    let front ← GraphQL.tokens? (header ++ [' ', '{'])
    let inner ← tokensAll? children
    pure (front ++ inner ++ [.mark '}'])

def tokensAll? : List Selection → Option (List Token)
  | [] => some []
  | s :: r => do
    let ts ← tokens? s
    let us ← tokensAll? r
    pure (ts ++ us)

end

/-- Lines as they stand in a document. -/
def ended (rows : List (List Char)) : List Char := rows.flatMap (· ++ ['\n'])

lemma ended_append (xs ys : List (List Char)) : ended (xs ++ ys) = ended xs ++ ended ys :=
  List.flatMap_append

lemma tokens?_padded {s : List Char} {ts : List Token} (h : GraphQL.tokens? s = some ts)
    (n depth : Nat) (u : List Char) :
    GraphQL.tokens? (ended [pad (List.replicate n ' ') depth ++ s] ++ u) =
      (GraphQL.tokens? u).map (ts ++ ·) := by
  have htext : ended [pad (List.replicate n ' ') depth ++ s] ++ u =
      pad (List.replicate n ' ') depth ++ (s ++ '\n' :: u) := by
    simp [ended]
  rw [htext, tokens?_pad, tokens?_line h]

lemma tokens?_close (n depth : Nat) (u : List Char) :
    GraphQL.tokens? (ended [pad (List.replicate n ' ') depth ++ ['}']] ++ u) =
      (GraphQL.tokens? u).map (.mark '}' :: ·) := by
  have hbrace : lexeme? ['}'] = some (.token (.mark '}'), []) := rfl
  have hline : GraphQL.tokens? ['}'] = some [.mark '}'] := by
    rw [tokens?_of_lexeme? hbrace, tokens?_nil]
    rfl
  exact tokens?_padded hline n depth u

variable (n : Nat)

mutual

/-- The lines of a selection have its tokens, whatever follows them. -/
theorem tokens?_lines : ∀ (s : Selection) (depth : Nat) {ts : List Token} (u : List Char),
    s.tokens? = some ts → GraphQL.tokens? (ended (lines (List.replicate n ' ') depth s) ++ u) =
      (GraphQL.tokens? u).map (ts ++ ·)
  | .line text, depth, ts, u, h => by
    rw [lines]
    rw [tokens?] at h
    exact tokens?_padded h n depth u
  | .block header children, depth, ts, u, h => by
    simp only [tokens?, Option.bind_eq_bind, Option.bind_eq_some_iff, Option.pure_def,
      Option.some.injEq] at h
    obtain ⟨front, hfront, inner, hinner, rfl⟩ := h
    have hsplit : lines (List.replicate n ' ') depth (.block header children) =
        [pad (List.replicate n ' ') depth ++ (header ++ [' ', '{'])] ++
          (linesAll (List.replicate n ' ') (depth + 1) children ++
            [pad (List.replicate n ' ') depth ++ ['}']]) := by
      simp [lines]
    -- the brace that opens the body stands in the line of the header, the one that closes it in its own
    rw [hsplit, ended_append, ended_append, List.append_assoc, List.append_assoc,
      tokens?_padded hfront, tokens?_linesAll children (depth + 1) _ hinner, tokens?_close]
    cases GraphQL.tokens? u <;> simp

theorem tokens?_linesAll : ∀ (ss : List Selection) (depth : Nat) {ts : List Token}
    (u : List Char), tokensAll? ss = some ts →
      GraphQL.tokens? (ended (linesAll (List.replicate n ' ') depth ss) ++ u) =
        (GraphQL.tokens? u).map (ts ++ ·)
  | [], _, ts, u, h => by
    obtain rfl : [] = ts := Option.some.inj h
    rw [linesAll]
    cases hu : GraphQL.tokens? u <;> simp [ended, hu]
  | s :: r, depth, ts, u, h => by
    simp only [tokensAll?, Option.bind_eq_bind, Option.bind_eq_some_iff, Option.pure_def,
      Option.some.injEq] at h
    obtain ⟨ts, hts, us, hus, rfl⟩ := h
    rw [linesAll, ended_append, List.append_assoc, tokens?_lines s depth _ hts,
      tokens?_linesAll r depth u hus]
    cases GraphQL.tokens? u <;> simp

end

end Selection

/-! ### Headers and documents -/

/-- The tokens of arguments in parentheses; none when there are no arguments. -/
def argumentsTokens (arguments : Arguments) : List Token :=
  if arguments.isEmpty then [] else .mark '(' :: (Value.fieldsTokens arguments ++ [.mark ')'])

lemma tokens?_strictName {w : List Char} (h : isStrictName w = true) :
    tokens? w = some [.name w] := by
  have hread := tokens?_of_yields (yields_of_token? (token?_name h (stops_nil isNameChar)))
  rwa [List.append_nil, tokens?_nil] at hread

lemma yields_word {w r : List Char} (hw : isStrictName w = true) (hr : Delimited r) :
    Yields (' ' :: (w ++ r)) [.name w] r :=
  yields_of_lexeme? (x := .blank ' ') rfl rfl (yields_of_token? (token?_name hw hr.stops_isNameChar))

lemma yields_end : Yields [' ', '}'] [.mark '}'] [] :=
  yields_of_lexeme? (x := .blank ' ') rfl rfl (yields_of_token? rfl)

/-- A name in front of the brace that opens its body. -/
lemma yields_opening {w : List Char} (hw : isStrictName w = true) (r : List Char) :
    Yields (w ++ ' ' :: '{' :: r) [.name w, .mark '{'] r := by
  have hname : Yields (w ++ ' ' :: '{' :: r) [.name w] (' ' :: '{' :: r) :=
    yields_of_token? (token?_name hw (delimited_cons (by decide) _).stops_isNameChar)
  have hopen : Yields (' ' :: '{' :: r) [.mark '{'] r :=
    yields_of_lexeme? (x := .blank ' ') rfl rfl (yields_of_token? rfl)
  exact hname.append hopen

/-- A name with its arguments, in front of the brace that opens its body. -/
lemma yields_header {w : List Char} {arguments : Arguments} (hw : isStrictName w = true)
    (h : Value.fieldsLegible arguments = true) (r : List Char) :
    Yields (w ++ argumentsChars arguments ++ ' ' :: '{' :: r)
      (.name w :: (argumentsTokens arguments ++ [.mark '{'])) r := by
  unfold argumentsChars argumentsTokens
  split
  · rw [List.append_nil]
    exact yields_opening hw r
  · have htext : w ++ ('(' :: Value.fieldsChars arguments ++ [')']) ++ ' ' :: '{' :: r =
        w ++ '(' :: (Value.fieldsChars arguments ++ ')' :: ' ' :: '{' :: r) := by simp
    rw [htext]
    have hname : Yields (w ++ '(' :: (Value.fieldsChars arguments ++ ')' :: ' ' :: '{' :: r))
        [.name w] ('(' :: (Value.fieldsChars arguments ++ ')' :: ' ' :: '{' :: r)) :=
      yields_of_token? (token?_name hw (delimited_cons (by decide) _).stops_isNameChar)
    have hparen : Yields ('(' :: (Value.fieldsChars arguments ++ ')' :: ' ' :: '{' :: r))
        [.mark '('] _ := yields_of_token? rfl
    have hfields := yields_fieldsChars arguments (.inr rfl) (' ' :: '{' :: r) h
    have hopen : Yields (' ' :: '{' :: r) [.mark '{'] r :=
      yields_of_lexeme? (x := .blank ' ') rfl rfl (yields_of_token? rfl)
    exact hname.append ((hparen.append hfields).append hopen)

lemma tokens?_opening {w : List Char} (hw : isStrictName w = true) :
    tokens? (w ++ [' ', '{']) = some [.name w, .mark '{'] := by
  rw [tokens?_of_yields (yields_opening hw []), tokens?_nil]
  rfl

lemma tokens?_header {w : List Char} {arguments : Arguments} (hw : isStrictName w = true)
    (h : Value.fieldsLegible arguments = true) :
    tokens? (w ++ argumentsChars arguments ++ [' ', '{']) =
      some (.name w :: (argumentsTokens arguments ++ [.mark '{'])) := by
  rw [tokens?_of_yields (yields_header hw h []), tokens?_nil]
  simp

/-- The tokens of a document up to the brace that opens its selection. -/
def openingTokens (operation collection : List Char) (arguments : List Token) : List Token :=
  [.mark '{', .name operation, .mark '{', .name collection] ++ arguments ++ [.mark '{']

/-- The tokens of a document: an operation, and in it one field with arguments and a selection. -/
def documentTokens (operation collection : List Char) (arguments selection : List Token) :
    List Token :=
  openingTokens operation collection arguments ++ selection ++ [.mark '}', .mark '}', .mark '}']

/-- A document has the same tokens under every indent. -/
theorem tokens?_document {operation collection : List Char} {arguments : Arguments}
    {selection : List Selection} {ts : List Token} (ho : isStrictName operation = true)
    (hc : isStrictName collection = true) (ha : Value.fieldsLegible arguments = true)
    (hs : Selection.tokensAll? selection = some ts) (n : Nat) :
    tokens? (Document.chars ⟨operation, collection, argumentsChars arguments, selection⟩
      (List.replicate n ' ')) =
        some (documentTokens operation collection (argumentsTokens arguments) ts) := by
  have hcollection : Selection.tokens? (.block (collection ++ argumentsChars arguments) selection) =
      some (.name collection :: (argumentsTokens arguments ++ [.mark '{']) ++ ts ++ [.mark '}']) := by
    rw [Selection.tokens?, tokens?_header hc ha, hs]
    rfl
  have hroot : Selection.tokens?
      (.block operation [.block (collection ++ argumentsChars arguments) selection]) =
      some ([.name operation, .mark '{'] ++ (.name collection ::
        (argumentsTokens arguments ++ [.mark '{']) ++ ts ++ [.mark '}']) ++ [.mark '}']) := by
    rw [Selection.tokens?, tokens?_opening ho, Selection.tokensAll?, hcollection, Selection.tokensAll?]
    simp
  have htext : Document.chars ⟨operation, collection, argumentsChars arguments, selection⟩
      (List.replicate n ' ') = '{' :: '\n' :: (Selection.ended (Selection.lines
        (List.replicate n ' ') 1
        (.block operation [.block (collection ++ argumentsChars arguments) selection])) ++
          ['}', '\n']) := by
    simp [Document.chars, Document.lines, Selection.ended]
  have hbrace : lexeme? ('{' :: '\n' :: (Selection.ended (Selection.lines
        (List.replicate n ' ') 1
        (.block operation [.block (collection ++ argumentsChars arguments) selection])) ++
          ['}', '\n'])) = some (.token (.mark '{'), _) := rfl
  have hend : tokens? ['}', '\n'] = some [.mark '}'] := by
    have hclose : lexeme? ['}', '\n'] = some (.token (.mark '}'), ['\n']) := rfl
    rw [tokens?_of_lexeme? hclose, tokens?_lineEnd, tokens?_nil]
    rfl
  rw [htext, tokens?_of_lexeme? hbrace, tokens?_lineEnd, Selection.tokens?_lines n _ 1 _ hroot, hend]
  simp [documentTokens, openingTokens, Lexeme.token?]

/-! ### Braces -/

lemma nested_name (w : List Char) : Nested [.name w] := nested_of_forall (by simp)

lemma nested_mark {c : Char} (ho : c ≠ '{') (hc : c ≠ '}') : Nested [.mark c] :=
  nested_of_forall (by simp [ho, hc])

namespace Value

mutual

/-- A value closes the braces it opens. -/
theorem nested_tokens : ∀ v : Value, Nested v.tokens
  | .null => nested_name _
  | .bool _ => nested_name _
  | .int _ => nested_of_forall (by simp [tokens])
  | .float _ => nested_of_forall (by simp [tokens])
  | .string _ => nested_of_forall (by simp [tokens])
  | .block s => by
    rw [tokens]
    unfold blockToken
    split <;> exact nested_of_forall (by simp)
  | .enum _ => nested_name _
  | .list xs => by
    rw [tokens]
    exact (nested_mark (c := '[') (by decide) (by decide)).append
      ((nested_itemsTokens xs).append (nested_mark (by decide) (by decide)))
  | .object fs => by
    rw [tokens]
    exact (nested_fieldsTokens fs).braces

theorem nested_itemsTokens : ∀ xs : List Value, Nested (itemsTokens xs)
  | [] => nested_nil
  | x :: r => by
    rw [itemsTokens]
    exact (nested_tokens x).append (nested_itemsTokens r)

theorem nested_fieldsTokens : ∀ fs : List (String × Value), Nested (fieldsTokens fs)
  | [] => nested_nil
  | (n, v) :: r => by
    rw [fieldsTokens]
    exact (nested_name n.toList).append ((nested_mark (c := ':') (by decide) (by decide)).append
      ((nested_tokens v).append (nested_fieldsTokens r)))

end

end Value

lemma nested_argumentsTokens (arguments : Arguments) : Nested (argumentsTokens arguments) := by
  unfold argumentsTokens
  split
  · exact nested_nil
  · exact (nested_mark (c := '(') (by decide) (by decide)).append
      ((Value.nested_fieldsTokens arguments).append (nested_mark (by decide) (by decide)))

/-- The three braces that the layout opens are closed by the last three tokens, and by no token before:
the selection stays deeper than the field it belongs to, and ends as deep as it begins. -/
structure IsFramed (operation collection : List Char) (arguments selection : List Token) :
    Prop where
  inside : ∀ p, p <+: selection →
    depthAfter 0 [.mark '{', .name operation, .mark '{'] <
      depthAfter 0 (openingTokens operation collection arguments ++ p)
  ends : depthAfter 0 (openingTokens operation collection arguments ++ selection) = 3
  selectionBody : IsBody (.mark '{' :: selection ++ [.mark '}'])
  operationBody : IsBody (.mark '{' :: (.name collection :: (arguments ++
    (.mark '{' :: selection ++ [.mark '}']))) ++ [.mark '}'])
  documentBody : IsBody (documentTokens operation collection arguments selection)

theorem isFramed_of_nested (operation collection : List Char) {arguments selection : List Token}
    (ha : Nested arguments) (hs : Nested selection) :
    IsFramed operation collection arguments selection := by
  have hopen : depthAfter 0 (openingTokens operation collection arguments) = 3 := by
    rw [openingTokens, depthAfter_append, depthAfter_append]
    change Token.deepen (depthAfter 2 arguments) (.mark '{') = 3
    rw [(ha 2).2]
    rfl
  have hfield : Nested (.name collection :: (arguments ++ (.mark '{' :: selection ++ [.mark '}']))) :=
    (nested_name collection).append (ha.append hs.braces)
  have hroot : Nested (.name operation :: (.mark '{' :: (.name collection :: (arguments ++
      (.mark '{' :: selection ++ [.mark '}']))) ++ [.mark '}'])) :=
    (nested_name operation).append hfield.braces
  refine ⟨fun p hp => ?_, ?_, hs.isBody, hfield.isBody, ?_⟩
  · rw [depthAfter_append, hopen]
    exact (hs 3).1 p hp
  · rw [depthAfter_append, hopen, (hs 3).2]
  · have hbody := hroot.isBody
    simpa [documentTokens, openingTokens] using hbody

end VectorQuery.GraphQL
