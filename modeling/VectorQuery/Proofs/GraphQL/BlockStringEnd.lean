import VectorQuery.Proofs.GraphQL.SelectionScanner

/-! The end of a block string. A search that jumps from one triple quote to the next, and looks at no more than the
character in front of each, ends at the place where a lexer closes the block string that reads it one character after
the other. -/
namespace VectorQuery.GraphQL

/-! ### The search -/

/-- How the search goes on from a triple quote, or from none: it ends there, or a backslash stands in front and the
search takes a turn, to the first triple quote behind this one. The number counts the turns. -/
inductive SearchEnds (body : List Char) : Option Nat → Nat → Option Nat → Prop
  | notFound : SearchEnds body none 0 none
  | found {k : Nat} : ¬IsEscapedAt body k → SearchEnds body (some k) 0 (some k)
  | turn {k n : Nat} {e : Option Nat} : IsEscapedAt body k →
      SearchEnds body (tripleQuoteFrom? body (k + 3)) n e → SearchEnds body (some k) (n + 1) e

/-- The search ends with `blockEnd?` from every place. Each turn passes over the three characters of a triple quote, so
there are no more turns than the text has room for. -/
theorem searchEnds_blockEnd? (body : List Char) (start : Nat) :
    ∃ n, SearchEnds body (tripleQuoteFrom? body start) n (blockEnd? body start) ∧
      3 * n ≤ body.length - start := by
  cases h : tripleQuoteFrom? body start with
  | none =>
    rw [blockEnd?_eq_none h]
    exact ⟨0, .notFound, Nat.zero_le _⟩
  | some k =>
    rw [blockEnd?_eq_ite h]
    split
    · rename_i hescaped
      have hk := lt_of_tripleQuoteFrom? h
      obtain ⟨n, hn, hle⟩ := searchEnds_blockEnd? body (k + 3)
      exact ⟨n + 1, .turn hescaped hn, by omega⟩
    · rename_i hescaped
      exact ⟨0, .found hescaped, Nat.zero_le _⟩
termination_by body.length - start
decreasing_by omega

/-! ### The lexer -/

/-- How a lexer that stands at a place inside a block string comes to its end: a triple quote closes the block string,
an escaped one is passed over as four characters, any other character by itself. Where the text ends first there is no
triple quote that closes it. -/
inductive LexerEnds (body : List Char) : Nat → Option Nat → Prop
  | close {i : Nat} : tripleQuote <+: body.drop i → LexerEnds body i (some i)
  | escape {i : Nat} {e : Option Nat} : '\\' :: tripleQuote <+: body.drop i →
      LexerEnds body (i + 4) e → LexerEnds body i e
  | character {i : Nat} {e : Option Nat} : i < body.length → ¬tripleQuote <+: body.drop i →
      ¬('\\' :: tripleQuote <+: body.drop i) → LexerEnds body (i + 1) e → LexerEnds body i e
  | unclosed : LexerEnds body body.length none

lemma not_escape_of_close {s : List Char} (h : tripleQuote <+: s) : ¬('\\' :: tripleQuote <+: s) := by
  obtain ⟨r, rfl⟩ := h
  rintro ⟨q, hq⟩
  exact absurd (List.cons.inj hq).1 (by decide)

lemma lt_of_prefix_drop {p body : List Char} {i : Nat} (hp : p ≠ []) (h : p <+: body.drop i) :
    i < body.length := by
  have hle := h.length_le
  have hpos := List.length_pos_iff.2 hp
  rw [List.length_drop] at hle
  omega

/-- From one place a lexer comes to one end. -/
theorem LexerEnds.unique {body : List Char} {i : Nat} {e f : Option Nat} (he : LexerEnds body i e)
    (hf : LexerEnds body i f) : e = f := by
  have hlt {j : Nat} (h : tripleQuote <+: body.drop j) : j < body.length :=
    lt_of_prefix_drop (by simp [tripleQuote]) h
  have hlt' {j : Nat} (h : '\\' :: tripleQuote <+: body.drop j) : j < body.length :=
    lt_of_prefix_drop (by simp) h
  -- what stands at a place leaves one way to go on, so the two runs take the same steps
  induction he with
  | close h =>
    cases hf with
    | close => rfl
    | escape h' => exact absurd h' (not_escape_of_close h)
    | character _ h' => exact absurd h h'
    | unclosed => exact absurd (hlt h) (Nat.lt_irrefl _)
  | escape h _ ih =>
    cases hf with
    | close h' => exact absurd h (not_escape_of_close h')
    | escape _ hf => exact ih hf
    | character _ _ h' => exact absurd h h'
    | unclosed => exact absurd (hlt' h) (Nat.lt_irrefl _)
  | character h hclose hescape _ ih =>
    cases hf with
    | close h' => exact absurd h' hclose
    | escape h' => exact absurd h' hescape
    | character _ _ _ hf => exact ih hf
    | unclosed => exact absurd h (Nat.lt_irrefl _)
  | unclosed =>
    cases hf with
    | close h => exact absurd (hlt h) (Nat.lt_irrefl _)
    | escape h => exact absurd (hlt' h) (Nat.lt_irrefl _)
    | character h => exact absurd h (Nat.lt_irrefl _)
    | unclosed => rfl

/-- The lexer ends where the body of the block string does. -/
theorem lexerEnds_blockBody? (p s : List Char) :
    LexerEnds (p ++ s) p.length ((blockBody? s).map (p.length + ·.1.length)) := by
  fun_induction blockBody? s generalizing p with
  | case1 =>
    rw [List.append_nil]
    exact .unclosed
  | case2 r => exact .close (by rw [List.drop_left]; exact ⟨r, rfl⟩)
  | case3 r ih =>
    have hrest := ih (p ++ '\\' :: tripleQuote)
    refine .escape (by rw [List.drop_left]; exact ⟨r, rfl⟩) ?_
    simpa [tripleQuote, Option.map_map, Function.comp_def, Nat.add_assoc, Nat.add_comm 4] using hrest
  | case4 c r hclose hescape ih =>
    have hrest := ih (p ++ [c])
    refine .character (by simp) ?_ ?_ ?_
    · rw [List.drop_left]
      rintro ⟨q, hq⟩
      obtain ⟨rfl, rfl⟩ := List.cons.inj hq
      exact hclose q rfl rfl
    · rw [List.drop_left]
      rintro ⟨q, hq⟩
      obtain ⟨rfl, rfl⟩ := List.cons.inj hq
      exact hescape q rfl rfl
    · simpa [Option.map_map, Function.comp_def, Nat.add_assoc, Nat.add_comm 1] using hrest

/-! ### Both -/

lemma exists_eq_append_of_suffix {body : List Char} {start : Nat} (hstart : start ≤ body.length)
    (hopen : tripleQuote <:+ body.take start) :
    ∃ p s, body = p ++ s ∧ start = p.length ∧ p.getLast? = some '"' := by
  obtain ⟨q, hq⟩ := hopen
  refine ⟨body.take start, body.drop start, (List.take_append_drop start body).symm, ?_, ?_⟩
  · rw [List.length_take, Nat.min_eq_left hstart]
  · rw [← hq]
    simp [tripleQuote]

/-- The search depends on the text from its start alone, unless a backslash stands in front, and counts from there. -/
theorem blockEnd?_behind {p : List Char} (hp : p.getLast? ≠ some '\\') (s : List Char) :
    blockEnd? (p ++ s) p.length = (blockEnd? s 0).map (p.length + ·) := by
  rw [blockEnd?_append hp, blockEnd?_zero, Option.map_map]
  rfl

/-- Right behind the triple quote that opens a block string the search comes to its end, and it ends at the triple
quote at which the lexer closes the block string; it finds none exactly if the lexer comes to the end of the text. -/
theorem blockEnd?_iff_lexerEnds {body : List Char} {start : Nat} (hstart : start ≤ body.length)
    (hopen : tripleQuote <:+ body.take start) :
    (∃ n, SearchEnds body (tripleQuoteFrom? body start) n (blockEnd? body start) ∧
      3 * n ≤ body.length - start) ∧
    ∀ e, blockEnd? body start = e ↔ LexerEnds body start e := by
  refine ⟨searchEnds_blockEnd? body start, fun e => ?_⟩
  obtain ⟨p, s, rfl, rfl, hquote⟩ := exists_eq_append_of_suffix hstart hopen
  have hlexer := lexerEnds_blockBody? p s
  rw [← blockEnd?_append (by simp [hquote])] at hlexer
  exact ⟨fun h => h ▸ hlexer, fun h => hlexer.unique h⟩

/-- Two escaped triple quotes, each with a quote behind it, and the second with two backslashes in front. -/
theorem blockEnd?_iff_lexerEnds_escapes :
    blockEnd? "\"\"\"a \\\"\"\"\" b \\\\\"\"\"\" \"\"\"".toList 3 = some 20 ∧
      LexerEnds "\"\"\"a \\\"\"\"\" b \\\\\"\"\"\" \"\"\"".toList 3 (some 20) := by
  have hend : blockEnd? "\"\"\"a \\\"\"\"\" b \\\\\"\"\"\" \"\"\"".toList 3 = some 20 := by cbv
  exact ⟨hend, ((blockEnd?_iff_lexerEnds (by decide) (by decide)).2 _).1 hend⟩

end VectorQuery.GraphQL
