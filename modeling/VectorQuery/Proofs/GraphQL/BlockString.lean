import VectorQuery.Proofs.GraphQL.StringValue

/-! Block strings carry every text. What the reader of a block string removes is not there, or was added
for it. -/
namespace VectorQuery.GraphQL
open VectorQuery.Text

/-! ### Triple quotes -/

/-- What comes after escaped text when the two together begin with a quote. -/
lemma escapeTripleQuotes_eq_quote {r u v : List Char}
    (h : escapeTripleQuotes r ++ u = '"' :: v) :
    r = [] ∧ u = '"' :: v ∨
      ∃ r', r = '"' :: r' ∧ escapeTripleQuotes r = '"' :: escapeTripleQuotes r' ∧
        escapeTripleQuotes r' ++ u = v := by
  fun_cases escapeTripleQuotes r with
  | case1 r => cases h
  | case2 c r hopen =>
    rw [escapeTripleQuotes.eq_2 _ _ hopen] at h
    obtain ⟨rfl, hv⟩ := List.cons.inj h
    exact .inr ⟨r, rfl, rfl, hv⟩
  | case3 => exact .inl ⟨rfl, h⟩

/-- Escaped text does not begin with three quotes. -/
lemma escapeTripleQuotes_ne_triple (r v : List Char) :
    escapeTripleQuotes ('"' :: '"' :: '"' :: r) ≠ '"' :: v := by
  intro h
  cases h

/-- A line feed, or nothing where the text ends in neither a quote nor a backslash. -/
def Guarded (e g : List Char) : Prop :=
  g = ['\n'] ∨ g = [] ∧ e.getLast? ≠ some '"' ∧ e.getLast? ≠ some '\\'

lemma Guarded.of_append {w e g : List Char} (h : Guarded (w ++ e) g) : Guarded e g := by
  refine h.imp_right fun ⟨hg, hquote, hslash⟩ => ⟨hg, ?_⟩
  rw [List.getLast?_append] at hquote hslash
  cases he : e.getLast? with
  | none => simp
  | some c => exact ⟨by simpa [he] using hquote, by simpa [he] using hslash⟩

lemma guardEnd_eq (s : List Char) : ∃ g, guardEnd s = s ++ g ∧ Guarded s g := by
  unfold guardEnd
  split
  · exact ⟨['\n'], rfl, .inl rfl⟩
  · exact ⟨['\n'], rfl, .inl rfl⟩
  · rename_i hquote hslash
    exact ⟨[], by simp, .inr ⟨rfl, hquote, hslash⟩⟩

/-- After a quote or a backslash the closing quotes do not follow at once. -/
lemma Guarded.quote {c : Char} {r g q v : List Char} (hc : c = '"' ∨ c = '\\')
    (hg : Guarded (c :: escapeTripleQuotes r) g)
    (h : escapeTripleQuotes r ++ (g ++ q) = '"' :: v) :
    ∃ r', r = '"' :: r' ∧ escapeTripleQuotes r = '"' :: escapeTripleQuotes r' ∧
      Guarded ('"' :: escapeTripleQuotes r') g ∧ escapeTripleQuotes r' ++ (g ++ q) = v := by
  rcases escapeTripleQuotes_eq_quote h with ⟨rfl, hu⟩ | ⟨r', rfl, hr, hv⟩
  · rcases hg with rfl | ⟨-, hquote, hslash⟩
    · cases hu
    · rcases hc with rfl | rfl
      · exact absurd rfl hquote
      · exact absurd rfl hslash
  · refine ⟨r', rfl, hr, ?_, hv⟩
    rw [hr] at hg
    exact hg.of_append (w := [c])

/-- Escaped text is read to its end as the body of a block string. -/
lemma blockBody?_escapeTripleQuotes {s g : List Char} (hg : Guarded (escapeTripleQuotes s) g)
    (r : List Char) : blockBody? (escapeTripleQuotes s ++ (g ++ (tripleQuote ++ r))) =
      some (escapeTripleQuotes s ++ g, r) := by
  fun_induction escapeTripleQuotes s with
  | case1 s ih =>
    have ih := ih (hg.of_append (w := ['\\', '"', '"', '"']))
    simp only [List.cons_append, blockBody?, ih]
    rfl
  | case2 c s hopen ih =>
    have hclose (v : List Char) (hc : c = '"') :
        escapeTripleQuotes s ++ (g ++ (tripleQuote ++ r)) ≠ '"' :: '"' :: v := by
      intro h
      obtain ⟨s₁, hs₁, -, hg₁, h₁⟩ := hg.quote (.inl hc) h
      obtain ⟨s₂, rfl, -⟩ := hg₁.quote (.inl rfl) h₁
      exact hopen s₂ hc hs₁
    have hescape (v : List Char) (hc : c = '\\') :
        escapeTripleQuotes s ++ (g ++ (tripleQuote ++ r)) ≠ '"' :: '"' :: '"' :: v := by
      intro h
      obtain ⟨s₁, rfl, he, hg₁, h₁⟩ := hg.quote (.inr hc) h
      obtain ⟨s₂, rfl, -, hg₂, h₂⟩ := hg₁.quote (.inl rfl) h₁
      obtain ⟨s₃, rfl, -⟩ := hg₂.quote (.inl rfl) h₂
      exact escapeTripleQuotes_ne_triple _ _ he
    rw [List.cons_append, blockBody?.eq_4 _ _ hclose hescape, ih (hg.of_append (w := [c]))]
    rfl
  | case3 =>
    rcases hg with rfl | ⟨rfl, -⟩ <;> rfl

lemma unescapeTriple_escapeTripleQuotes (s : List Char) {g : List Char}
    (hg : g = ['\n'] ∨ g = []) : unescapeTriple (escapeTripleQuotes s ++ g) = s ++ g := by
  have hquote (v : List Char) : g ≠ '"' :: v := by
    rcases hg with rfl | rfl <;> simp
  fun_induction escapeTripleQuotes s with
  | case1 s ih => simp only [List.cons_append, unescapeTriple, ih]
  | case2 c s hopen ih =>
    have hescape (v : List Char) (hc : c = '\\') :
        escapeTripleQuotes s ++ g ≠ '"' :: '"' :: '"' :: v := by
      intro h
      obtain ⟨-, h⟩ | ⟨s₁, rfl, he, h₁⟩ := escapeTripleQuotes_eq_quote h
      · exact hquote _ h
      obtain ⟨-, h⟩ | ⟨s₂, rfl, -, h₂⟩ := escapeTripleQuotes_eq_quote h₁
      · exact hquote _ h
      obtain ⟨-, h⟩ | ⟨s₃, rfl, -⟩ := escapeTripleQuotes_eq_quote h₂
      · exact hquote _ h
      exact escapeTripleQuotes_ne_triple _ _ he
    rw [List.cons_append, unescapeTriple.eq_2 _ _ hescape, ih]
    rfl
  | case3 => rcases hg with rfl | rfl <;> rfl

/-! ### Lines -/

lemma splitLines_eq_splitOn {s : List Char} (h : ∀ c ∈ s, c ≠ '\r') :
    splitLines s = splitOn '\n' s := by
  induction s with
  | nil => rfl
  | cons c s ih =>
    have hc : c ≠ '\r' := h c (by simp)
    rw [splitLines.eq_3 _ _ fun _ h => absurd h hc, splitOn, ih fun d hd => h d (by simp [hd])]
    cases splitOn '\n' s <;> simp [isLineEnd, hc]

/-- Lines that begin with no white space have no common indentation. -/
lemma commonIndent?_getD {lines : List (List Char)}
    (h : ∀ line ∈ lines, ∀ c ∈ line.head?, isWhiteSpace c = false) :
    (commonIndent? lines).getD 0 = 0 := by
  have hzero : ∀ n ∈ (lines.filter (!isEmptyLine ·)).map
      fun line => (line.takeWhile isWhiteSpace).length, n = 0 := by
    intro n hn
    obtain ⟨line, hline, rfl⟩ := List.mem_map.1 hn
    have hhead := h line (List.mem_filter.1 hline).1
    cases line with
    | nil => rfl
    | cons c line => simp [hhead c (by simp)]
  cases hmin : commonIndent? lines with
  | none => rfl
  | some n => exact hzero n (List.min?_mem hmin)

lemma dedent_eq {first : List Char} {rest : List (List Char)}
    (h : ∀ line ∈ rest, ∀ c ∈ line.head?, isWhiteSpace c = false) :
    dedent (first :: rest) = first :: rest := by
  rw [dedent, commonIndent?_getD h]
  change first :: rest.map (fun line => line) = first :: rest
  rw [List.map_id']

/-- Lines that are not empty at both ends stay, and an empty line after them goes. -/
lemma trimLines_eq {lines : List (List Char)} {g : List (List Char)} (hg : g = [[]] ∨ g = [])
    (hfirst : ∀ line ∈ lines.head?, isEmptyLine line = false)
    (hlast : ∀ line ∈ lines.getLast?, isEmptyLine line = false) (hne : lines ≠ []) :
    trimLines (lines ++ g) = lines := by
  obtain ⟨first, rest, rfl⟩ := List.exists_cons_of_ne_nil hne
  have hkeep : ((first :: rest) ++ g).dropWhile isEmptyLine = (first :: rest) ++ g :=
    List.dropWhile_cons_of_neg (by simp [hfirst first (by simp)])
  have hdrop : (first :: rest).reverse.dropWhile isEmptyLine = (first :: rest).reverse := by
    cases hr : (first :: rest).reverse with
    | nil => rfl
    | cons line lines =>
      have hmem : line ∈ (first :: rest).getLast? := by
        rw [← List.head?_reverse, hr]
        rfl
      exact List.dropWhile_cons_of_neg (by simp [hlast line hmem])
  rw [trimLines, hkeep, List.reverse_append]
  have hguard : (g.reverse ++ (first :: rest).reverse).dropWhile isEmptyLine =
      (first :: rest).reverse.dropWhile isEmptyLine := by
    rcases hg with rfl | rfl <;> rfl
  rw [hguard, hdrop, List.reverse_reverse]

/-- What the reader of a block string would change is not in a text that fits one. -/
lemma blockStringValue_of_fitsBlock {s g : List Char} (hs : fitsBlock s = true)
    (hg : g = ['\n'] ∨ g = []) : blockStringValue (s ++ g) = s := by
  obtain ⟨hsafe, hkeep⟩ := Bool.and_eq_true_iff.1 hs
  have hreturn : ∀ c ∈ s ++ g, c ≠ '\r' := by
    rintro c hc rfl
    rcases List.mem_append.1 hc with hc | hc
    · have hany : s.any isBlockUnsafe = true := List.any_eq_true.2 ⟨_, hc, rfl⟩
      rw [hany] at hsafe
      cases hsafe
    · rcases hg with rfl | rfl <;> simp at hc
  cases hlines : splitOn '\n' s with
  | nil => exact absurd hlines (splitOn_ne_nil '\n' s)
  | cons first rest =>
    simp only [hlines, keepsLines, Bool.and_eq_true, Bool.not_eq_true', List.any_eq_false] at hkeep
    obtain ⟨⟨hfirst, hlast⟩, hindent⟩ := hkeep
    obtain ⟨e, he, hsplit⟩ : ∃ e, (e = [[]] ∨ e = []) ∧
        splitOn '\n' (s ++ g) = first :: (rest ++ e) := by
      rcases hg with rfl | rfl
      · exact ⟨[[]], .inl rfl, by rw [splitOn_append_cons, hlines]; rfl⟩
      · exact ⟨[], .inr rfl, by simp [hlines]⟩
    have hdedent : dedent (first :: (rest ++ e)) = first :: (rest ++ e) := by
      refine dedent_eq fun line hline c hc => ?_
      rcases List.mem_append.1 hline with hline | hline
      · have := hindent line hline
        rw [Option.mem_def.1 hc] at this
        exact Bool.eq_false_iff.2 this
      · rcases he with rfl | rfl
        · obtain rfl := List.mem_singleton.1 hline
          cases hc
        · cases hline
    have htrim : trimLines (first :: (rest ++ e)) = first :: rest := by
      rw [← List.cons_append]
      refine trimLines_eq he ?_ ?_ (by simp)
      · rintro _ ⟨⟩
        exact hfirst
      · intro line hline
        rw [List.getLast?_cons, Option.mem_some_iff, ← List.getLastD_eq_getLast?] at hline
        exact hline ▸ hlast
    rw [blockStringValue, splitLines_eq_splitOn hreturn, hsplit, hdedent, htrim, ← hlines,
      joinWith_splitOn]

/-! ### Literals -/

/-- The token that a text written as a block string is. -/
def blockToken (s : List Char) : Token :=
  if fitsBlock s then .block (guardEnd (escapeTripleQuotes s))
  else .string (s.flatMap Json.escapedChar)

lemma blockToken_text (s : List Char) : (blockToken s).text = blockLiteral s := by
  unfold blockToken blockLiteral
  split <;> rfl

lemma blockToken_stringValue? (s : List Char) : (blockToken s).stringValue? = some s := by
  unfold blockToken
  split
  · rename_i hfit
    obtain ⟨g, hg, hguard⟩ := guardEnd_eq (escapeTripleQuotes s)
    have hfeed : g = ['\n'] ∨ g = [] := hguard.imp_right And.left
    rw [Token.stringValue?, hg, unescapeTriple_escapeTripleQuotes s hfeed,
      blockStringValue_of_fitsBlock hfit hfeed]
  · exact unescape?_flatMap_escapedChar s

lemma token?_blockToken (s : List Char) {r : List Char} (hr : r.head? ≠ some '"') :
    token? (blockLiteral s ++ r) = some (blockToken s, r) := by
  unfold blockToken blockLiteral
  split
  · obtain ⟨g, hg, hguard⟩ := guardEnd_eq (escapeTripleQuotes s)
    have htext : tripleQuote ++ guardEnd (escapeTripleQuotes s) ++ tripleQuote ++ r =
        '"' :: '"' :: '"' :: (escapeTripleQuotes s ++ (g ++ (tripleQuote ++ r))) := by
      simp [hg, tripleQuote]
    rw [htext, token?, blockBody?_escapeTripleQuotes hguard, hg]
    rfl
  · exact token?_quotedLiteral s hr

/-- A text written as a block string is read as one string token, whatever follows but a quote, and the
token stands for the text. -/
theorem token?_blockLiteral (s : List Char) {r : List Char} (hr : r.head? ≠ some '"') :
    ∃ t, token? (blockLiteral s ++ r) = some (t, r) ∧ t.text = blockLiteral s ∧
      t.stringValue? = some s :=
  ⟨blockToken s, token?_blockToken s hr, blockToken_text s, blockToken_stringValue? s⟩

/-- A text that ends in a backslash, between brackets. -/
theorem token?_blockLiteral_backslash :
    ∃ t, token? (blockLiteral "say \"\"\" or \\".toList ++ [']']) = some (t, [']']) ∧
      t.text = blockLiteral "say \"\"\" or \\".toList ∧
      t.stringValue? = some "say \"\"\" or \\".toList :=
  token?_blockLiteral _ (by decide)

end VectorQuery.GraphQL
