import VectorQuery.GraphQL.Document
import VectorQuery.Text.Split
import VectorQuery.Proofs.GraphQL.SelectionScanner

/-! A layout read back line by line. A line that ends in a space and a brace opens a block, one that is a closing brace
closes it, and any other is a selection of its own. This gives back what was laid out, under every indentation, and the
depth of a line is told by the lines before it. -/
namespace VectorQuery.GraphQL
open VectorQuery.Text

/-! ### Lines -/

/-- A line of a layout as it is read. -/
inductive Line
  | opening (header : List Char)
  | closing
  | leaf (text : List Char)
  deriving DecidableEq

namespace Line

/-- What a line says, whatever its indentation is. -/
def read (line : List Char) : Line :=
  if [' ', '{'] <:+ line then .opening (trim (line.take (line.length - 2)))
  else if trim line = ['}'] then .closing
  else .leaf (trim line)

/-- A line without its indentation. -/
def text : Line → List Char
  | opening header => header ++ [' ', '{']
  | closing => ['}']
  | leaf text => text

end Line

/-- Text that begins and ends with a character that is no blank, and stays on its line. -/
def isEntry (s : List Char) : Bool :=
  s.head?.any (!isBlank ·) && s.getLast?.any (!isBlank ·) && !s.contains '\n'

/-- An entry without braces. -/
def isPlainEntry (s : List Char) : Bool := isEntry s && !s.contains '{' && !s.contains '}'

/-- A line that is told apart from the other kinds: the brace of a leaf is not taken for one of the layout. -/
def Line.isReadable : Line → Bool
  | opening header => isEntry header
  | closing => true
  | leaf text => isEntry text && text.getLast? != some '{' && text != ['}']

lemma isEntry_iff {s : List Char} : isEntry s = true ↔
    (∃ c ∈ s.head?, isBlank c = false) ∧ (∃ c ∈ s.getLast?, isBlank c = false) ∧ '\n' ∉ s := by
  simp [isEntry, Option.any_eq_true, and_assoc]

lemma isPlainEntry_iff {s : List Char} :
    isPlainEntry s = true ↔ isEntry s = true ∧ '{' ∉ s ∧ '}' ∉ s := by
  simp [isPlainEntry, and_assoc]

lemma isPlainEntry_append {s t : List Char} (hs : isPlainEntry s = true)
    (ht : (t.isEmpty || isPlainEntry t) = true) : isPlainEntry (s ++ t) = true := by
  rw [Bool.or_eq_true, List.isEmpty_iff] at ht
  obtain rfl | ht := ht
  · rwa [List.append_nil]
  rw [isPlainEntry_iff, isEntry_iff] at hs ht ⊢
  obtain ⟨⟨⟨c, hc, hfirst⟩, -, hfeed⟩, hopening, hclosing⟩ := hs
  obtain ⟨⟨-, ⟨d, hd, hlast⟩, hfeed'⟩, hopening', hclosing'⟩ := ht
  have hhead : c ∈ (s ++ t).head? := by
    rw [Option.mem_def] at hc ⊢
    simp [hc]
  have hend : d ∈ (s ++ t).getLast? := by
    rw [Option.mem_def] at hd ⊢
    simp [hd]
  refine ⟨⟨⟨c, hhead, hfirst⟩, ⟨d, hend, hlast⟩, ?_⟩, ?_, ?_⟩ <;> simp [*]

/-- Blanks in front of an entry are all that trimming takes away. -/
lemma trim_append {w s : List Char} (hw : ∀ c ∈ w, isBlank c = true)
    (hfirst : ∃ c ∈ s.head?, isBlank c = false) (hlast : ∃ c ∈ s.getLast?, isBlank c = false) :
    trim (w ++ s) = s := by
  obtain ⟨c, hc, hblank⟩ := hfirst
  obtain ⟨r, rfl⟩ := List.head?_eq_some_iff.1 hc
  have hend : ∀ d ∈ (c :: r).getLast?, isBlank d = false := by
    obtain ⟨d, hd, hblank⟩ := hlast
    intro e he
    exact Option.mem_unique hd he ▸ hblank
  rw [trim, trimLeft, List.dropWhile_append_of_pos hw, List.dropWhile_cons_of_neg (by simp [hblank]),
    trimRight_of_not_isBlank hend]

lemma not_opening_suffix {s : List Char} (h : s.getLast? ≠ some '{') : ¬[' ', '{'] <:+ s := by
  rintro ⟨w, rfl⟩
  exact h (by simp)

namespace Line

/-- Without its indentation no line begins with a blank, and none holds a line feed. -/
lemma text_of_isReadable {line : Line} (h : line.isReadable = true) :
    (∃ c ∈ line.text.head?, isBlank c = false) ∧ '\n' ∉ line.text := by
  cases line with
  | opening header =>
    obtain ⟨⟨c, hc, hblank⟩, -, hfeed⟩ := isEntry_iff.1 h
    refine ⟨⟨c, ?_, hblank⟩, by simpa [text] using hfeed⟩
    obtain ⟨r, rfl⟩ := List.head?_eq_some_iff.1 hc
    rfl
  | closing => exact ⟨⟨'}', rfl, rfl⟩, by decide⟩
  | leaf text =>
    simp only [isReadable, Bool.and_eq_true] at h
    obtain ⟨hfirst, -, hfeed⟩ := isEntry_iff.1 h.1.1
    exact ⟨hfirst, hfeed⟩

/-- A line is read as what it was written for, behind any indentation. -/
theorem read_append_text {line : Line} (h : line.isReadable = true) {w : List Char}
    (hw : ∀ c ∈ w, isBlank c = true) : read (w ++ line.text) = line := by
  cases line with
  | opening header =>
    obtain ⟨hfirst, hlast, -⟩ := isEntry_iff.1 h
    have hline : w ++ text (opening header) = (w ++ header) ++ [' ', '{'] := by simp [text]
    have hlength : (w ++ header).length = (w ++ header ++ [' ', '{']).length - 2 := by
      simp only [List.length_append, List.length_cons, List.length_nil]
      omega
    rw [hline, read, if_pos (List.suffix_append _ _), List.take_left' hlength,
      trim_append hw hfirst hlast]
  | closing =>
    have htrim : trim (w ++ ['}']) = ['}'] :=
      trim_append hw ⟨'}', rfl, rfl⟩ ⟨'}', rfl, rfl⟩
    rw [text, read, if_neg (not_opening_suffix (by simp)), if_pos htrim]
  | leaf text =>
    simp only [isReadable, Bool.and_eq_true, bne_iff_ne] at h
    obtain ⟨⟨hentry, hopening⟩, hclosing⟩ := h
    obtain ⟨hfirst, hlast, -⟩ := isEntry_iff.1 hentry
    have hend : (w ++ text).getLast? ≠ some '{' := by
      obtain ⟨c, hc, -⟩ := hlast
      rw [Option.mem_def] at hc
      simpa [List.getLast?_append, hc] using hopening
    rw [Line.text, read, if_neg (not_opening_suffix hend), trim_append hw hfirst hlast, if_neg hclosing]

lemma takeWhile_append_text {line : Line} (h : line.isReadable = true) {w : List Char}
    (hw : ∀ c ∈ w, isBlank c = true) : (w ++ line.text).takeWhile isBlank = w := by
  obtain ⟨⟨c, hc, hblank⟩, -⟩ := text_of_isReadable h
  refine takeWhile_append_stops hw fun d hd => ?_
  exact Option.mem_unique hc hd ▸ hblank

end Line

/-! ### Trees -/

/-- The selections that lines stand for. Blocks that are open are kept from the innermost one on, each with its header
and the selections in front of it, and `done` is what the innermost block has so far. -/
def readOnto? : List (List Char × List Selection) → List Selection → List Line →
    Option (List Selection)
  | [], done, [] => some done
  | _ :: _, _, [] => none
  | blocks, done, .leaf text :: r => readOnto? blocks (done ++ [.line text]) r
  | blocks, done, .opening header :: r => readOnto? ((header, done) :: blocks) [] r
  | (header, before) :: blocks, done, .closing :: r =>
    readOnto? blocks (before ++ [.block header done]) r
  | [], _, .closing :: _ => none

/-- The depth of each line, counted from the lines before it; a line that closes a block is as deep as the one that
opens it. -/
def nesting : Nat → List Line → List Nat
  | _, [] => []
  | depth, .opening _ :: r => depth :: nesting (depth + 1) r
  | depth, .closing :: r => (depth - 1) :: nesting (depth - 1) r
  | depth, .leaf _ :: r => depth :: nesting depth r

namespace Selection

mutual

/-- The lines of a selection with the depth of each. -/
def outline (depth : Nat) : Selection → List (Nat × Line)
  | .line text => [(depth, .leaf text)]
  | .block header children =>
    (depth, .opening header) :: outlineAll (depth + 1) children ++ [(depth, .closing)]

def outlineAll (depth : Nat) : List Selection → List (Nat × Line)
  | [] => []
  | s :: r => outline depth s ++ outlineAll depth r

end

mutual

/-- The texts of a selection: its lines and its headers. -/
def texts : Selection → List (List Char)
  | .line text => [text]
  | .block header children => header :: textsAll children

def textsAll : List Selection → List (List Char)
  | [] => []
  | s :: r => texts s ++ textsAll r

end

variable (indent : List Char)

/-- A line of an outline as the layout writes it. -/
def laidOut (x : Nat × Line) : List Char := pad indent x.1 ++ x.2.text

mutual

lemma lines_eq_map : ∀ (s : Selection) (depth : Nat),
    lines indent depth s = (outline depth s).map (laidOut indent)
  | .line text, depth => rfl
  | .block header children, depth => by
    rw [lines, outline, linesAll_eq_map children (depth + 1)]
    simp [laidOut, Line.text]

lemma linesAll_eq_map : ∀ (ss : List Selection) (depth : Nat),
    linesAll indent depth ss = (outlineAll depth ss).map (laidOut indent)
  | [], _ => rfl
  | s :: r, depth => by
    rw [linesAll, outlineAll, List.map_append, lines_eq_map s depth, linesAll_eq_map r depth]

end

mutual

/-- Reading the lines of a selection adds it to what its block has so far. -/
theorem readOnto?_outline : ∀ (s : Selection) (depth : Nat) (blocks : List (List Char × List Selection))
    (done : List Selection) (r : List Line),
    readOnto? blocks done ((outline depth s).map (·.2) ++ r) = readOnto? blocks (done ++ [s]) r
  | .line text, depth, blocks, done, r => by simp [outline, readOnto?]
  | .block header children, depth, blocks, done, r => by
    simp only [outline, List.map_cons, List.map_append, List.map_nil, List.cons_append,
      List.append_assoc, readOnto?]
    -- the children are read onto the block that the header has opened, and its closing line ends this one
    rw [readOnto?_outlineAll children (depth + 1)]
    simp [readOnto?]

theorem readOnto?_outlineAll : ∀ (ss : List Selection) (depth : Nat)
    (blocks : List (List Char × List Selection)) (done : List Selection) (r : List Line),
    readOnto? blocks done ((outlineAll depth ss).map (·.2) ++ r) = readOnto? blocks (done ++ ss) r
  | [], _, blocks, done, r => by simp [outlineAll]
  | s :: ss, depth, blocks, done, r => by
    rw [outlineAll, List.map_append, List.append_assoc, readOnto?_outline s depth,
      readOnto?_outlineAll ss depth, List.append_assoc]
    rfl

end

mutual

/-- The depths counted from the lines of a selection are its own. -/
theorem nesting_outline : ∀ (s : Selection) (depth : Nat) (r : List Line),
    nesting depth ((outline depth s).map (·.2) ++ r) =
      (outline depth s).map (·.1) ++ nesting depth r
  | .line text, depth, r => by simp [outline, nesting]
  | .block header children, depth, r => by
    simp only [outline, List.map_cons, List.map_append, List.map_nil, List.cons_append,
      List.append_assoc, nesting]
    rw [nesting_outlineAll children (depth + 1)]
    simp [nesting]

theorem nesting_outlineAll : ∀ (ss : List Selection) (depth : Nat) (r : List Line),
    nesting depth ((outlineAll depth ss).map (·.2) ++ r) =
      (outlineAll depth ss).map (·.1) ++ nesting depth r
  | [], _, r => by simp [outlineAll]
  | s :: ss, depth, r => by
    rw [outlineAll, List.map_append, List.map_append, List.append_assoc, nesting_outline s depth,
      nesting_outlineAll ss depth, List.append_assoc]

end

lemma isReadable_of_isPlainEntry {s : List Char} (h : isPlainEntry s = true) :
    (Line.leaf s).isReadable = true ∧ (Line.opening s).isReadable = true := by
  obtain ⟨hentry, hopening, hclosing⟩ := isPlainEntry_iff.1 h
  have hlast : s.getLast? ≠ some '{' := fun hs => hopening (List.mem_of_getLast? hs)
  have hbrace : s ≠ ['}'] := by
    rintro rfl
    exact hclosing (by simp)
  simp [Line.isReadable, hentry, hlast, hbrace]

mutual

/-- Without braces in its texts every line of a selection is told apart. -/
lemma isReadable_outline : ∀ (s : Selection) (depth : Nat), (∀ t ∈ s.texts, isPlainEntry t = true) →
    ∀ x ∈ s.outline depth, x.2.isReadable = true
  | .line text, depth, h, x, hx => by
    obtain rfl : x = (depth, .leaf text) := by simpa [outline] using hx
    exact (isReadable_of_isPlainEntry (h text (by simp [texts]))).1
  | .block header children, depth, h, x, hx => by
    simp only [outline, List.mem_append, List.mem_cons, List.not_mem_nil, or_false] at hx
    obtain (rfl | hx) | rfl := hx
    · exact (isReadable_of_isPlainEntry (h header (by simp [texts]))).2
    · exact isReadable_outlineAll children (depth + 1) (fun t ht => h t (by simp [texts, ht])) x hx
    · rfl

lemma isReadable_outlineAll : ∀ (ss : List Selection) (depth : Nat),
    (∀ t ∈ textsAll ss, isPlainEntry t = true) → ∀ x ∈ outlineAll depth ss, x.2.isReadable = true
  | [], _, _, x, hx => by simp [outlineAll] at hx
  | s :: r, depth, h, x, hx => by
    rw [outlineAll, List.mem_append] at hx
    rcases hx with hx | hx
    · exact isReadable_outline s depth (fun t ht => h t (by simp [textsAll, ht])) x hx
    · exact isReadable_outlineAll r depth (fun t ht => h t (by simp [textsAll, ht])) x hx

end

end Selection

/-! ### Laid out lines -/

lemma isBlank_of_mem_pad {indent : List Char} (hindent : indent.all isIndent = true) {depth : Nat} {c : Char}
    (h : c ∈ Selection.pad indent depth) : isBlank c = true ∧ c ≠ '\n' := by
  have hc : c = ' ' ∨ c = '\t' := by
    simpa [isIndent] using List.all_eq_true.1 hindent c (Selection.mem_of_mem_pad h)
  obtain rfl | rfl := hc <;> exact ⟨rfl, by decide⟩

section
variable {indent : List Char} (hindent : indent.all isIndent = true) {xs : List (Nat × Line)}
  (hxs : ∀ x ∈ xs, x.2.isReadable = true)
include hindent hxs

lemma read_laidOut : (xs.map (Selection.laidOut indent)).map Line.read = xs.map (·.2) := by
  rw [List.map_map]
  refine List.map_congr_left fun x hx => Line.read_append_text (hxs x hx) fun c hc => ?_
  exact (isBlank_of_mem_pad hindent hc).1

/-- The blanks in front of a line are as many copies of the indentation as it is deep. -/
lemma takeWhile_laidOut : (xs.map (Selection.laidOut indent)).map (List.takeWhile isBlank) =
    (xs.map (·.1)).map fun depth => (List.replicate depth indent).flatten := by
  rw [List.map_map, List.map_map]
  refine List.map_congr_left fun x hx => ?_
  have hblank : ∀ c ∈ Selection.pad indent x.1, isBlank c = true :=
    fun c hc => (isBlank_of_mem_pad hindent hc).1
  exact Line.takeWhile_append_text (hxs x hx) hblank

lemma lineFeed_laidOut : ∀ line ∈ xs.map (Selection.laidOut indent), '\n' ∉ line := by
  intro line hline hfeed
  obtain ⟨x, hx, rfl⟩ := List.mem_map.1 hline
  rcases List.mem_append.1 hfeed with h | h
  · exact (isBlank_of_mem_pad hindent h).2 rfl
  · exact (Line.text_of_isReadable (hxs x hx)).2 h

end

/-! ### Texts -/

/-- The lines of a text that ends with a line feed. -/
def endedLines? (text : List Char) : Option (List (List Char)) :=
  let lines := splitOn '\n' text
  if lines.getLast? = some [] then some lines.dropLast else none

lemma endedLines?_flatMap {lines : List (List Char)} (h : ∀ line ∈ lines, '\n' ∉ line) :
    endedLines? (lines.flatMap fun line => line ++ ['\n']) = some lines := by
  have hsplit : splitOn '\n' (lines.flatMap fun line => line ++ ['\n']) = lines ++ [[]] := by
    induction lines with
    | nil => rfl
    | cons line lines ih =>
      rw [List.flatMap_cons, List.append_assoc, List.singleton_append, splitOn_append_cons,
        splitOn_of_notMem (h line (by simp)), ih fun l hl => h l (by simp [hl])]
      rfl
  simp [endedLines?, hsplit]

namespace Document

/-- No text of the document has a brace, a line feed, or a blank at its ends, and none but the arguments is empty. -/
def isPlain (doc : Document) : Bool :=
  (doc.operation :: doc.collection :: Selection.textsAll doc.selection).all isPlainEntry &&
    (doc.arguments.isEmpty || isPlainEntry doc.arguments)

/-- The selection that the layout writes between the outermost braces. -/
def root (doc : Document) : Selection :=
  .block doc.operation [.block (doc.collection ++ doc.arguments) doc.selection]

/-- A document is read from a text: all lines of the text are ended, the first and the last are the outermost braces,
those in between are read as the operation, the header of its field and the selection, and the blanks in front of each
line are as many copies of the indentation as it is deep, not more and not less. -/
structure IsReadFrom (doc : Document) (indent text : List Char) (inner : List (List Char)) : Prop where
  lines : endedLines? text = some (['{'] :: inner ++ [['}']])
  selection : readOnto? [] [] (inner.map Line.read) =
    some [.block doc.operation [.block (doc.collection ++ doc.arguments) doc.selection]]
  indentation : (['{'] :: inner ++ [['}']]).map (List.takeWhile isBlank) =
    (0 :: nesting 1 (inner.map Line.read) ++ [0]).map fun depth => (List.replicate depth indent).flatten

/-- The text of a document determines it, whatever indentation it was written with. -/
theorem IsReadFrom.unique {doc doc' : Document} {indent indent' text : List Char} {inner inner' : List (List Char)}
    (h : doc.IsReadFrom indent text inner) (h' : doc'.IsReadFrom indent' text inner') :
    doc.root = doc'.root := by
  have hlines := Option.some.inj (h.lines.symm.trans h'.lines)
  obtain rfl : inner = inner' := List.append_cancel_right (List.cons.inj hlines).2
  have hselection := Option.some.inj (h.selection.symm.trans h'.selection)
  exact (List.cons.inj hselection).1

/-- A document is read from its layout when every line of it is told apart, also with braces in its arguments. -/
theorem isReadFrom_lines {doc : Document} {indent : List Char} (hindent : indent.all isIndent = true)
    (h : ∀ x ∈ doc.root.outline 1, x.2.isReadable = true) :
    doc.IsReadFrom indent (doc.chars indent) (Selection.lines indent 1 doc.root) := by
  have hlines := Selection.lines_eq_map indent doc.root 1
  have hread := read_laidOut hindent h
  have hindented := takeWhile_laidOut hindent h
  have hselection := Selection.readOnto?_outline doc.root 1 [] [] []
  have hnesting := Selection.nesting_outline doc.root 1 []
  rw [← hlines] at hread hindented
  rw [List.append_nil] at hselection
  rw [List.append_nil, nesting, List.append_nil] at hnesting
  have hfeed : ∀ line ∈ ['{'] :: Selection.lines indent 1 doc.root ++ [['}']], '\n' ∉ line := by
    simp only [List.cons_append, List.mem_cons, List.mem_append, List.not_mem_nil, or_false]
    rintro line (rfl | hinner | rfl)
    · decide
    · exact lineFeed_laidOut hindent h line (hlines ▸ hinner)
    · decide
  refine ⟨endedLines?_flatMap hfeed, ?_, ?_⟩
  · rw [hread, hselection]
    rfl
  · simp only [List.cons_append, List.map_cons, List.map_append, hread, hnesting, hindented]
    rfl

lemma isReadable_root {doc : Document} (h : doc.isPlain = true) :
    ∀ x ∈ doc.root.outline 1, x.2.isReadable = true := by
  simp only [isPlain, Bool.and_eq_true, List.all_cons, List.all_eq_true] at h
  obtain ⟨⟨hoperation, hcollection, hselection⟩, harguments⟩ := h
  refine Selection.isReadable_outline doc.root 1 fun t ht => ?_
  simp only [root, Selection.texts, Selection.textsAll, List.append_nil, List.mem_cons] at ht
  obtain rfl | rfl | ht := ht
  · exact hoperation
  · exact isPlainEntry_append hcollection harguments
  · exact hselection t ht

/-- A document without braces in its texts is read back from its layout under every indentation. -/
theorem exists_isReadFrom_render {doc : Document} {indent : List Char} (hdoc : doc.isPlain = true)
    (hindent : indent.all isIndent = true) :
    ∃ inner, doc.IsReadFrom indent (doc.render indent).toList inner := by
  rw [render, String.toList_ofList]
  exact ⟨_, isReadFrom_lines hindent (isReadable_root hdoc)⟩

/-- Arguments, an empty block, and blocks side by side, indented by a tabulator and a space. -/
theorem exists_isReadFrom_render_blocks :
    ∃ inner, IsReadFrom ⟨"Get".toList, "Doc".toList, "(limit: 3)".toList,
        [.line "title".toList, .block "author".toList [.line "name".toList, .block "book".toList []],
          .block "_additional".toList [.line "id".toList]]⟩ ['\t', ' ']
      (render ⟨"Get".toList, "Doc".toList, "(limit: 3)".toList,
        [.line "title".toList, .block "author".toList [.line "name".toList, .block "book".toList []],
          .block "_additional".toList [.line "id".toList]]⟩ ['\t', ' ']).toList inner :=
  exists_isReadFrom_render (by decide) (by decide)

end Document

end VectorQuery.GraphQL
