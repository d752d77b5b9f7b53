import ChangeImpact.Proofs.Diagram.Quoting
import ChangeImpact.Proofs.Flow.Graph

/-!
# Reading flowcharts

A flowchart refers to its nodes by identifiers alone: one line declares a node, one draws an arrow between
two, one colours a node. What the lines draw is read from the code (`read`), and it shows the graph that
was drawn if there is one identifier for each node (`Drawing.Shows`).

Identifiers have an underscore for everything but ASCII letters and digits, so that ids which differ in
nothing else (`Alike`) get one identifier.

> `flowchart_shows`: the flowchart of the graph of some flows is read as it was written, and it shows the
> graph exactly if the flows do not join two ids that are alike.

Where they do, two nodes are drawn as one (`flowchart_merges`).
-/

namespace ChangeImpact.MermaidDiagram

open Diagram Piece

/-! ## Identifiers -/

/-- The characters of a node's identifier. -/
def word (id : Name) : List Char := (identifier id).toList

/-- The ids have the same ASCII letters and digits in the same places, and as many other characters. -/
def Alike (a b : Name) : Prop :=
  List.Forall₂ (fun c d => c = d ∨ c.isAlphanum = false ∧ d.isAlphanum = false)
    a.display.toList b.display.toList

/-- Whether a character may stand in an identifier. -/
def isWordChar (c : Char) : Bool := c.isAlphanum || c == '_'

/-- Character by character, an identifier has an underscore where the id has no letter and no digit. -/
theorem word_eq_map (id : Name) :
    word id = id.display.toList.map fun c => if c.isAlphanum then c else '_' := String.toList_ofList

/-- **Ids are alike exactly if they have one identifier.** -/
theorem word_eq_iff {a b : Name} : word a = word b ↔ Alike a b := by
  -- two characters are written alike if they are the same or both become underscores
  have hchar : ∀ c d : Char, (if c.isAlphanum then c else '_') = (if d.isAlphanum then d else '_') ↔
      c = d ∨ c.isAlphanum = false ∧ d.isAlphanum = false := by
    intro c d
    have hmark : Char.isAlphanum '_' = false := by decide
    constructor
    · intro h
      split at h
      next hc =>
        split at h
        next => exact Or.inl h
        next =>
          rw [h, hmark] at hc
          cases hc
      next hc =>
        split at h
        next hd =>
          rw [← h, hmark] at hd
          cases hd
        next hd => exact Or.inr ⟨Bool.eq_false_iff.mpr hc, Bool.eq_false_iff.mpr hd⟩
    · rintro (rfl | ⟨hc, hd⟩)
      · rfl
      · rw [hc, hd]
        rfl
  rw [word_eq_map, word_eq_map, ← List.forall₂_eq_eq_eq, List.forall₂_map_left_iff,
    List.forall₂_map_right_iff]
  simp only [hchar]
  exact Iff.rfl

/-- The characters may stand for a node. -/
def IsWord (name : List Char) : Prop := ∀ c ∈ name, isWordChar c = true

/-- An identifier can be read as one word. -/
theorem isWord_word (id : Name) : IsWord (word id) := by
  intro c hc
  rw [word_eq_map] at hc
  obtain ⟨d, -, rfl⟩ := List.mem_map.mp hc
  unfold isWordChar
  split
  next hd => rw [hd, Bool.true_or]
  next => rfl

/-! ## Drawings -/

/-- What the lines of a flowchart draw: the identifiers of the nodes they declare, those that their arrows
join, and those that they colour for a level. -/
structure Drawing where
  nodes : List (List Char)
  arrows : List (List Char × List Char)
  styles : List (List Char × ImpactLevel)
deriving DecidableEq

/-- A line of a flowchart. -/
inductive Line where
  | node (word : List Char)
  | arrow (source target : List Char)
  | style (word : List Char) (level : ImpactLevel)

namespace Line

/-- The identifier that a line declares. -/
def node? : Line → Option (List Char)
  | .node word => some word
  | .arrow .. | .style .. => none

/-- The identifiers that a line joins. -/
def arrow? : Line → Option (List Char × List Char)
  | .arrow source target => some (source, target)
  | .node _ | .style .. => none

/-- The identifier that a line colours. -/
def style? : Line → Option (List Char × ImpactLevel)
  | .style word level => some (word, level)
  | .node _ | .arrow .. => none

end Line

namespace Drawing

/-- What some lines draw. -/
def ofLines (lines : List Line) : Drawing where
  nodes := lines.filterMap Line.node?
  arrows := lines.filterMap Line.arrow?
  styles := lines.filterMap Line.style?

/-- The identifiers that are coloured in the flowchart of a graph. -/
def stylesOf (graph : FlowGraph) : List (List Char × ImpactLevel) :=
  graph.nodes.filterMap fun node => (colourLevel? node).map fun level => (word node.id, level)

/-- What the flowchart of a graph draws. -/
def ofGraph (graph : FlowGraph) : Drawing where
  nodes := graph.nodes.map fun node => word node.id
  arrows := graph.edges.map fun edge => (word edge.source, word edge.target)
  styles := stylesOf graph

/-- The identifiers in a drawing, declared or joined. -/
def words (drawing : Drawing) : List (List Char) :=
  drawing.nodes ++ drawing.arrows.flatMap fun arrow => [arrow.1, arrow.2]

/-- A drawing shows a graph: no identifier is declared twice, each stands for one node, there are as many
arrows between two identifiers as edges between their nodes, and the affected nodes, and no others, are
coloured once and for their own levels. -/
structure Shows (drawing : Drawing) (graph : FlowGraph) : Prop where
  distinct : drawing.nodes.Nodup
  declared : ∀ node ∈ graph.nodes, word node.id ∈ drawing.nodes
  words : ∀ name ∈ drawing.words, ∃! node, node ∈ graph.nodes ∧ word node.id = name
  arrows : ∀ source ∈ graph.nodes, ∀ target ∈ graph.nodes,
    drawing.arrows.count (word source.id, word target.id) =
      graph.edges.countP fun edge => edge.source = source.id ∧ edge.target = target.id
  styles : ∀ style ∈ drawing.styles, ∃! node, node ∈ graph.nodes ∧ word node.id = style.1 ∧
    node.isAffected = true ∧ node.level = some (.known style.2)
  styled : ∀ node ∈ graph.nodes, ∀ level, node.isAffected = true → node.level = some (.known level) →
    (word node.id, level) ∈ drawing.styles ∧ (drawing.styles.map Prod.fst).count (word node.id) = 1

end Drawing

/-! ## Reading -/

/-- The identifier at the beginning of some pieces, and what follows it. -/
def spanWord : List Piece → List Char × List Piece
  | .sign c :: rest =>
    if isWordChar c then ((spanWord rest).1.cons c, (spanWord rest).2) else ([], .sign c :: rest)
  | rest => ([], rest)

/-- The line that declares a node, from what follows its identifier. -/
def readNode (word : List Char) : List Piece → Option Line
  | [.sign '(', .sign '[', .text _, .sign ']', .sign ')'] => some (.node word)
  | [.sign '(', .sign '(', .text _, .sign ')', .sign ')'] => some (.node word)
  | _ => none

/-- The identifier at the end of an arrow. -/
def readEnd : List Piece → Option (List Char)
  | .sign ' ' :: rest => if (spanWord rest).2 = [] then some (spanWord rest).1 else none
  | _ => none

/-- The identifier at the end of an arrow that may have a label. -/
def readTarget : List Piece → Option (List Char)
  | .sign '|' :: .text _ :: .sign '|' :: rest => readEnd rest
  | rest => readEnd rest

/-- The line that draws an arrow, from what follows the first identifier. -/
def readArrow (source : List Char) (pieces : List Piece) : Option Line := do
  let rest ← [" <-->", " -.->", " -->"].findSome? fun arrow => (signs arrow).isPrefixOf? pieces
  let target ← readTarget rest
  return .arrow source target

/-- The line that colours a node, from its identifier on. -/
def readColour (pieces : List Piece) : Option Line :=
  (Vocabulary.all.find? fun level => (spanWord pieces).2 = signs (" " ++ style level)).map
    (.style (spanWord pieces).1)

/-- The line that colours a node, from what follows its first word. -/
def readStyle (keyword : List Char) : List Piece → Option Line
  | .sign ' ' :: rest => if keyword = "style".toList then readColour rest else none
  | _ => none

/-- The line that a word and what follows it make. -/
def readAfter (name : List Char) (rest : List Piece) : Option Line :=
  (readNode name rest).or ((readArrow name rest).or (readStyle name rest))

/-- The line that some pieces make. -/
def readLine (pieces : List Piece) : Option Line :=
  if signs "    " <+: pieces then
    readAfter (spanWord (pieces.drop 4)).1 (spanWord (pieces.drop 4)).2
  else none

/-- What follows the title of a flowchart. -/
def afterTitle? (code : List Char) : Option (List Char) :=
  let rest := (code.dropWhile (· ≠ '\n')).drop 1
  if code.takeWhile (· ≠ '\n') = "flowchart TD".toList ∧ "    %% ".toList <+: rest then
    some (rest.dropWhile (· ≠ '\n'))
  else none

/-- What the code of a flowchart draws. -/
def read (code : String) : Option Drawing := do
  let rest ← afterTitle? code.toList
  let pieces ← scan .plain .outside rest
  let lines ← (pieces.splitOn (.sign '\n')).tail.mapM readLine
  return .ofLines lines

/-! ## The pieces of a code -/

/-- A label between its quotation marks. -/
def labelPiece (text : Name) : Piece := .text (label text).toList

/-- The pieces of a node's line. -/
def nodePieces (node : FlowNode) : List Piece :=
  signs "    " ++ (word node.id).map .sign ++
  match node.kind with
  | .module => signs "([" ++ [labelPiece node.label] ++ signs "])"
  | .entity => signs "((" ++ [labelPiece node.label] ++ signs "))"

/-- The pieces of an arrow's label. -/
def arrowLabel (edge : FlowEdge) : List Piece :=
  if edge.label.truthy then signs "|" ++ [labelPiece edge.label] ++ signs "|" else []

/-- The pieces of an edge's line. -/
def edgePieces (edge : FlowEdge) : List Piece :=
  signs "    " ++ (word edge.source).map .sign ++ signs (" " ++ arrow edge.flowType) ++
    arrowLabel edge ++ signs " " ++ (word edge.target).map .sign

/-- The pieces of the line that colours an identifier for a level. -/
def stylePieces (mark : List Char × ImpactLevel) : List Piece :=
  signs "    style " ++ mark.1.map .sign ++ signs (" " ++ style mark.2)

/-- The pieces of all lines after the title. -/
def rows (graph : FlowGraph) : List (List Piece) :=
  graph.nodes.map nodePieces ++ graph.edges.map edgePieces ++ (Drawing.stylesOf graph).map stylePieces

section Writing

/-- A label is written in quotation marks, as it is. -/
theorem write_label (text : Name) :
    Piece.write .plain (labelPiece text) = ("\"" ++ label text ++ "\"").toList := by
  simp only [String.toList_append]
  rfl

theorem flatMap_write_word (id : Name) :
    ((word id).map .sign).flatMap (Piece.write .plain) = (identifier id).toList :=
  flatMap_write_map .plain _

/-- The line of a node, printed from its pieces. -/
theorem nodeLine_toList (node : FlowNode) :
    (nodeLine node).toList = (nodePieces node).flatMap (Piece.write .plain) := by
  unfold nodeLine nodePieces
  cases node.kind <;>
    simp only [List.flatMap_append, flatMap_write_signs, flatMap_write_word, String.toList_append] <;>
    simp [write_label]

/-- The line of an arrow. -/
theorem edgeLine_toList (edge : FlowEdge) :
    (edgeLine edge).toList = (edgePieces edge).flatMap (Piece.write .plain) := by
  unfold edgeLine edgePieces arrowLabel
  cases edge.label.truthy <;>
    simp only [List.flatMap_append, flatMap_write_signs, flatMap_write_word, String.toList_append] <;>
    simp [flatMap_write_signs, write_label]

/-- The lines that colour nodes. -/
theorem styleLines_toList (graph : FlowGraph) :
    (graph.nodes.filterMap styleLine?).map String.toList =
      ((Drawing.stylesOf graph).map stylePieces).map (List.flatMap (Piece.write .plain)) := by
  unfold Drawing.stylesOf
  rw [List.map_filterMap, List.map_filterMap, List.map_filterMap]
  refine List.filterMap_congr fun node _ => ?_
  unfold styleLine? stylePieces
  cases colourLevel? node with
  | none => rfl
  | some level =>
    simp only [Option.map_some, List.flatMap_append, flatMap_write_signs, flatMap_write_word,
      String.toList_append]
    simp

/-- The code is the title and then what the pieces of all lines are written as. -/
theorem code_toList (graph : FlowGraph) (title : Name) : (flowchart graph title).code.toList =
    "flowchart TD".toList ++ '\n' :: ("    %% ".toList ++ title.display.toList ++
      ((rows graph).flatMap fun row => .sign '\n' :: row).flatMap (Piece.write .plain)) := by
  have hlines : (graph.nodes.map nodeLine ++ graph.edges.map edgeLine ++
      graph.nodes.filterMap styleLine?).map String.toList =
      (rows graph).map (List.flatMap (Piece.write .plain)) := by
    unfold rows
    rw [List.map_append, styleLines_toList]
    simp [nodeLine_toList, edgeLine_toList, Function.comp_def]
  have hcode : (flowchart graph title).code = "\n".intercalate ("flowchart TD" ::
      s!"    %% {title.display}" :: (graph.nodes.map nodeLine ++ graph.edges.map edgeLine ++
        graph.nodes.filterMap styleLine?)) := rfl
  rw [hcode, String.toList_intercalate, List.map_cons, List.map_cons, hlines, intercalate_cons_eq]
  simp [List.flatMap_assoc, List.flatMap_map, Piece.write]

end Writing

/-! ## Reading a line -/

section Lines

variable {name source target : List Char}

/-- A word is read up to where no letter follows. -/
theorem spanWord_append (h : IsWord name) {rest : List Piece} (hrest : spanWord rest = ([], rest)) :
    spanWord (name.map .sign ++ rest) = (name, rest) := by
  induction name with
  | nil => exact hrest
  | cons c name ih =>
    obtain ⟨hc, hname⟩ := List.forall_mem_cons.mp h
    show spanWord (.sign c :: (name.map .sign ++ rest)) = _
    unfold spanWord
    rw [if_pos hc, ih hname]

/-- A line is read by the word behind its blanks and what follows that. -/
theorem readLine_indented {rest : List Piece} (h : IsWord name) (hrest : spanWord rest = ([], rest)) :
    readLine (signs "    " ++ (name.map .sign ++ rest)) = readAfter name rest := by
  have hdrop : ∀ pieces, (signs "    " ++ pieces).drop 4 = pieces := fun _ => rfl
  unfold readLine
  rw [if_pos (List.prefix_append ..), hdrop, spanWord_append h hrest]

/-- The line of a node declares its identifier. -/
theorem readLine_nodePieces (node : FlowNode) :
    readLine (nodePieces node) = some (.node (word node.id)) := by
  have hword := isWord_word node.id
  unfold nodePieces
  rw [List.append_assoc]
  cases node.kind with
  | module => exact readLine_indented hword rfl
  | entity => exact readLine_indented hword rfl

/-- What is left behind a label is the end of an arrow. -/
theorem readEnd_word (h : IsWord target) : readEnd (signs " " ++ target.map .sign) = some target := by
  have hspan : spanWord (target.map .sign) = (target, []) := by
    have happend : spanWord (target.map .sign ++ []) = (target, []) := spanWord_append h rfl
    rwa [List.append_nil] at happend
  show (if (spanWord (target.map .sign)).2 = [] then some (spanWord (target.map .sign)).1 else none) = _
  rw [hspan]
  exact if_pos rfl

/-- An arrow is read to its end whatever its label says, for a label is one piece. -/
theorem readTarget_word (h : IsWord target) (edge : FlowEdge) :
    readTarget (arrowLabel edge ++ (signs " " ++ target.map .sign)) = some target := by
  have hend := readEnd_word h
  unfold arrowLabel
  split
  · exact hend
  · exact hend

/-- An arrow is read after the identifier where it starts. -/
theorem readAfter_arrow {rest : List Piece} (h : readTarget rest = some target)
    (flowType : Tag FlowType) (source : List Char) :
    readAfter source (signs (" " ++ arrow flowType) ++ rest) = some (.arrow source target) := by
  have hnode : readNode source (signs (" " ++ arrow flowType) ++ rest) = none := by
    unfold arrow
    split <;> rfl
  have hfound : ([" <-->", " -.->", " -->"].findSome? fun text =>
      (signs text).isPrefixOf? (signs (" " ++ arrow flowType) ++ rest)) = some rest := by
    unfold arrow
    split <;> rfl
  have harrow : readArrow source (signs (" " ++ arrow flowType) ++ rest) =
      some (.arrow source target) := by
    unfold readArrow
    rw [hfound, Option.bind_eq_bind, Option.bind_some, h]
    rfl
  unfold readAfter
  rw [hnode, harrow]
  rfl

/-- The line of an arrow joins the identifiers of its ends. -/
theorem readLine_edgePieces (edge : FlowEdge) :
    readLine (edgePieces edge) = some (.arrow (word edge.source) (word edge.target)) := by
  have hafter := readAfter_arrow (readTarget_word (isWord_word edge.target) edge) edge.flowType
    (word edge.source)
  have hpieces : edgePieces edge = signs "    " ++ ((word edge.source).map .sign ++
      (signs (" " ++ arrow edge.flowType) ++
        (arrowLabel edge ++ (signs " " ++ (word edge.target).map .sign)))) := by
    unfold edgePieces
    simp only [List.append_assoc]
  rw [hpieces, readLine_indented (isWord_word edge.source) ?_, hafter]
  unfold arrow
  split <;> rfl

/-- What begins with an identifier is no arrow. -/
theorem no_arrow {c : Char} (hc : isWordChar c = true) (rest : List Piece) :
    ([" <-->", " -.->", " -->"].findSome? fun text =>
      (signs text).isPrefixOf? (.sign ' ' :: .sign c :: rest)) = none := by
  have hleft : '<' ≠ c := by
    rintro rfl
    exact absurd hc (by decide)
  have hdash : '-' ≠ c := by
    rintro rfl
    exact absurd hc (by decide)
  simp [signs, List.isPrefixOf?, hleft, hdash]

theorem readAfter_style (h : IsWord name) (level : ImpactLevel) :
    readAfter "style".toList (.sign ' ' :: (name.map .sign ++ signs (" " ++ style level))) =
      some (.style name level) := by
  have hspan : spanWord (name.map .sign ++ signs (" " ++ style level)) =
      (name, signs (" " ++ style level)) := spanWord_append h (by cases level <;> rfl)
  have hstyle : readStyle "style".toList
      (.sign ' ' :: (name.map .sign ++ signs (" " ++ style level))) = some (.style name level) := by
    show (if "style".toList = "style".toList then readColour _ else none) = _
    unfold readColour
    rw [if_pos rfl, hspan]
    cases level <;> rfl
  have harrow : readArrow "style".toList
      (.sign ' ' :: (name.map .sign ++ signs (" " ++ style level))) = none := by
    unfold readArrow
    -- an empty identifier is followed by the blank before the colour, any other begins with no arrow
    cases name with
    | nil => cases level <;> rfl
    | cons c name =>
      rw [List.map_cons, List.cons_append, no_arrow (h c (List.mem_cons_self ..))]
      rfl
  unfold readAfter
  rw [harrow, hstyle]
  rfl

/-- A line of style colours the identifier in it. -/
theorem readLine_stylePieces (h : IsWord name) (level : ImpactLevel) :
    readLine (stylePieces (name, level)) = some (.style name level) := by
  have hkeyword : signs "    style " = signs "    " ++ ("style".toList.map .sign ++ [.sign ' ']) := by
    decide
  have hpieces : stylePieces (name, level) = signs "    " ++ ("style".toList.map .sign ++
      .sign ' ' :: (name.map .sign ++ signs (" " ++ style level))) := by
    unfold stylePieces
    rw [hkeyword]
    simp only [List.append_assoc, List.cons_append, List.nil_append]
  have hstyle : IsWord "style".toList := List.all_eq_true.mp (by decide)
  rw [hpieces, readLine_indented hstyle rfl, readAfter_style h]

end Lines

/-! ## Reading a code -/

section Codes

/-- The piece stands on one line, and is found again. -/
def isInline : Piece → Bool
  | .sign c => c ≠ '"' ∧ c ≠ '\n'
  | .text chars => '"' ∉ chars

/-- A piece on one line reads back. -/
theorem keeps_of_isInline {piece : Piece} (h : isInline piece = true) : Quoting.plain.Keeps piece := by
  cases piece with
  | sign c =>
    have hmark : c ≠ '"' := (of_decide_eq_true h).1
    exact hmark
  | text chars =>
    have hmark : '"' ∉ chars := of_decide_eq_true h
    exact hmark

theorem isInline_signs {text : String} (h : (signs text).all isInline = true) :
    ∀ piece ∈ signs text, isInline piece = true := List.all_eq_true.mp h

theorem isInline_word (id : Name) : ∀ piece ∈ (word id).map .sign, isInline piece = true := by
  refine List.forall_mem_map.mpr fun c hc => ?_
  have hword := isWord_word id c hc
  refine decide_eq_true ⟨?_, ?_⟩
  · rintro rfl
    exact absurd hword (by decide)
  · rintro rfl
    exact absurd hword (by decide)

theorem isInline_label (text : Name) : ∀ piece ∈ [labelPiece text], isInline piece = true := by
  refine List.forall_mem_singleton.mpr (decide_eq_true ?_)
  unfold label Text.replaceChar
  rw [String.toList_ofList, List.mem_flatMap]
  rintro ⟨c, -, hmark⟩
  split at hmark
  next => exact absurd hmark (by decide)
  next hc => exact hc (by rw [List.mem_singleton.mp hmark]; exact beq_self_eq_true c)

/-- No piece of a flowchart contains a line break. -/
theorem isInline_rows (graph : FlowGraph) :
    ∀ row ∈ rows graph, ∀ piece ∈ row, isInline piece = true := by
  -- a row is made of fixed signs, an identifier and perhaps a label, none of which has a line break
  have hnodes : ∀ node ∈ graph.nodes, ∀ piece ∈ nodePieces node, isInline piece = true := by
    intro node _
    have hlabel := isInline_label node.label
    unfold nodePieces
    refine List.forall_mem_append.mpr
      ⟨List.forall_mem_append.mpr ⟨isInline_signs (by decide), isInline_word _⟩, ?_⟩
    cases node.kind <;> simp only [List.forall_mem_append] <;>
      exact ⟨⟨isInline_signs (by decide), hlabel⟩, isInline_signs (by decide)⟩
  have hedges : ∀ edge ∈ graph.edges, ∀ piece ∈ edgePieces edge, isInline piece = true := by
    intro edge _
    have harrow : ∀ piece ∈ signs (" " ++ arrow edge.flowType), isInline piece = true := by
      refine isInline_signs ?_
      unfold arrow
      split <;> decide
    have hlabel : ∀ piece ∈ arrowLabel edge, isInline piece = true := by
      unfold arrowLabel
      split
      · simp only [List.forall_mem_append]
        exact ⟨⟨isInline_signs (by decide), isInline_label _⟩, isInline_signs (by decide)⟩
      · exact fun piece hpiece => nomatch hpiece
    unfold edgePieces
    simp only [List.forall_mem_append]
    exact ⟨⟨⟨⟨⟨isInline_signs (by decide), isInline_word _⟩, harrow⟩, hlabel⟩,
      isInline_signs (by decide)⟩, isInline_word _⟩
  have hstyles : ∀ mark ∈ Drawing.stylesOf graph, ∀ piece ∈ stylePieces mark,
      isInline piece = true := by
    intro mark hmark
    obtain ⟨node, -, hmark⟩ := List.mem_filterMap.mp hmark
    obtain ⟨level, -, rfl⟩ := Option.map_eq_some_iff.mp hmark
    have hstyle : ∀ piece ∈ signs (" " ++ style level), isInline piece = true := by
      refine isInline_signs ?_
      cases level <;> decide
    unfold stylePieces
    simp only [List.forall_mem_append]
    exact ⟨⟨isInline_signs (by decide), isInline_word _⟩, hstyle⟩
  unfold rows
  simp only [List.forall_mem_append, List.forall_mem_map]
  exact ⟨⟨hnodes, hedges⟩, hstyles⟩

/-- The lines of a flowchart. -/
def lines (graph : FlowGraph) : List Line :=
  (graph.nodes.map fun node => .node (word node.id)) ++
    (graph.edges.map fun edge => .arrow (word edge.source) (word edge.target)) ++
    (Drawing.stylesOf graph).map fun mark => .style mark.1 mark.2

/-- Line by line, a flowchart is read as what it draws. -/
theorem mapM_readLine (graph : FlowGraph) : (rows graph).mapM readLine = some (lines graph) := by
  have hnodes := mapM_map_eq fun node (_ : node ∈ graph.nodes) => readLine_nodePieces node
  have hedges := mapM_map_eq fun edge (_ : edge ∈ graph.edges) => readLine_edgePieces edge
  refine mapM_append_eq (mapM_append_eq hnodes hedges) (mapM_map_eq fun mark hmark => ?_)
  obtain ⟨node, -, hmark⟩ := List.mem_filterMap.mp hmark
  obtain ⟨level, -, rfl⟩ := Option.map_eq_some_iff.mp hmark
  exact readLine_stylePieces (isWord_word node.id) level

/-- What the lines draw together is the drawing of the graph. -/
theorem ofLines_lines (graph : FlowGraph) : Drawing.ofLines (lines graph) = .ofGraph graph := by
  unfold Drawing.ofLines Drawing.ofGraph lines
  simp [List.filterMap_append, List.filterMap_map, Function.comp_def, Line.node?, Line.arrow?,
    Line.style?]

/-- Behind the title come the lines of the graph. -/
theorem afterTitle_code (graph : FlowGraph) {title : Name} (htitle : '\n' ∉ title.display.toList) :
    afterTitle? (flowchart graph title).code.toList =
      some (((rows graph).flatMap fun row => .sign '\n' :: row).flatMap (Piece.write .plain)) := by
  have hfirst : ∀ c ∈ "flowchart TD".toList, decide (c ≠ '\n') = true :=
    List.all_eq_true.mp (by decide)
  have hsecond : ∀ c ∈ "    %% ".toList ++ title.display.toList, decide (c ≠ '\n') = true := by
    refine List.forall_mem_append.mpr ⟨List.all_eq_true.mp (by decide), fun c hc => decide_eq_true ?_⟩
    rintro rfl
    exact htitle hc
  have hrest : (((rows graph).flatMap fun row => .sign '\n' :: row).flatMap
      (Piece.write .plain)).dropWhile (· ≠ '\n') =
        ((rows graph).flatMap fun row => .sign '\n' :: row).flatMap (Piece.write .plain) := by
    cases rows graph with
    | nil => rfl
    | cons row rest => rfl
  rw [code_toList]
  unfold afterTitle?
  rw [List.takeWhile_append_of_pos hfirst, List.dropWhile_append_of_pos hfirst,
    List.takeWhile_cons_of_neg (by decide), List.dropWhile_cons_of_neg (by decide), List.append_nil,
    List.drop_one, List.tail_cons, List.append_assoc,
    if_pos ⟨rfl, List.prefix_append ..⟩, ← List.append_assoc, List.dropWhile_append_of_pos hsecond,
    hrest]

/-- **What was drawn is read.** -/
theorem read_flowchart (graph : FlowGraph) {title : Name} (htitle : '\n' ∉ title.display.toList) :
    read (flowchart graph title).code = some (.ofGraph graph) := by
  have hinline := isInline_rows graph
  have hkeeps : ∀ piece ∈ (rows graph).flatMap fun row => .sign '\n' :: row,
      Quoting.plain.Keeps piece := by
    intro piece hpiece
    obtain ⟨row, hrow, hpiece⟩ := List.mem_flatMap.mp hpiece
    rcases List.mem_cons.mp hpiece with rfl | hpiece
    · show '\n' ≠ '"'
      decide
    · exact keeps_of_isInline (hinline row hrow piece hpiece)
  have hbreaks : ∀ row ∈ rows graph, .sign '\n' ∉ row := by
    intro row hrow hbreak
    have hno := hinline row hrow _ hbreak
    cases hno
  unfold read
  rw [afterTitle_code graph htitle, Option.bind_eq_bind, Option.bind_some, scan_pieces hkeeps,
    Option.bind_eq_bind, Option.bind_some, splitOn_flatMap_cons hbreaks, List.tail_cons, mapM_readLine,
    Option.bind_eq_bind, Option.bind_some, ofLines_lines]
  rfl

end Codes

/-! ## What a drawing shows -/

section Showing

-- identifiers are compared by `word_eq_iff`, never by how they are written
attribute [local irreducible] word

variable {graph : FlowGraph}

/-- A node is coloured if it is affected, by its level. -/
theorem colourLevel_eq_some {node : FlowNode} {level : ImpactLevel} : colourLevel? node = some level ↔
    node.isAffected = true ∧ node.level = some (.known level) := by
  unfold colourLevel?
  split
  next haffected =>
    rw [Option.bind_eq_some_iff]
    constructor
    · intro h
      obtain ⟨tag, htag, hlevel⟩ := h
      cases tag with
      | known other =>
        cases hlevel
        exact ⟨haffected, htag⟩
      | other value => cases hlevel
    · exact fun h => ⟨_, h.2, rfl⟩
  next hfree => exact ⟨nofun, fun h => absurd h.1 hfree⟩

/-- The colours are those of the affected nodes. -/
theorem mem_stylesOf {mark : List Char × ImpactLevel} : mark ∈ Drawing.stylesOf graph ↔
    ∃ node ∈ graph.nodes, word node.id = mark.1 ∧ node.isAffected = true ∧
      node.level = some (.known mark.2) := by
  unfold Drawing.stylesOf
  rw [List.mem_filterMap]
  refine exists_congr fun node => and_congr_right fun _ => ?_
  rw [Option.map_eq_some_iff]
  constructor
  · intro h
    obtain ⟨level, hlevel, rfl⟩ := h
    exact ⟨rfl, colourLevel_eq_some.mp hlevel⟩
  · intro h
    obtain ⟨hword, hlevel⟩ := h
    exact ⟨mark.2, colourLevel_eq_some.mpr hlevel, by rw [hword]⟩

/-- No two nodes are drawn as one if and only if identifiers are. -/
theorem nodup_nodes_iff (h : graph.IsJoined) : (Drawing.ofGraph graph).nodes.Nodup ↔
    ∀ a ∈ graph.nodes, ∀ b ∈ graph.nodes, word a.id = word b.id → a = b :=
  List.nodup_map_iff_inj_on (List.Nodup.of_map FlowNode.id h.distinct)

/-- The identifiers are distinct exactly if no two ids are alike. -/
theorem nodup_nodes_iff_alike (h : graph.IsJoined) : (Drawing.ofGraph graph).nodes.Nodup ↔
    ∀ a ∈ graph.nodes.map FlowNode.id, ∀ b ∈ graph.nodes.map FlowNode.id, Alike a b → a = b := by
  rw [nodup_nodes_iff h]
  simp only [List.forall_mem_map, word_eq_iff]
  constructor
  · exact fun happart a ha b hb halike => congrArg FlowNode.id (happart a ha b hb halike)
  · exact fun happart a ha b hb halike =>
      List.inj_on_of_nodup_map h.distinct ha hb (happart a ha b hb halike)

/-- Identifiers are those of nodes, for arrows end at nodes. -/
theorem word_mem_of_mem_words (h : graph.IsJoined) {name : List Char}
    (hname : name ∈ (Drawing.ofGraph graph).words) : ∃ node ∈ graph.nodes, word node.id = name := by
  have hend : ∀ id ∈ graph.nodes.map FlowNode.id, ∃ node ∈ graph.nodes, word node.id = word id := by
    intro id hid
    obtain ⟨node, hnode, rfl⟩ := List.mem_map.mp hid
    exact ⟨node, hnode, rfl⟩
  rcases List.mem_append.mp hname with hdeclared | hjoined
  · exact List.mem_map.mp hdeclared
  · obtain ⟨arrow, harrow, hname⟩ := List.mem_flatMap.mp hjoined
    obtain ⟨edge, hedge, rfl⟩ := List.mem_map.mp harrow
    obtain ⟨hsource, htarget⟩ := h.ends edge hedge
    rcases List.mem_cons.mp hname with rfl | hname
    · exact hend _ hsource
    · obtain rfl := List.mem_singleton.mp hname
      exact hend _ htarget

/-- **A drawing with distinct identifiers shows its graph.** -/
theorem shows_of_nodup (h : graph.IsJoined) (hdistinct : (Drawing.ofGraph graph).nodes.Nodup) :
    (Drawing.ofGraph graph).Shows graph := by
  have hinj := (nodup_nodes_iff h).mp hdistinct
  refine ⟨hdistinct, fun node hnode => List.mem_map_of_mem hnode, fun name hname => ?_,
    fun source hsource target htarget => ?_, fun mark hmark => ?_, fun node hnode level haffected hlevel => ?_⟩
  · obtain ⟨node, hnode, rfl⟩ := word_mem_of_mem_words h hname
    exact ⟨node, ⟨hnode, rfl⟩, fun other hother => hinj other hother.1 node hnode hother.2⟩
  · -- an edge ends at nodes, which their identifiers tell apart
    have hid : ∀ id ∈ graph.nodes.map FlowNode.id, ∀ node ∈ graph.nodes,
        word id = word node.id ↔ id = node.id := by
      intro id hid node hnode
      obtain ⟨other, hother, rfl⟩ := List.mem_map.mp hid
      exact ⟨fun heq => congrArg FlowNode.id (hinj other hother node hnode heq), congrArg word⟩
    show List.count _ (graph.edges.map _) = _
    rw [List.count_eq_countP, List.countP_map]
    refine List.countP_congr fun edge hedge => ?_
    obtain ⟨hends, hendt⟩ := h.ends edge hedge
    simp only [Function.comp_apply, beq_iff_eq, Prod.mk.injEq, decide_eq_true_eq,
      hid _ hends source hsource, hid _ hendt target htarget]
  · obtain ⟨node, hnode, hmark⟩ := mem_stylesOf.mp hmark
    refine ⟨node, ⟨hnode, hmark⟩, fun other hother => ?_⟩
    exact hinj other hother.1 node hnode (hother.2.1.trans hmark.1.symm)
  · have hmem : (word node.id, level) ∈ Drawing.stylesOf graph :=
      mem_stylesOf.mpr ⟨node, hnode, rfl, haffected, hlevel⟩
    -- the identifiers that are coloured are among those that are declared, in their order
    have honce : ((Drawing.stylesOf graph).map Prod.fst).Nodup := by
      have hwords := List.pairwise_map.mp hdistinct
      refine List.pairwise_map.mpr (List.pairwise_filterMap.mpr (hwords.imp fun hne => ?_))
      intro mark hmark other hother heq
      obtain ⟨level, -, rfl⟩ := Option.map_eq_some_iff.mp hmark
      obtain ⟨level, -, rfl⟩ := Option.map_eq_some_iff.mp hother
      exact hne heq
    exact ⟨hmem, List.count_eq_one_of_mem honce (List.mem_map_of_mem hmem)⟩

end Showing

/-- **The flowchart of some flows shows their graph** exactly if no two ids that they join are alike. -/
theorem flowchart_shows {flows : List ImpactFlow} (hflows : ∀ flow ∈ flows, flow.JoinsTexts)
    (scope : Scope) {title : Name} (htitle : '\n' ∉ title.display.toList) :
    let graph := FlowGraph.ofFlows flows scope
    read (flowchart graph title).code = some (.ofGraph graph) ∧
      ((Drawing.ofGraph graph).nodes.Nodup ↔
        ∀ a b, (∃ flow ∈ flows, flow.Joins a) → (∃ flow ∈ flows, flow.Joins b) → Alike a b → a = b) ∧
      ((Drawing.ofGraph graph).Shows graph ↔ (Drawing.ofGraph graph).nodes.Nodup) := by
  intro graph
  have hjoined : graph.IsJoined := FlowGraph.ofFlows_isJoined hflows scope
  refine ⟨read_flowchart graph htitle, ?_, fun h => h.distinct, shows_of_nodup hjoined⟩
  rw [nodup_nodes_iff_alike hjoined]
  have hmem := FlowGraph.mem_nodes_iff hflows scope
  constructor
  · exact fun happart a b ha hb => happart a ((hmem a).mpr ha) b ((hmem b).mpr hb)
  · exact fun happart a ha b hb => happart a b ((hmem a).mp ha) ((hmem b).mp hb)

/-- A flow from one module to another. -/
def handoff (source target : String) : ImpactFlow :=
  ⟨.str "f", .str source, .str target, [], .known .write, .known .critical, [.str "writes"],
    .known .direct, [], false, []⟩

/-- The flow of the example below joins texts. -/
theorem handoff_joinsTexts (source target : String) :
    ∀ flow ∈ [handoff source target], flow.JoinsTexts := by
  refine List.forall_mem_singleton.mpr fun id hid => ?_
  rcases hid with rfl | rfl | hid
  · exact Json.isText_str source
  · exact Json.isText_str target
  · cases hid

/-- A change of one module. -/
def changeOf (id : String) : Scope := ⟨[.str id], [], [], [], [], 0⟩

theorem flowchart_shows_handoff :
    (∀ flow ∈ [handoff "orders" "user-profile"], flow.JoinsTexts) ∧
      '\n' ∉ flowchartTitle.display.toList ∧
      read (flowchart (.ofFlows [handoff "orders" "user-profile"] (changeOf "orders"))
        flowchartTitle).code =
        some ⟨["orders".toList, "user_profile".toList], [("orders".toList, "user_profile".toList)],
          [("orders".toList, .direct)]⟩ ∧
      (Drawing.ofGraph (.ofFlows [handoff "orders" "user-profile"] (changeOf "orders"))).Shows
        (.ofFlows [handoff "orders" "user-profile"] (changeOf "orders")) := by
  have htexts := handoff_joinsTexts "orders" "user-profile"
  have htitle : '\n' ∉ flowchartTitle.display.toList := by decide
  have hshows := flowchart_shows htexts (changeOf "orders") htitle
  exact ⟨htexts, htitle, hshows.1.trans (by decide +kernel), hshows.2.2.mpr (by decide +kernel)⟩

/-- Two nodes that are drawn as one: the arrow between them joins the one to itself, and the colour of the
first is that of both. -/
theorem flowchart_merges :
    (∀ flow ∈ [handoff "a-b" "a_b"], flow.JoinsTexts) ∧
      ((FlowGraph.ofFlows [handoff "a-b" "a_b"] (changeOf "a-b")).nodes.map fun node =>
        (node.id, node.isAffected)) = [(.str "a-b", true), (.str "a_b", false)] ∧
      read (flowchart (.ofFlows [handoff "a-b" "a_b"] (changeOf "a-b")) flowchartTitle).code =
        some ⟨["a_b".toList, "a_b".toList], [("a_b".toList, "a_b".toList)],
          [("a_b".toList, .direct)]⟩ ∧
      ¬ (Drawing.ofGraph (.ofFlows [handoff "a-b" "a_b"] (changeOf "a-b"))).nodes.Nodup ∧
      ¬ (Drawing.ofGraph (.ofFlows [handoff "a-b" "a_b"] (changeOf "a-b"))).Shows
        (.ofFlows [handoff "a-b" "a_b"] (changeOf "a-b")) := by
  have htwice : ¬ (Drawing.ofGraph (.ofFlows [handoff "a-b" "a_b"] (changeOf "a-b"))).nodes.Nodup := by
    decide +kernel
  refine ⟨handoff_joinsTexts "a-b" "a_b", by decide +kernel, ?_, htwice, fun h => htwice h.distinct⟩
  rw [read_flowchart _ (by decide)]
  decide +kernel

end ChangeImpact.MermaidDiagram
