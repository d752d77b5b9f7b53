import ChangeImpact.Diagram.Dot
import ChangeImpact.Proofs.Diagram.Quoting
import ChangeImpact.Proofs.Flow.Graph

/-!
# Reading graphs in the DOT language

What a graph in the DOT language says is read from its text: pieces first, then statements, and from
these the nodes and edges, one after the other (`read`). A node that is declared again gets its new label,
and the ends of an edge that are not declared become nodes under their ids.

> `read_text`: the text of a graph says what the graph is (`outline`) exactly if no id and no label of it
> ends in a backslash, where a backslash escapes nothing but quotation marks; where two backslashes are
> read together, it does at least if no backslash stands before another one or before a quotation mark.

The last backslash of an id escapes the quotation mark that was to close it, so that nothing can be read
behind it, whatever two backslashes are read as (`read_trailing`).
-/

namespace ChangeImpact.Dot

open Diagram Piece

/-! ## Outlines -/

/-- What a text says of a graph: the nodes with their ids and labels, and the edges with their ends and
labels. -/
structure Outline where
  nodes : List (List Char × List Char)
  edges : List (List Char × List Char × List Char)
deriving DecidableEq

namespace Outline

/-- The outline with a declared node. -/
def withNode (outline : Outline) (id label : List Char) : Outline :=
  if id ∈ outline.nodes.map Prod.fst then
    { outline with nodes := outline.nodes.map fun node => if node.1 = id then (id, label) else node }
  else { outline with nodes := outline.nodes ++ [(id, label)] }

/-- The outline with an end of an edge, which has its id for a label if it is not declared. -/
def withEnd (outline : Outline) (id : List Char) : Outline :=
  if id ∈ outline.nodes.map Prod.fst then outline else outline.withNode id id

/-- The outline with an edge. -/
def withEdge (outline : Outline) (source target label : List Char) : Outline :=
  let ended := (outline.withEnd source).withEnd target
  { ended with edges := ended.edges ++ [(source, target, label)] }

/-- All ids and labels of the outline are of one sort. -/
structure Consists (outline : Outline) (p : List Char → Prop) : Prop where
  nodes : ∀ node ∈ outline.nodes, p node.1 ∧ p node.2
  edges : ∀ edge ∈ outline.edges, p edge.1 ∧ p edge.2.1 ∧ p edge.2.2

/-- What every text of an outline has, it has in any weaker form. -/
theorem Consists.imp {outline : Outline} {p q : List Char → Prop} (h : outline.Consists p)
    (hpq : ∀ chars, p chars → q chars) : outline.Consists q :=
  ⟨fun node hnode => (h.nodes node hnode).imp (hpq _) (hpq _),
    fun edge hedge => (h.edges edge hedge).imp (hpq _) (And.imp (hpq _) (hpq _))⟩

end Outline

/-- The characters of a name. -/
def chars (name : Name) : List Char := name.display.toList

/-- The outline of a graph. -/
def outline (graph : FlowGraph) : Outline where
  nodes := graph.nodes.map fun node => (chars node.id, chars node.label)
  edges := graph.edges.map fun edge => (chars edge.source, chars edge.target, chars edge.label)

/-! ## Reading -/

/-- A statement of a graph. -/
inductive Statement where
  | setting
  | node (id label : List Char)
  | edge (source target label : List Char)

/-- The outline with what a statement says. -/
def Statement.apply (outline : Outline) : Statement → Outline
  | .setting => outline
  | .node id label => outline.withNode id label
  | .edge source target label => outline.withEdge source target label

/-- The attributes in a list that ends in a bracket. -/
def readAttributes (pieces : List Piece) : Option (List (List Piece)) :=
  if pieces.getLast? = some (.sign ']') then some (pieces.dropLast.splitOn (.sign ',')) else none

/-- The label that an attribute gives, if it is one. -/
def labelIn? (part : List Piece) : Option (List Char) :=
  match part.getLast? with
  | some (.text label) => if part.dropLast = signs "label=" then some label else none
  | _ => none

/-- The label among some attributes, or another one. -/
def labelOr (fallback : List Char) (parts : List (List Piece)) : List Char :=
  (parts.findSome? labelIn?).getD fallback

/-- The statement that some pieces make. -/
def readStatement : List Piece → Option Statement
  | .text id :: .sign '[' :: rest =>
    (readAttributes rest).map fun parts => .node id (labelOr id parts)
  | .text source :: .sign '-' :: .sign '>' :: .text target :: .sign '[' :: rest =>
    (readAttributes rest).map fun parts => .edge source target (labelOr [] parts)
  | pieces => if pieces = [] ∨ pieces = signs "rankdir=LR" then some .setting else none

/-- Whether a piece is not a blank between others. -/
def isSolid (piece : Piece) : Bool := piece ≠ .sign ' ' ∧ piece ≠ .sign '\n'

/-- What a graph begins with, without blanks. -/
def header : List Piece := signs "digraphDataFlowImpact\x7b"

/-- What stands between the braces of a graph. -/
def body? (pieces : List Piece) : Option (List Piece) :=
  if header <+: pieces ∧ pieces.getLast? = some (.sign '\x7d') then
    some (pieces.drop header.length).dropLast
  else none

/-- The outline of the graph that a text writes. -/
def read (quoting : Quoting) (text : String) : Option Outline := do
  let pieces ← scan quoting .outside text.toList
  let body ← body? (pieces.filter isSolid)
  let statements ← (body.splitOn (.sign ';')).mapM readStatement
  return statements.foldl Statement.apply ⟨[], []⟩

/-! ## The pieces of a text -/

/-- The pieces of a label among attributes. -/
def labelPart (label : List Char) : List Piece := signs "label=" ++ [.text label]

/-- The pieces of a node's other attributes. -/
def nodeParts (node : FlowNode) : List (List Piece) :=
  signs (if node.kind = .module then "shape=box" else "shape=ellipse") ::
    match MermaidDiagram.colourLevel? node with
    | some level => [signs "style=filled", signs "fillcolor=" ++ [.text (fill level).toList]]
    | none => []

/-- The pieces of an edge's other attributes. -/
def edgeParts (edge : FlowEdge) : List (List Piece) :=
  (if edge.flowType = .known .write then [signs "style=dashed"]
    else if edge.flowType = .known .bidirectional then [signs "dir=both"]
    else []) ++
  if edge.strength = .known .critical then [signs "penwidth=2"] else []

/-- The pieces of a node's line. -/
def nodePieces (node : FlowNode) : List Piece :=
  signs "  " ++ [.text (chars node.id)] ++ signs " [" ++
    (signs ", ").intercalate (labelPart (chars node.label) :: nodeParts node) ++ signs "];"

/-- The pieces of an edge's line. -/
def edgePieces (edge : FlowEdge) : List Piece :=
  signs "  " ++ [.text (chars edge.source)] ++ signs " -> " ++ [.text (chars edge.target)] ++
    signs " [" ++ (signs ", ").intercalate (labelPart (chars edge.label) :: edgeParts edge) ++ signs "];"

/-- The pieces of a graph's text. -/
def pieces (graph : FlowGraph) : List Piece :=
  (signs "\n").intercalate ([signs "digraph DataFlowImpact \x7b", signs "  rankdir=LR;"] ++
    graph.nodes.map nodePieces ++ graph.edges.map edgePieces ++ [signs "\x7d"])

section Writing

variable (pair : Option (List Char))

theorem write_text (name : Name) : Piece.write (.escaped pair) (.text (chars name)) =
    ("\"" ++ quotedText name ++ "\"").toList := by
  unfold quotedText
  simp only [String.toList_append, String.toList_ofList]
  rfl

theorem write_fill (level : ImpactLevel) : Piece.write (.escaped pair) (.text (fill level).toList) =
    ("\"" ++ fill level ++ "\"").toList := by
  cases level <;> rfl

/-- The attributes of a node, printed from their pieces. -/
theorem nodeAttributes_toList (node : FlowNode) : (Fault.listed (nodeAttributes node)).toList =
    ((signs ", ").intercalate (labelPart (chars node.label) :: nodeParts node)).flatMap
      (Piece.write (.escaped pair)) := by
  rw [flatMap_intercalate, flatMap_write_signs]
  unfold Fault.listed nodeAttributes nodeParts labelPart
  rw [String.toList_intercalate]
  cases MermaidDiagram.colourLevel? node with
  | none => simp [flatMap_write_signs, write_text, List.intercalate_cons_cons]
  | some level => simp [flatMap_write_signs, write_text, write_fill, List.intercalate_cons_cons]

/-- Those of an edge. -/
theorem edgeAttributes_toList (edge : FlowEdge) : (Fault.listed (edgeAttributes edge)).toList =
    ((signs ", ").intercalate (labelPart (chars edge.label) :: edgeParts edge)).flatMap
      (Piece.write (.escaped pair)) := by
  rw [flatMap_intercalate, flatMap_write_signs]
  unfold Fault.listed edgeAttributes edgeParts labelPart
  rw [String.toList_intercalate]
  have htype : ((if edge.flowType = .known .write then ["style=dashed"]
      else if edge.flowType = .known .bidirectional then ["dir=both"] else []).map String.toList) =
      (if edge.flowType = .known .write then [signs "style=dashed"]
        else if edge.flowType = .known .bidirectional then [signs "dir=both"]
        else []).map (List.flatMap (Piece.write (.escaped pair))) := by
    split
    · rfl
    · split <;> rfl
  have hstrength : ((if edge.strength = .known .critical then ["penwidth=2"] else []).map
      String.toList) = (if edge.strength = .known .critical then [signs "penwidth=2"] else []).map
        (List.flatMap (Piece.write (.escaped pair))) := by
    split <;> rfl
  simp [flatMap_write_signs, write_text, htype, hstrength]

/-- The line of a node, printed from its pieces. -/
theorem nodeLine_toList (node : FlowNode) :
    (nodeLine node).toList = (nodePieces node).flatMap (Piece.write (.escaped pair)) := by
  unfold nodePieces nodeLine
  simp [flatMap_write_signs, write_text, ← nodeAttributes_toList]

/-- The line of an edge. -/
theorem edgeLine_toList (edge : FlowEdge) :
    (edgeLine edge).toList = (edgePieces edge).flatMap (Piece.write (.escaped pair)) := by
  unfold edgePieces edgeLine
  simp [flatMap_write_signs, write_text, ← edgeAttributes_toList]

/-- A text is what its pieces are written as. -/
theorem text_toList (graph : FlowGraph) :
    (text graph).toList = (pieces graph).flatMap (Piece.write (.escaped pair)) := by
  unfold text pieces MermaidDiagram.joinLines
  rw [String.toList_intercalate, flatMap_intercalate, flatMap_write_signs]
  simp [flatMap_write_signs, nodeLine_toList pair, edgeLine_toList pair, Function.comp_def]

end Writing

/-! ## Attributes -/

/-- The piece does not separate others. -/
def isWord : Piece → Bool
  | .sign c => c ∉ [' ', '\n', ',', ';']
  | .text _ => true

/-- The piece survives any quoting. -/
def isTame : Piece → Bool
  | .sign c => c ≠ '"'
  | .text chars => '\\' ∉ chars

/-- Words are not left out as blanks. -/
theorem isSolid_of_isWord {piece : Piece} (h : isWord piece = true) : isSolid piece = true := by
  cases piece with
  | text chars => rfl
  | sign c =>
    simp only [isWord, List.mem_cons, decide_eq_true_eq, not_or] at h
    simp [isSolid, h]

/-- A tame piece reads back whatever pairs are escaped. -/
theorem keeps_of_isTame {pair : Option (List Char)} {piece : Piece} (h : isTame piece = true) :
    (Quoting.escaped pair).Keeps piece := by
  cases piece with
  | sign c =>
    have hmark : c ≠ '"' := of_decide_eq_true h
    exact hmark
  | text chars =>
    have hback : '\\' ∉ chars := of_decide_eq_true h
    have hpair : ∀ d, ¬ ['\\', d] <:+: chars := fun d hin =>
      hback (hin.subset (List.mem_cons_self ..))
    exact ⟨fun hlast => hback (List.mem_of_getLast? hlast), Or.inr ⟨hpair _, hpair _⟩⟩

/-- The attributes are words that survive any quoting. -/
def AreTame (parts : List (List Piece)) : Prop :=
  ∀ part ∈ parts, ∀ piece ∈ part, isWord piece = true ∧ isTame piece = true

theorem areTame_of_all {parts : List (List Piece)}
    (h : parts.all (fun part => part.all fun piece => isWord piece && isTame piece) = true) :
    AreTame parts := by
  intro part hpart piece hpiece
  have hall := List.all_eq_true.mp h part hpart
  exact Bool.and_eq_true_iff.mp (List.all_eq_true.mp hall piece hpiece)

/-- What a node has besides its label holds nothing that would have to be escaped. -/
theorem nodeParts_areTame (node : FlowNode) : AreTame (nodeParts node) := by
  refine areTame_of_all ?_
  unfold nodeParts
  cases node.kind <;> cases MermaidDiagram.colourLevel? node with
  | none => rfl
  | some level => cases level <;> decide

/-- Nor does what an edge has. -/
theorem edgeParts_areTame (edge : FlowEdge) : AreTame (edgeParts edge) := by
  refine areTame_of_all ?_
  unfold edgeParts
  split
  · split <;> decide
  · split <;> split <;> decide

/-- A label and other attributes without blanks. -/
def solidParts (label : List Char) (parts : List (List Piece)) : List Piece :=
  [.sign ','].intercalate (labelPart label :: parts)

section Attributes

variable {label : List Char} {parts : List (List Piece)}

/-- With a label in front they are still words. -/
theorem AreTame.words (h : AreTame parts) (label : List Char) :
    ∀ part ∈ labelPart label :: parts, ∀ piece ∈ part, isWord piece = true := by
  refine List.forall_mem_cons.mpr ⟨?_, fun part hpart piece hpiece => (h part hpart piece hpiece).1⟩
  refine List.forall_mem_append.mpr ⟨List.all_eq_true.mp (by decide), ?_⟩
  exact List.forall_mem_singleton.mpr rfl

/-- Without blanks the parts stand behind each other with commas in between. -/
theorem AreTame.filter (h : AreTame parts) (label : List Char) :
    ((signs ", ").intercalate (labelPart label :: parts)).filter isSolid = solidParts label parts := by
  have hkept : (labelPart label :: parts).map (List.filter isSolid) = labelPart label :: parts := by
    refine (List.map_congr_left fun part hpart => ?_).trans (List.map_id _)
    exact List.filter_eq_self.mpr fun piece hpiece =>
      isSolid_of_isWord (h.words label part hpart piece hpiece)
  rw [filter_intercalate, hkept]
  rfl

/-- No semicolon is among them, so that a statement ends where it was meant to. -/
theorem AreTame.not_mem (h : AreTame parts) (label : List Char) : .sign ';' ∉ solidParts label parts := by
  intro hmem
  refine forall_mem_intercalate (p := fun piece => piece ≠ .sign ';') ?_ ?_ _ hmem rfl
  · exact List.forall_mem_singleton.mpr (by decide)
  · intro part hpart piece hpiece heq
    have hword := h.words label part hpart piece hpiece
    rw [heq] at hword
    cases hword

/-- Attributes are read back part by part up to the bracket. -/
theorem AreTame.read (h : AreTame parts) (label : List Char) :
    readAttributes (solidParts label parts ++ [.sign ']']) = some (labelPart label :: parts) := by
  unfold readAttributes solidParts
  rw [List.getLast?_concat, if_pos rfl, List.dropLast_concat]
  refine congrArg some (List.splitOn_intercalate _ (fun part hpart hcomma => ?_) (List.cons_ne_nil _ _))
  have hword := h.words label part hpart _ hcomma
  cases hword

/-- The label in front is the one that is found. -/
theorem labelOr_labelPart (fallback : List Char) : labelOr fallback (labelPart label :: parts) = label := by
  have hlabel : labelIn? (labelPart label) = some label := by
    unfold labelIn? labelPart
    rw [List.getLast?_concat, List.dropLast_concat]
    exact if_pos rfl
  unfold labelOr
  rw [List.findSome?_cons, hlabel]
  rfl

end Attributes

/-! ## Statements -/

/-- The pieces of a node's statement. -/
def nodeRow (node : FlowNode) : List Piece :=
  .text (chars node.id) :: .sign '[' :: (solidParts (chars node.label) (nodeParts node) ++ [.sign ']'])

/-- The pieces of an edge's statement. -/
def edgeRow (edge : FlowEdge) : List Piece :=
  .text (chars edge.source) :: .sign '-' :: .sign '>' :: .text (chars edge.target) :: .sign '[' ::
    (solidParts (chars edge.label) (edgeParts edge) ++ [.sign ']'])

/-- The pieces of all statements. -/
def rows (graph : FlowGraph) : List (List Piece) :=
  signs "rankdir=LR" :: (graph.nodes.map nodeRow ++ graph.edges.map edgeRow)

/-- The statements of a graph, and what is read behind the last of them. -/
def statements (graph : FlowGraph) : List Statement :=
  .setting :: ((graph.nodes.map fun node => .node (chars node.id) (chars node.label)) ++
    (graph.edges.map fun edge => .edge (chars edge.source) (chars edge.target) (chars edge.label))) ++
    [.setting]

section Blanks

theorem filter_indent : (signs "  ").filter isSolid = [] := by decide

theorem filter_open : (signs " [").filter isSolid = [.sign '['] := by decide

theorem filter_close : (signs "];").filter isSolid = [.sign ']', .sign ';'] := by decide

theorem filter_arrow : (signs " -> ").filter isSolid = [.sign '-', .sign '>'] := by decide

theorem filter_text (chars : List Char) : [Piece.text chars].filter isSolid = [.text chars] := rfl

end Blanks

/-- Without blanks a line that declares a node is a row and a semicolon. -/
theorem filter_nodePieces (node : FlowNode) :
    (nodePieces node).filter isSolid = nodeRow node ++ [.sign ';'] := by
  unfold nodePieces nodeRow
  simp only [List.filter_append, (nodeParts_areTame node).filter, filter_indent, filter_open,
    filter_close, filter_text]
  simp

/-- So is one that draws an edge. -/
theorem filter_edgePieces (edge : FlowEdge) :
    (edgePieces edge).filter isSolid = edgeRow edge ++ [.sign ';'] := by
  unfold edgePieces edgeRow
  simp only [List.filter_append, (edgeParts_areTame edge).filter, filter_indent, filter_open,
    filter_close, filter_arrow, filter_text]
  simp

/-- Without blanks a graph is its header, the rows with their semicolons and the closing brace. -/
theorem filter_pieces (graph : FlowGraph) : (pieces graph).filter isSolid =
    header ++ ((rows graph).flatMap fun row => row ++ [.sign ';']) ++ [.sign '\x7d'] := by
  have hbreak : (signs "\n").filter isSolid = [] := by decide
  have hheader : (signs "digraph DataFlowImpact \x7b").filter isSolid = header := by decide
  have hsetting : (signs "  rankdir=LR;").filter isSolid = signs "rankdir=LR" ++ [.sign ';'] := by decide
  have hend : (signs "\x7d").filter isSolid = [.sign '\x7d'] := by decide
  unfold pieces rows
  rw [filter_intercalate, hbreak, nil_intercalate]
  simp [hheader, hsetting, hend, filter_nodePieces, filter_edgePieces, Function.comp_def,
    List.flatMap_def]

/-- What is between the braces are the rows. -/
theorem body_filter (graph : FlowGraph) : body? ((pieces graph).filter isSolid) =
    some ((rows graph).flatMap fun row => row ++ [.sign ';']) := by
  rw [filter_pieces, List.append_assoc]
  unfold body?
  rw [if_pos ⟨List.prefix_append .., by rw [← List.append_assoc, List.getLast?_concat]⟩,
    List.drop_left, List.dropLast_concat]

/-- Splitting at the semicolons gives the rows again. -/
theorem rows_splitOn (graph : FlowGraph) :
    ((rows graph).flatMap fun row => row ++ [.sign ';']).splitOn (.sign ';') = rows graph ++ [[]] := by
  refine splitOn_flatMap_concat ?_
  refine List.forall_mem_cons.mpr ⟨by decide, List.forall_mem_append.mpr ⟨?_, ?_⟩⟩
  · refine List.forall_mem_map.mpr fun node _ => ?_
    have hnot := (nodeParts_areTame node).not_mem (chars node.label)
    simp [nodeRow, hnot]
  · refine List.forall_mem_map.mpr fun edge _ => ?_
    have hnot := (edgeParts_areTame edge).not_mem (chars edge.label)
    simp [edgeRow, hnot]

/-- The row of a node is read as its declaration. -/
theorem readStatement_nodeRow (node : FlowNode) :
    readStatement (nodeRow node) = some (.node (chars node.id) (chars node.label)) := by
  show (readAttributes (_ ++ [.sign ']'])).map _ = _
  rw [(nodeParts_areTame node).read, Option.map_some, labelOr_labelPart]

/-- The row of an edge is read as that edge. -/
theorem readStatement_edgeRow (edge : FlowEdge) : readStatement (edgeRow edge) =
    some (.edge (chars edge.source) (chars edge.target) (chars edge.label)) := by
  show (readAttributes (_ ++ [.sign ']'])).map _ = _
  rw [(edgeParts_areTame edge).read, Option.map_some, labelOr_labelPart]

/-- **The statements of a graph are read.** -/
theorem mapM_rows (graph : FlowGraph) :
    (rows graph ++ [[]]).mapM readStatement = some (statements graph) := by
  have hnodes := mapM_map_eq fun node (_ : node ∈ graph.nodes) => readStatement_nodeRow node
  have hedges := mapM_map_eq fun edge (_ : edge ∈ graph.edges) => readStatement_edgeRow edge
  have hfirst : [signs "rankdir=LR"].mapM readStatement = some [.setting] := rfl
  have hlast : [[]].mapM readStatement = some [.setting] := rfl
  exact mapM_append_eq (mapM_append_eq hfirst (mapM_append_eq hnodes hedges)) hlast

/-! ## Outlines of graphs -/

section Outlines

variable {o : Outline}

/-- A node that is met for the first time is put at the end. -/
theorem withNode_new {id : List Char} (h : id ∉ o.nodes.map Prod.fst) (label : List Char) :
    o.withNode id label = { o with nodes := o.nodes ++ [(id, label)] } := if_neg h

/-- An edge between nodes that were declared adds no node. -/
theorem withEdge_known {source target : List Char} (hsource : source ∈ o.nodes.map Prod.fst)
    (htarget : target ∈ o.nodes.map Prod.fst) (label : List Char) :
    o.withEdge source target label = { o with edges := o.edges ++ [(source, target, label)] } := by
  have hends : (o.withEnd source).withEnd target = o := by
    unfold Outline.withEnd
    rw [if_pos hsource, if_pos htarget]
  unfold Outline.withEdge
  rw [hends]

/-- Nodes with new ids are added in their order. -/
theorem foldl_nodes {nodes : List FlowNode}
    (h : (o.nodes.map Prod.fst ++ nodes.map fun node => chars node.id).Nodup) :
    (nodes.map fun node => Statement.node (chars node.id) (chars node.label)).foldl
      Statement.apply o =
    { o with nodes := o.nodes ++ nodes.map fun node => (chars node.id, chars node.label) } := by
  induction nodes generalizing o with
  | nil => simp
  | cons node rest ih =>
    rw [List.map_cons, List.append_cons] at h
    have hnew : chars node.id ∉ o.nodes.map Prod.fst := by
      have hfirst := (List.nodup_append.mp h).1
      exact fun hmem => (List.nodup_append.mp hfirst).2.2 _ hmem _ (List.mem_singleton_self _) rfl
    rw [List.map_cons, List.foldl_cons]
    show List.foldl _ (o.withNode _ _) _ = _
    rw [withNode_new hnew, ih (by rwa [List.map_append])]
    simp

/-- Edges that join declared nodes are added in their order. -/
theorem foldl_edges {edges : List FlowEdge}
    (h : ∀ edge ∈ edges, chars edge.source ∈ o.nodes.map Prod.fst ∧
      chars edge.target ∈ o.nodes.map Prod.fst) :
    (edges.map fun edge => Statement.edge (chars edge.source) (chars edge.target)
      (chars edge.label)).foldl Statement.apply o =
    { o with edges := o.edges ++
        edges.map fun edge => (chars edge.source, chars edge.target, chars edge.label) } := by
  induction edges generalizing o with
  | nil => simp
  | cons edge rest ih =>
    obtain ⟨hends, hrest⟩ := List.forall_mem_cons.mp h
    rw [List.map_cons, List.foldl_cons]
    show List.foldl _ (o.withEdge _ _ _) _ = _
    rw [withEdge_known hends.1 hends.2]
    refine (ih ?_).trans ?_
    · exact hrest
    · simp

end Outlines

/-- Distinct texts have distinct characters. -/
theorem chars_inj {a b : Name} (ha : a.IsText) (hb : b.IsText) (h : chars a = chars b) : a = b := by
  obtain ⟨s, rfl⟩ := ha
  obtain ⟨t, rfl⟩ := hb
  exact congrArg Json.str (String.toList_inj.mp h)

/-- Nodes of a joined graph differ in how their ids are spelled. -/
theorem nodup_chars {graph : FlowGraph} (h : graph.IsJoined) :
    (graph.nodes.map fun node => chars node.id).Nodup := by
  have hids := List.pairwise_map.mp h.distinct
  refine List.pairwise_map.mpr (hids.imp_of_mem fun hnode hother hne heq => ?_)
  exact hne (chars_inj (h.texts _ hnode) (h.texts _ hother) heq)

/-- **The statements of a graph say what it is.** -/
theorem foldl_statements {graph : FlowGraph} (h : graph.IsJoined) :
    (statements graph).foldl Statement.apply ⟨[], []⟩ = outline graph := by
  have hends : ∀ edge ∈ graph.edges, chars edge.source ∈ (outline graph).nodes.map Prod.fst ∧
      chars edge.target ∈ (outline graph).nodes.map Prod.fst := by
    have hmem : ∀ id ∈ graph.nodes.map FlowNode.id,
        chars id ∈ (outline graph).nodes.map Prod.fst := by
      intro id hid
      obtain ⟨node, hnode, rfl⟩ := List.mem_map.mp hid
      exact List.mem_map_of_mem (List.mem_map_of_mem hnode)
    exact fun edge hedge => ⟨hmem _ (h.ends edge hedge).1, hmem _ (h.ends edge hedge).2⟩
  unfold statements
  -- neither the first statement nor what is read behind the last one changes the outline
  rw [List.foldl_append]
  show List.foldl Statement.apply ⟨[], []⟩ (_ ++ _) = _
  rw [List.foldl_append, foldl_nodes (by simpa using nodup_chars h)]
  exact foldl_edges hends

/-! ## Texts that are kept -/

section Kept

variable {pair : Option (List Char)}

theorem keeps_signs {text : String} (h : (signs text).all isTame = true) :
    ∀ piece ∈ signs text, (Quoting.escaped pair).Keeps piece := fun piece hpiece =>
  keeps_of_isTame (List.all_eq_true.mp h piece hpiece)

/-- Attributes read back if the label does. -/
theorem keeps_parts {label : List Char} {parts : List (List Piece)} (hparts : AreTame parts)
    (hlabel : (Quoting.escaped pair).Keeps (.text label)) :
    ∀ piece ∈ (signs ", ").intercalate (labelPart label :: parts),
      (Quoting.escaped pair).Keeps piece := by
  refine forall_mem_intercalate (keeps_signs (by decide)) (List.forall_mem_cons.mpr ⟨?_, ?_⟩)
  · exact List.forall_mem_append.mpr ⟨keeps_signs (by decide), List.forall_mem_singleton.mpr hlabel⟩
  · exact fun part hpart piece hpiece => keeps_of_isTame (hparts part hpart piece hpiece).2

/-- A whole graph reads back if all of its ids and labels do. -/
theorem keeps_pieces {graph : FlowGraph}
    (h : (outline graph).Consists fun chars => (Quoting.escaped pair).Keeps (.text chars)) :
    ∀ piece ∈ pieces graph, (Quoting.escaped pair).Keeps piece := by
  have hnodes : ∀ node ∈ graph.nodes, ∀ piece ∈ nodePieces node,
      (Quoting.escaped pair).Keeps piece := by
    intro node hnode
    obtain ⟨hid, hlabel⟩ := h.nodes _ (List.mem_map_of_mem hnode)
    unfold nodePieces
    simp only [List.forall_mem_append, List.forall_mem_singleton]
    exact ⟨⟨⟨⟨keeps_signs (by decide), hid⟩, keeps_signs (by decide)⟩,
      keeps_parts (nodeParts_areTame node) hlabel⟩, keeps_signs (by decide)⟩
  have hedges : ∀ edge ∈ graph.edges, ∀ piece ∈ edgePieces edge,
      (Quoting.escaped pair).Keeps piece := by
    intro edge hedge
    obtain ⟨hsource, htarget, hlabel⟩ := h.edges _ (List.mem_map_of_mem hedge)
    unfold edgePieces
    simp only [List.forall_mem_append, List.forall_mem_singleton]
    exact ⟨⟨⟨⟨⟨⟨keeps_signs (by decide), hsource⟩, keeps_signs (by decide)⟩, htarget⟩,
      keeps_signs (by decide)⟩, keeps_parts (edgeParts_areTame edge) hlabel⟩, keeps_signs (by decide)⟩
  refine forall_mem_intercalate (keeps_signs (by decide)) ?_
  simp only [List.forall_mem_append, List.forall_mem_cons, List.forall_mem_map]
  exact ⟨⟨⟨⟨keeps_signs (by decide), keeps_signs (by decide), nofun⟩, hnodes⟩, hedges⟩,
    keeps_signs (by decide), nofun⟩

end Kept

/-! ## Texts that are found -/

section Found

variable {p : List Char → Prop} {o : Outline}

/-- Declaring a node keeps what all texts of an outline have. -/
theorem Outline.Consists.withNode {id label : List Char} (h : o.Consists p) (hid : p id)
    (hlabel : p label) : (o.withNode id label).Consists p := by
  refine ⟨fun node hnode => ?_, fun edge hedge => ?_⟩
  · unfold Outline.withNode at hnode
    split at hnode
    next =>
      obtain ⟨other, hother, rfl⟩ := List.mem_map.mp hnode
      split
      next => exact ⟨hid, hlabel⟩
      next => exact h.nodes other hother
    next =>
      rcases List.mem_append.mp hnode with hold | hnew
      · exact h.nodes node hold
      · obtain rfl := List.mem_singleton.mp hnew
        exact ⟨hid, hlabel⟩
  · unfold Outline.withNode at hedge
    split at hedge
    next => exact h.edges edge hedge
    next => exact h.edges edge hedge

/-- So does naming the end of an edge. -/
theorem Outline.Consists.withEnd {id : List Char} (h : o.Consists p) (hid : p id) :
    (o.withEnd id).Consists p := by
  unfold Outline.withEnd
  split
  next => exact h
  next => exact h.withNode hid hid

/-- All texts of a statement are of one sort. -/
def Statement.Consists (p : List Char → Prop) : Statement → Prop
  | .setting => True
  | .node id label => p id ∧ p label
  | .edge source target label => p source ∧ p target ∧ p label

/-- So does any statement, if its texts have it as well. -/
theorem Outline.Consists.apply {statement : Statement} (h : o.Consists p)
    (hstatement : statement.Consists p) : (statement.apply o).Consists p := by
  cases statement with
  | setting => exact h
  | node id label => exact h.withNode hstatement.1 hstatement.2
  | edge source target label =>
    have hends := (h.withEnd hstatement.1).withEnd hstatement.2.1
    exact ⟨hends.nodes, List.forall_mem_append.mpr
      ⟨hends.edges, List.forall_mem_singleton.mpr hstatement⟩⟩

/-- And so do all statements of a graph. -/
theorem Outline.Consists.foldl {statements : List Statement} (h : o.Consists p)
    (hstatements : ∀ statement ∈ statements, statement.Consists p) :
    (statements.foldl Statement.apply o).Consists p := by
  induction statements generalizing o with
  | nil => exact h
  | cons statement rest ih =>
    obtain ⟨hfirst, hrest⟩ := List.forall_mem_cons.mp hstatements
    exact ih (h.apply hfirst) hrest

/-- A label is one of the texts that were read. -/
theorem text_mem_of_labelIn {part : List Piece} {label : List Char} (h : labelIn? part = some label) :
    .text label ∈ part := by
  unfold labelIn? at h
  split at h
  next other hlast =>
    split at h
    next =>
      cases h
      exact List.mem_of_getLast? hlast
    next => cases h
  next => cases h

/-- The label of a node or an edge is a text among its attributes, unless it has none. -/
theorem labelOr_sort {fallback : List Char} {rest : List Piece} {parts : List (List Piece)}
    (hfallback : p fallback) (hrest : ∀ chars, .text chars ∈ rest → p chars)
    (hread : readAttributes rest = some parts) : p (labelOr fallback parts) := by
  unfold labelOr
  cases hfound : parts.findSome? labelIn? with
  | none => exact hfallback
  | some label =>
    obtain ⟨part, hpart, hlabel⟩ := List.exists_of_findSome?_eq_some hfound
    refine hrest label ?_
    unfold readAttributes at hread
    split at hread
    next =>
      cases hread
      exact List.dropLast_subset _ (mem_of_mem_splitOn hpart (text_mem_of_labelIn hlabel))
    next => cases hread

/-- The texts of a statement are among the pieces it is read from, or empty. -/
theorem readStatement_consists {pieces : List Piece} {statement : Statement} (hnil : p [])
    (h : ∀ chars, .text chars ∈ pieces → p chars) (hread : readStatement pieces = some statement) :
    statement.Consists p := by
  unfold readStatement at hread
  split at hread
  next id rest =>
    obtain ⟨parts, hparts, rfl⟩ := Option.map_eq_some_iff.mp hread
    have hid : p id := h id (List.mem_cons_self ..)
    refine ⟨hid, labelOr_sort hid (fun chars hchars => h chars ?_) hparts⟩
    exact List.mem_cons_of_mem _ (List.mem_cons_of_mem _ hchars)
  next source target rest =>
    obtain ⟨parts, hparts, rfl⟩ := Option.map_eq_some_iff.mp hread
    refine ⟨h source (by simp), h target (by simp), labelOr_sort hnil (fun chars hchars => h chars ?_)
      hparts⟩
    simp [hchars]
  next =>
    split at hread
    next =>
      cases hread
      trivial
    next => cases hread

/-- Nothing is between the braces that is not in the graph. -/
theorem mem_of_mem_body {pieces body : List Piece} (h : body? pieces = some body) {piece : Piece}
    (hpiece : piece ∈ body) : piece ∈ pieces := by
  unfold body? at h
  split at h
  next =>
    cases h
    exact List.mem_of_mem_drop (List.dropLast_subset _ hpiece)
  next => cases h

/-- **What is read was found**: no id and no label ends in a backslash where it escapes nothing but
quotation marks. -/
theorem read_consists {text : String} (h : read (.escaped none) text = some o) :
    o.Consists fun chars => chars.getLast? ≠ some '\\' := by
  obtain ⟨pieces, hscan, h⟩ := Option.bind_eq_some_iff.mp h
  obtain ⟨body, hbody, h⟩ := Option.bind_eq_some_iff.mp h
  obtain ⟨statements, hstatements, h⟩ := Option.bind_eq_some_iff.mp h
  cases h
  have hcalm : Place.Calm .outside := trivial
  have hfound : ∀ chars, .text chars ∈ body → chars.getLast? ≠ some '\\' := fun chars hchars =>
    not_backslash_of_scan hcalm hscan (List.mem_of_mem_filter (mem_of_mem_body hbody hchars))
  refine Outline.Consists.foldl ⟨nofun, nofun⟩ fun statement hstatement => ?_
  obtain ⟨row, hrow, hread⟩ := exists_of_mem_mapM hstatements hstatement
  exact readStatement_consists nofun
    (fun chars hchars => hfound chars (mem_of_mem_splitOn hrow hchars)) hread

end Found

/-- **Reading a graph back.** -/
theorem read_text {graph : FlowGraph} (h : graph.IsJoined) :
    (read (.escaped none) (text graph) = some (outline graph) ↔
      (outline graph).Consists fun chars => chars.getLast? ≠ some '\\') ∧
    ∀ pair, ((outline graph).Consists fun chars =>
      chars.getLast? ≠ some '\\' ∧ NoPairs pair chars) →
        read (.escaped pair) (text graph) = some (outline graph) := by
  have hread : ∀ pair, ((outline graph).Consists fun chars =>
      chars.getLast? ≠ some '\\' ∧ NoPairs pair chars) →
        read (.escaped pair) (text graph) = some (outline graph) := by
    intro pair hkept
    unfold read
    rw [text_toList pair, scan_pieces (keeps_pieces hkept), Option.bind_eq_bind, Option.bind_some,
      body_filter, Option.bind_eq_bind, Option.bind_some, rows_splitOn, mapM_rows]
    exact congrArg some (foldl_statements h)
  exact ⟨⟨read_consists, fun hends => hread none (hends.imp fun _ h => ⟨h, Or.inl rfl⟩)⟩, hread⟩

/-- A module that writes a table, both with marks in their names. -/
def quotations : FlowGraph :=
  ⟨[⟨.str "the \"desk\"", .str "the \"desk\"", .module, true, some (.known .direct)⟩,
      ⟨.str "a\\b", .str "a\\b", .entity, false, none⟩],
    [⟨.str "f", .str "the \"desk\"", .str "a\\b", .str "writes", .known .write, .known .critical, true,
      none⟩], .ofNat 0⟩

theorem isJoined_quotations : quotations.IsJoined := ⟨by decide, by decide, by simp [quotations]⟩

theorem read_text_quotations :
    quotations.IsJoined ∧
      ((outline quotations).Consists fun chars =>
        chars.getLast? ≠ some '\\' ∧ NoPairs (some ['\\']) chars) ∧
      read (.escaped none) (text quotations) = some (outline quotations) ∧
      read (.escaped (some ['\\'])) (text quotations) = some (outline quotations) := by
  have hkept : (outline quotations).Consists fun chars =>
      chars.getLast? ≠ some '\\' ∧ NoPairs (some ['\\']) chars := by
    unfold NoPairs
    exact ⟨by decide +kernel, by decide +kernel⟩
  have hread := read_text isJoined_quotations
  exact ⟨isJoined_quotations, hkept, hread.1.mpr (hkept.imp fun _ h => h.1),
    hread.2 (some ['\\']) hkept⟩

/-- A module whose id ends in a backslash. -/
def trailing : FlowGraph := ⟨[⟨.str "a\\", .str "a\\", .module, false, none⟩], [], .ofNat 0⟩

theorem text_trailing : (text trailing).toList =
    "digraph DataFlowImpact \x7b\n  rankdir=LR;\n  \"a\\\" [label=\"a\\\", shape=box];\n\x7d".toList := by
  decide +kernel

/-- The text of a module whose id ends in a backslash is no graph at all. -/
theorem read_trailing : trailing.IsJoined ∧ ∀ pair, read (.escaped pair) (text trailing) = none := by
  refine ⟨⟨by decide, by decide, by simp [trailing]⟩, fun pair => ?_⟩
  have hscan : scan (.escaped pair) .outside (text trailing).toList = none := by
    rw [text_trailing]
    simp [scan, Quoting.escapes]
  unfold read
  rw [hscan]
  rfl

end ChangeImpact.Dot
