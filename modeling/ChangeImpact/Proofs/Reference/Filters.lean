import ChangeImpact.Proofs.Reference.Conditions

/-!
# Filters by texts

A `TextFilter` asks for references by texts: by an entity and the side on which it has to be, or by
each side by itself, and by the relationship. `Meets` says which rows are looked for; an empty text
and one that is not given do not matter.

> `exists_bind`: a filter by texts is never refused, and it accepts exactly the rows that meet it.

Each part of a filter becomes conditions with texts as parameters, of which it is shown what they mean for
a row; the clause is these conditions one after the other.
-/

namespace ChangeImpact

/-- The relationships asked for: any one, a certain one or one of several. -/
inductive RelationshipFilter where
  | any
  | one (word : String)
  | among (words : List String)

namespace RelationshipFilter

/-- The relationships, as a request names them. -/
def toJson : RelationshipFilter → Json
  | any => .null
  | one word => .str word
  | among words => .arr (words.map Json.str)

/-- The relationship is one of those asked for; an empty text and an empty list ask for none in
particular. -/
def Allows (relationship : String) : RelationshipFilter → Prop
  | any => True
  | one word => word ≠ "" → relationship = word
  | among words => words ≠ [] → relationship ∈ words

end RelationshipFilter

/-- A filter whose parts are texts. -/
structure TextFilter where
  sourceType : Option String
  sourceId : Option String
  targetType : Option String
  targetId : Option String
  entityType : Option String
  entityId : Option String
  direction : Direction
  relationship : RelationshipFilter

namespace TextFilter

/-- The filter, as a store takes it. -/
def request (f : TextFilter) : FilterRequest where
  sourceType := Json.ofOption Json.str f.sourceType
  sourceId := Json.ofOption Json.str f.sourceId
  targetType := Json.ofOption Json.str f.targetType
  targetId := Json.ofOption Json.str f.targetId
  entityType := Json.ofOption Json.str f.entityType
  entityId := Json.ofOption Json.str f.entityId
  direction := Vocabulary.toJson f.direction
  relationship := f.relationship.toJson

/-- The filter is anchored on an entity: its type and its id are given and not empty. -/
def IsAnchoredOn (f : TextFilter) (key : EntityKey) : Prop :=
  f.entityType = some key.type ∧ f.entityId = some key.id ∧ key.type ≠ "" ∧ key.id ≠ ""

/-- The link has the entity on the side of the direction. -/
def OnSide (direction : Direction) (key : EntityKey) (link : LinkKey) : Prop :=
  match direction with
  | .forward => link.source = key
  | .reverse => link.target = key
  | .both => link.source = key ∨ link.target = key

/-- The value is the one given, unless none or an empty one is. -/
def Agrees (given : Option String) (value : String) : Prop :=
  ∀ text, given = some text → text ≠ "" → value = text

/-- The row is looked for: it is on the side of the anchor, or else it agrees with the filter on
either side; and its relationship is one of those asked for. -/
structure Meets (f : TextFilter) (row : Row) : Prop where
  anchored : ∀ key, f.IsAnchoredOn key → OnSide f.direction key row.link
  strict : (¬ ∃ key, f.IsAnchoredOn key) →
    Agrees f.sourceType row.link.source.type ∧ Agrees f.sourceId row.link.source.id ∧
      Agrees f.targetType row.link.target.type ∧ Agrees f.targetId row.link.target.id
  relationship : f.relationship.Allows row.link.relationship

/-- The filter that asks for nothing in particular. -/
def unfiltered : TextFilter := ⟨none, none, none, none, none, none, .both, .any⟩

/-- Without a filter every row will do. -/
theorem unfiltered_meets (row : Row) : unfiltered.Meets row := by
  have hnone : ∀ value, Agrees none value := by
    intro value text hsome
    cases hsome
  refine ⟨fun key hkey => ?_, fun _ => ⟨hnone _, hnone _, hnone _, hnone _⟩, trivial⟩
  obtain ⟨htype, -⟩ := hkey
  cases htype

variable {f : TextFilter}

/-! ## Parts of a filter -/

/-- A part is given if it is a text that is not empty. -/
theorem truthy_ofOption {given : Option String} :
    (Json.ofOption Json.str given).truthy = true ↔ ∃ text, given = some text ∧ text ≠ "" := by
  cases given with
  | none => simp [Json.ofOption, Json.truthy]
  | some text => simp [Json.ofOption, Json.truthy]

/-- A filter is anchored exactly if there is an entity that it is anchored on. -/
theorem isAnchored_iff : f.request.isAnchored = true ↔ ∃ key, f.IsAnchoredOn key := by
  unfold FilterRequest.isAnchored IsAnchoredOn request
  rw [Bool.and_eq_true, truthy_ofOption, truthy_ofOption]
  constructor
  · intro hgiven
    obtain ⟨⟨type, htype, hne⟩, id, hid, hne'⟩ := hgiven
    exact ⟨⟨type, id⟩, htype, hid, hne, hne'⟩
  · intro hgiven
    obtain ⟨key, htype, hid, hne, hne'⟩ := hgiven
    exact ⟨⟨key.type, htype, hne⟩, key.id, hid, hne'⟩

/-- Directions are read as they are written. -/
theorem ofJson_direction (direction : Direction) :
    Vocabulary.ofJson? (Vocabulary.toJson direction) = some direction := by
  cases direction <;> decide

/-! ## Conditions with texts -/

/-- Conditions with texts as parameters, as they stand in a clause. -/
def asJson (terms : List (Condition × List String)) : List (Condition × List Json) :=
  terms.map fun term => (term.1, term.2.map Json.str)

/-- The row meets all the conditions. -/
def MeetsTerms (terms : List (Condition × List String)) (row : Row) : Prop :=
  ∀ term ∈ terms, term.1.holds row (term.2.map some) = true

/-- Terms behind each other are met if both are. -/
theorem meetsTerms_append {terms others : List (Condition × List String)} {row : Row} :
    MeetsTerms (terms ++ others) row ↔ MeetsTerms terms row ∧ MeetsTerms others row :=
  List.forall_mem_append

/-- Texts are bound as they are. -/
theorem bindAll_texts (position : Nat) (texts : List String) :
    Clause.bindAll position (texts.map Json.str) = .ok (texts.map some) := by
  induction texts generalizing position with
  | nil => rfl
  | cons text texts ih =>
    rw [List.map_cons, Clause.bindAll, Json.cell_str, Checked.ok_bind, ih]
    rfl

/-- Texts are bound as they are, and the rows that are looked for are those that meet the conditions. -/
theorem exists_bind_asJson {terms : List (Condition × List String)} (h : InStep (asJson terms)) :
    ∃ filter, Clause.bind ⟨asJson terms⟩ = .ok filter ∧
      ∀ row, filter.accepts row = true ↔ MeetsTerms terms row := by
  have hparameters : Clause.parameters ⟨asJson terms⟩ = (terms.flatMap Prod.snd).map Json.str := by
    unfold Clause.parameters asJson
    rw [List.flatMap_map, List.map_flatMap]
  let bound : List (Condition × List (Option String)) := terms.map fun term => (term.1, term.2.map some)
  have hstep : InStep bound := by
    intro term hterm
    obtain ⟨text, htext, rfl⟩ := List.mem_map.mp hterm
    have hlength := h _ (List.mem_map_of_mem htext)
    rw [List.length_map] at hlength ⊢
    exact hlength
  have hfilter : Filter.mk ((asJson terms).map Prod.fst) ((terms.flatMap Prod.snd).map some) =
      ⟨bound.map Prod.fst, bound.flatMap Prod.snd⟩ := by
    unfold asJson
    rw [List.map_map, List.map_map, List.flatMap_map, List.map_flatMap]
    rfl
  refine ⟨⟨bound.map Prod.fst, bound.flatMap Prod.snd⟩, ?_, fun row => ?_⟩
  · unfold Clause.bind
    rw [hparameters, bindAll_texts, ← hfilter]
    rfl
  · rw [Filter.accepts_iff hstep]
    exact List.forall_mem_map

/-! ## The parts of a filter -/

/-- An anchor asks for the rows on its side. -/
theorem exists_anchored {key : EntityKey} (h : f.IsAnchoredOn key) :
    ∃ terms, f.request.anchored = .ok (asJson terms) ∧
      ∀ row, MeetsTerms terms row ↔ OnSide f.direction key row.link := by
  obtain ⟨htype, hid, -⟩ := h
  have htypes : f.request.entityType = .str key.type := by
    show Json.ofOption Json.str f.entityType = _
    rw [htype]
    rfl
  have hids : f.request.entityId = .str key.id := by
    show Json.ofOption Json.str f.entityId = _
    rw [hid]
    rfl
  have hdirection : Vocabulary.ofJson? f.request.direction = some f.direction :=
    ofJson_direction f.direction
  unfold FilterRequest.anchored
  rw [htypes, hids, hdirection]
  -- each direction has its own condition; the one on both sides has the entity twice
  cases f.direction with
  | forward =>
    refine ⟨[(.atSource, [key.type, key.id])], rfl, fun row => List.forall_mem_singleton.trans ?_⟩
    show Condition.atSource.holds row [some key.type, some key.id] = true ↔ row.link.source = key
    rw [Condition.holds_atSource, decide_eq_true_iff]
  | reverse =>
    refine ⟨[(.atTarget, [key.type, key.id])], rfl, fun row => List.forall_mem_singleton.trans ?_⟩
    show Condition.atTarget.holds row [some key.type, some key.id] = true ↔ row.link.target = key
    rw [Condition.holds_atTarget, decide_eq_true_iff]
  | both =>
    refine ⟨[(.onSide .both, [key.type, key.id, key.type, key.id])], rfl,
      fun row => List.forall_mem_singleton.trans ?_⟩
    show (Condition.atSource.holds row [some key.type, some key.id, some key.type, some key.id] ||
      Condition.atTarget.holds row [some key.type, some key.id]) = true ↔
        row.link.source = key ∨ row.link.target = key
    rw [Condition.holds_atSource, Condition.holds_atTarget, Bool.or_eq_true, decide_eq_true_iff,
      decide_eq_true_iff]

/-- A condition on one text holds if that is the one in the column. -/
theorem holds_equals (row : Row) (column : Column) (text : String) :
    (Condition.equals column).holds row [some text] = true ↔ column.textIn row = text := by
  simp [Condition.holds, @eq_comm _ text]

/-- The conditions on the columns that a text is given for, unless it is empty. -/
theorem exists_parts (parts : List (Column × Option String)) : ∃ terms,
    ((parts.map fun part => (part.1, Json.ofOption Json.str part.2)).filter
      fun part : Column × Name => part.2.truthy).map (fun part => (Condition.equals part.1, [part.2])) =
        asJson terms ∧
      ∀ row, MeetsTerms terms row ↔ ∀ part ∈ parts, Agrees part.2 (part.1.textIn row) := by
  induction parts with
  | nil => exact ⟨[], rfl, fun row => ⟨fun _ => List.forall_mem_nil _, fun _ => List.forall_mem_nil _⟩⟩
  | cons part parts ih =>
    obtain ⟨terms, hterms, hmeets⟩ := ih
    obtain ⟨column, given⟩ := part
    rw [List.map_cons, List.filter_cons]
    split
    next htruthy =>
      obtain ⟨text, rfl, hne⟩ := truthy_ofOption.mp htruthy
      refine ⟨(.equals column, [text]) :: terms, ?_, fun row => ?_⟩
      · rw [List.map_cons, hterms]
        rfl
      · unfold MeetsTerms
        rw [List.forall_mem_cons, List.forall_mem_cons]
        refine and_congr ((holds_equals row column text).trans ?_) (hmeets row)
        exact ⟨fun heq _ hsome _ => Option.some.inj hsome ▸ heq, fun h => h text rfl hne⟩
    -- a part that is absent or empty gives no term, and every row agrees with it
    next htruthy =>
      refine ⟨terms, hterms, fun row => ?_⟩
      rw [List.forall_mem_cons, hmeets]
      refine (and_iff_right fun text hsome hne => ?_).symm
      exact absurd (truthy_ofOption.mpr ⟨text, hsome, hne⟩) htruthy

/-- Without an anchor each side is compared by itself. -/
theorem exists_strict (f : TextFilter) : ∃ terms, f.request.strict = asJson terms ∧
    ∀ row, MeetsTerms terms row ↔
      Agrees f.sourceType row.link.source.type ∧ Agrees f.sourceId row.link.source.id ∧
        Agrees f.targetType row.link.target.type ∧ Agrees f.targetId row.link.target.id := by
  obtain ⟨terms, hterms, hmeets⟩ := exists_parts [(.sourceType, f.sourceType), (.sourceId, f.sourceId),
    (.targetType, f.targetType), (.targetId, f.targetId)]
  refine ⟨terms, hterms, fun row => (hmeets row).trans ?_⟩
  simp only [List.forall_mem_cons, List.not_mem_nil, false_imp_iff, implies_true, and_true,
    Column.textIn]

/-- One on several texts holds if one of them is. -/
theorem holds_among (row : Row) (column : Column) (words : List String) :
    (Condition.among column words.length).holds row (words.map some) = true ↔
      column.textIn row ∈ words := by
  have htake : (words.map some).take words.length = words.map some :=
    List.take_of_length_le (Nat.le_of_eq (List.length_map _))
  unfold Condition.holds
  rw [htake, List.contains_iff_mem]
  exact ⟨fun h => by simpa using h, List.mem_map_of_mem⟩

/-- A relationship filter asks for the relationships that it allows. -/
theorem exists_related (f : TextFilter) : ∃ terms, f.request.related = .ok (asJson terms) ∧
    ∀ row, MeetsTerms terms row ↔ f.relationship.Allows row.link.relationship := by
  have hnone : ∀ {p : Row → Prop}, (∀ row, p row) → ∀ row, MeetsTerms [] row ↔ p row :=
    fun hall row => ⟨fun _ => hall row, fun _ => List.forall_mem_nil _⟩
  unfold FilterRequest.related request
  dsimp only
  cases f.relationship with
  | any => exact ⟨[], rfl, hnone fun _ => trivial⟩
  | one word =>
    by_cases hword : word = ""
    · -- an empty text asks for nothing, as no text does
      subst hword
      exact ⟨[], rfl, hnone fun _ hne => absurd rfl hne⟩
    · have htruthy : (Json.str word).truthy = true := bne_iff_ne.mpr hword
      refine ⟨[(.equals .relationship, [word])], ?_, fun row => List.forall_mem_singleton.trans ?_⟩
      · simp only [RelationshipFilter.toJson, htruthy]
        rfl
      · exact (holds_equals row .relationship word).trans ⟨fun heq _ => heq, fun h => h hword⟩
  | among words =>
    cases words with
    | nil => exact ⟨[], rfl, hnone fun _ hne => absurd rfl hne⟩
    | cons word words =>
      refine ⟨[(.among .relationship (word :: words).length, word :: words)], ?_,
        fun row => List.forall_mem_singleton.trans ?_⟩
      · show Except.ok [(Condition.among .relationship ((word :: words).map Json.str).length, _)] = _
        rw [List.length_map]
        rfl
      · exact (holds_among row .relationship _).trans
          ⟨fun hmem _ => hmem, fun h => h (List.cons_ne_nil word words)⟩

/-! ## The whole filter -/

/-- A filter is anchored on one entity at most. -/
theorem IsAnchoredOn.eq {key other : EntityKey} (h : f.IsAnchoredOn key)
    (h' : f.IsAnchoredOn other) : key = other := by
  obtain ⟨htype, hid, -⟩ := h
  obtain ⟨htype', hid', -⟩ := h'
  obtain ⟨type, id⟩ := key
  obtain ⟨type', id'⟩ := other
  cases htype.symm.trans htype'
  cases hid.symm.trans hid'
  rfl

/-- **What a filter accepts.** A filter by texts is never refused, its parameters are bound, and it accepts
exactly the rows that meet it. -/
theorem exists_bind (f : TextFilter) : ∃ clause filter, f.request.clause = .ok clause ∧
    clause.bind = .ok filter ∧ ∀ row, filter.accepts row = true ↔ f.Meets row := by
  obtain ⟨words, hwords, hallows⟩ := f.exists_related
  -- the conditions on the sides, whether or not there is an anchor
  obtain ⟨sides, hsides, hmeets⟩ : ∃ sides, f.request.sides = .ok (asJson sides) ∧
      ∀ row, MeetsTerms sides row ↔ (∀ key, f.IsAnchoredOn key → OnSide f.direction key row.link) ∧
        ((¬ ∃ key, f.IsAnchoredOn key) →
          Agrees f.sourceType row.link.source.type ∧ Agrees f.sourceId row.link.source.id ∧
            Agrees f.targetType row.link.target.type ∧ Agrees f.targetId row.link.target.id) := by
    unfold FilterRequest.sides
    by_cases hanchored : f.request.isAnchored = true
    · obtain ⟨key, hkey⟩ := isAnchored_iff.mp hanchored
      obtain ⟨sides, hsides, hmeets⟩ := exists_anchored hkey
      refine ⟨sides, (if_pos hanchored).trans hsides, fun row => (hmeets row).trans ?_⟩
      exact ⟨fun h => ⟨fun other hother => hkey.eq hother ▸ h, fun hnone => absurd ⟨key, hkey⟩ hnone⟩,
        fun h => h.1 key hkey⟩
    · obtain ⟨sides, hsides, hmeets⟩ := f.exists_strict
      have hnone : ¬ ∃ key, f.IsAnchoredOn key := fun h => hanchored (isAnchored_iff.mpr h)
      refine ⟨sides, (if_neg hanchored).trans (congrArg Except.ok hsides), fun row => (hmeets row).trans ?_⟩
      exact ⟨fun h => ⟨fun key hkey => absurd ⟨key, hkey⟩ hnone, fun _ => h⟩, fun h => h.2 hnone⟩
  have hclause : f.request.clause = .ok ⟨asJson (sides ++ words)⟩ := by
    unfold FilterRequest.clause
    rw [hsides, hwords]
    show Except.ok (Clause.mk (asJson sides ++ asJson words)) = _
    unfold asJson
    rw [List.map_append]
  obtain ⟨filter, hbind, haccepts⟩ :=
    exists_bind_asJson (FilterRequest.clause_inStep hclause)
  refine ⟨_, filter, hclause, hbind, fun row => (haccepts row).trans ?_⟩
  rw [meetsTerms_append, hmeets, hallows]
  exact ⟨fun h => ⟨h.1.1, h.1.2, h.2⟩, fun h => ⟨⟨h.anchored, h.strict⟩, h.relationship⟩⟩

end TextFilter

end ChangeImpact
