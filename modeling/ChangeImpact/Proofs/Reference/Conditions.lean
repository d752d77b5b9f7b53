import ChangeImpact.Proofs.Checked
import ChangeImpact.Reference.Query

/-!
# Conditions and their parameters

A condition looks at as many parameters as it has question marks (`Condition.count_text`), and at no
others (`holds_append`). The conditions of a request stand in step with their parameters:

> `clause_inStep`, `count_clause`: whatever is asked for, every condition has its parameters, and the
> clause is written with a question mark for each of them;
> `accepts_iff`: with parameters in step, a row is looked for exactly if it meets every condition with
> the parameters that were given for it.
-/

namespace ChangeImpact

/-- What stands between words does not count. -/
theorem count_joinWith (c : Char) {sep : List Char} (hsep : c ∉ sep) (words : List (List Char)) :
    (Text.joinWith sep words).count c = words.flatten.count c := by
  induction words with
  | nil => rfl
  | cons word rest ih =>
    cases rest with
    | nil => rw [Text.joinWith, List.flatten_singleton]
    | cons next rest =>
      show (word ++ sep ++ Text.joinWith sep (next :: rest)).count c = _
      rw [List.flatten_cons, List.count_append, List.count_append, List.count_append,
        List.count_eq_zero.mpr hsep, ih, Nat.add_zero]

/-! ## One condition -/

namespace Condition

/-- A condition does not look beyond its own parameters. -/
theorem holds_append (row : Row) (condition : Condition) {parameters : List (Option String)}
    (h : parameters.length = condition.arity) (more : List (Option String)) :
    condition.holds row (parameters ++ more) = condition.holds row parameters := by
  induction condition generalizing parameters more with
  | equals column =>
    obtain ⟨parameter, rfl⟩ := List.length_eq_one_iff.mp h
    rfl
  | among column count =>
    have hlength : parameters.length = count := h
    unfold holds
    rw [List.take_left' hlength, List.take_of_length_le (Nat.le_of_eq hlength)]
  | both first second ihfirst ihsecond | either first second ihfirst ihsecond =>
    -- the first condition has the front of the parameters, the second one the rest of them
    have hlength : first.arity ≤ parameters.length := h ▸ Nat.le_add_right ..
    have hfront : (parameters.take first.arity).length = first.arity := List.length_take_of_le hlength
    have hrest : (parameters.drop first.arity).length = second.arity := by
      rw [List.length_drop, h]
      exact Nat.add_sub_cancel_left ..
    have hfirst : first.holds row (parameters ++ more) = first.holds row parameters := by
      rw [← List.take_append_drop first.arity parameters, List.append_assoc, ihfirst hfront,
        ihfirst hfront]
    unfold holds
    rw [hfirst, List.drop_append_of_le_length hlength, ihsecond hrest]

/-- A condition is written with a question mark for each parameter. -/
theorem count_text (condition : Condition) : condition.text.toList.count '?' = condition.arity := by
  induction condition with
  | equals column => cases column <;> decide
  | among column count =>
    have hname : column.name.toList.count '?' = 0 := by cases column <;> decide
    have hmarks := count_joinWith '?' (show '?' ∉ [','] by decide) (List.replicate count ['?'])
    unfold text arity
    simp [hname, hmarks]
  | both first second ihfirst ihsecond | either first second ihfirst ihsecond =>
    unfold text arity
    simp [ihfirst, ihsecond]

/-- The entity of a condition is compared as a whole. -/
theorem holds_atSource (row : Row) (key : EntityKey) (more : List (Option String)) :
    atSource.holds row (some key.type :: some key.id :: more) = decide (row.link.source = key) := by
  obtain ⟨type, id⟩ := key
  obtain ⟨number, name, ⟨⟨sourceType, sourceId⟩, target, relationship⟩, metadata, time, creator⟩ := row
  rw [Bool.eq_iff_iff]
  simp [atSource, holds, arity, Column.textIn, @eq_comm _ type, @eq_comm _ id]

/-- That also goes for the target. -/
theorem holds_atTarget (row : Row) (key : EntityKey) (more : List (Option String)) :
    atTarget.holds row (some key.type :: some key.id :: more) = decide (row.link.target = key) := by
  obtain ⟨type, id⟩ := key
  obtain ⟨number, name, ⟨source, ⟨targetType, targetId⟩, relationship⟩, metadata, time, creator⟩ := row
  rw [Bool.eq_iff_iff]
  simp [atTarget, holds, arity, Column.textIn, @eq_comm _ type, @eq_comm _ id]

end Condition

/-! ## Several conditions -/

/-- There are as many parameters as the condition has question marks. -/
def InStep {α : Type} (terms : List (Condition × List α)) : Prop :=
  ∀ term ∈ terms, term.2.length = term.1.arity

namespace Filter

/-- With parameters in step, every condition is met with its own. -/
theorem accepts_iff {terms : List (Condition × List (Option String))} (h : InStep terms) (row : Row) :
    accepts ⟨terms.map Prod.fst, terms.flatMap Prod.snd⟩ row = true ↔
      ∀ term ∈ terms, term.1.holds row term.2 = true := by
  unfold accepts
  dsimp only
  induction terms with
  | nil => simp [meetsAll]
  | cons term rest ih =>
    obtain ⟨hterm, hrest⟩ := List.forall_mem_cons.mp h
    rw [List.map_cons, List.flatMap_cons, meetsAll, Condition.holds_append row term.1 hterm,
      List.drop_left' hterm, Bool.and_eq_true, ih hrest, List.forall_mem_cons]

/-- The rows at an entity. -/
theorem accepts_touching (key : EntityKey) (row : Row) :
    (touching key .both).accepts row = true ↔ row.link.source = key ∨ row.link.target = key := by
  show ((Condition.atSource.holds row [some key.type, some key.id, some key.type, some key.id] ||
    Condition.atTarget.holds row [some key.type, some key.id]) && true) = true ↔ _
  rw [Bool.and_true, Condition.holds_atSource, Condition.holds_atTarget, Bool.or_eq_true,
    decide_eq_true_iff, decide_eq_true_iff]

end Filter

namespace FilterRequest

/-- The terms on an entity have as many parameters as question marks. -/
theorem inStep_anchored {request : FilterRequest} {terms : List (Condition × List Json)}
    (h : request.anchored = .ok terms) : InStep terms := by
  unfold anchored at h
  dsimp only at h
  split at h
  next => cases h
  next =>
    cases h
    exact List.forall_mem_singleton.mpr rfl
  next direction hother _ =>
    cases h
    refine List.forall_mem_singleton.mpr ?_
    cases direction with
    | forward => rfl
    | reverse => rfl
    | both => exact absurd rfl hother

/-- So have those on each side. -/
theorem inStep_strict (request : FilterRequest) : InStep request.strict := by
  intro term hterm
  obtain ⟨part, -, rfl⟩ := List.mem_map.mp hterm
  rfl

/-- And so have those on relationships. -/
theorem inStep_related {request : FilterRequest} {terms : List (Condition × List Json)}
    (h : request.related = .ok terms) : InStep terms := by
  unfold related at h
  split at h
  next =>
    cases h
    exact List.forall_mem_nil _
  next =>
    split at h
    next =>
      cases h
      exact List.forall_mem_singleton.mpr rfl
    next =>
      obtain ⟨words, -, rfl⟩ := Checked.map_eq_ok.mp h
      exact List.forall_mem_singleton.mpr rfl

/-- **In step.** Whatever is asked for, every condition has its parameters. -/
theorem clause_inStep {request : FilterRequest} {clause : Clause} (h : request.clause = .ok clause) :
    InStep clause.terms := by
  unfold FilterRequest.clause sides at h
  obtain ⟨found, hsides, h⟩ := Checked.bind_eq_ok.mp h
  obtain ⟨words, hwords, h⟩ := Checked.bind_eq_ok.mp h
  obtain rfl := Checked.pure_eq_ok.mp h
  refine List.forall_mem_append.mpr ⟨?_, inStep_related hwords⟩
  split at hsides
  next => exact inStep_anchored hsides
  next =>
    cases hsides
    exact inStep_strict request

end FilterRequest

/-- Conditions with parameters in step are written with a question mark for each of them. -/
theorem InStep.count_flatten {α : Type} {terms : List (Condition × List α)} (h : InStep terms) :
    (terms.map fun term => term.1.text.toList).flatten.count '?' = (terms.flatMap Prod.snd).length := by
  induction terms with
  | nil => rfl
  | cons term rest ih =>
    obtain ⟨hterm, hrest⟩ := List.forall_mem_cons.mp h
    rw [List.map_cons, List.flatten_cons, List.count_append, List.flatMap_cons, List.length_append,
      ih hrest, term.1.count_text, hterm]

/-- **Question marks.** Whatever is asked for, the clause is written with one for each of its parameters. -/
theorem FilterRequest.count_clause {request : FilterRequest} {clause : Clause}
    (h : request.clause = .ok clause) : clause.text.toList.count '?' = clause.parameters.length := by
  have hword : "WHERE ".toList.count '?' = 0 := by decide
  have hstep := clause_inStep h
  unfold Clause.text Clause.parameters
  split
  next hempty =>
    rw [List.isEmpty_iff.mp hempty]
    rfl
  next =>
    rw [String.toList_append, List.count_append, hword, Nat.zero_add, String.toList_ofList,
      count_joinWith '?' (by decide), hstep.count_flatten]

example : (FilterRequest.clause ⟨.null, "T-2", .null, .null, "task", "T-1", "both",
      .arr ["blocks", "about"]⟩).map Clause.text =
    .ok ("WHERE ((source_type = ? AND source_id = ?) OR (target_type = ? AND target_id = ?))" ++
      " AND relationship IN (?,?)") := by decide

end ChangeImpact
