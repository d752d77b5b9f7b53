import ChangeImpact.Proofs.Distinct
import ChangeImpact.Proofs.Json.Names
import ChangeImpact.Proofs.Record
import ChangeImpact.Scope.Detection

/-!
# The entities of a scope

The flows of a project bring names together. A scope lists the entities that a change is about and
after them the ones that are brought together with one of those: a single step, since the flows of a
name that was found are not looked up.

> `detect_listsEntities`: along data flows the entities of a change come first, in their order, and
> then exactly the other names that occur in a flow with one of them; without data flows nothing
> follows.

Flows may hold anything that can be compared, whereas the entities of a change are texts, which agree
with nothing but themselves.
-/

namespace ChangeImpact

namespace Knowledge

/-- The names occur together in a flow. -/
def OccurTogether (k : Knowledge) (a b : Name) : Prop :=
  ∃ flow ∈ k.flows, a ∈ flow.entities ∧ b ∈ flow.entities

/-- The list starts with the given entities, each of them once, goes on with other names that occur
together with one of those, names nothing twice, and leaves no name out that occurs together with a
given entity. -/
structure ListsEntities (k : Knowledge) (given listed : List Name) : Prop where
  begins : ∃ others, listed = given.eraseDups ++ others ∧ ∀ other ∈ others,
    given.contains other = false ∧ other.truthy = true ∧ ∃ entity ∈ given, k.OccurTogether entity other
  distinct : listed.Pairwise fun a b => (b == a) = false
  complete : ∀ entity ∈ given, ∀ other, k.OccurTogether entity other → other.truthy = true →
    listed.contains other = true

/-- What occurs together with a text stands in its flows. -/
theorem exists_mem_flowsOf_iff {k : Knowledge} {entity other : Name} (hentity : entity.IsText) :
    (∃ flow ∈ k.flowsOf entity, other ∈ flow.entities) ↔ k.OccurTogether entity other := by
  unfold flowsOf OccurTogether
  simp only [List.mem_filter, hentity.contains_iff, and_assoc]

end Knowledge

namespace Expansion

variable {sources : Sources} {reach : Reach} {entities : List Name}

/-- What is added to a list of texts agrees with none of them. -/
theorem contains_eq_false_of_added {given others : List Name} (hgiven : ∀ entity ∈ given, entity.IsText)
    (hdistinct : (given.eraseDups ++ others).Pairwise fun a b => (b == a) = false) {other : Name}
    (hother : other ∈ others) : given.contains other = false := by
  rw [Bool.eq_false_iff]
  intro hcontains
  obtain ⟨entity, hentity, heq⟩ := List.contains_iff_exists_mem_beq.mp hcontains
  obtain ⟨kept, hkept, hagrees⟩ :=
    exists_mem_eraseDupsBy (r := (· == ·)) (fun _ => BEq.rfl) hentity
  have hapart := (List.pairwise_append.mp hdistinct).2.2 kept hkept other hother
  rw [← (hgiven entity hentity).eq_of_beq hagrees, heq] at hapart
  cases hapart

/-- Along data flows a scope lists what the flows of its knowledge bring together. -/
theorem affectedEntities_listsEntities {knowledge : Knowledge} (hflows : sources.flows = some knowledge)
    (hreach : reach.expandDataFlows = true)
    (hentities : ∀ entity ∈ entities, entity.IsText ∧ entity.truthy = true) :
    knowledge.ListsEntities entities (affectedEntities sources reach entities) := by
  have htext : ∀ entity ∈ entities, entity.IsText := fun entity h => (hentities entity h).1
  have hall : entities.filter Json.truthy = entities :=
    List.filter_eq_self.mpr fun entity h => (hentities entity h).2
  unfold affectedEntities
  rw [hreach, hflows]
  dsimp only
  rw [List.filter_append, hall]
  generalize hrelated : (entities.flatMap fun entity =>
    (knowledge.flowsOf entity).flatMap DataFlow.entities).filter Json.truthy = related
  have hmem : ∀ other, other ∈ related ↔
      (∃ entity ∈ entities, knowledge.OccurTogether entity other) ∧ other.truthy = true := by
    intro other
    rw [← hrelated, List.mem_filter, List.mem_flatMap]
    refine and_congr_left fun _ => exists_congr fun entity => and_congr_right fun hentity => ?_
    rw [List.mem_flatMap, Knowledge.exists_mem_flowsOf_iff (htext entity hentity)]
  have hdistinct : (entities ++ related).eraseDups.Pairwise fun a b => (b == a) = false :=
    eraseDupsBy_pairwise _ _
  -- the entities are distinct, so that they stay in front when repetitions are dropped
  obtain ⟨others, hothers⟩ := eraseDups_isPrefix (List.prefix_append entities related)
  refine ⟨⟨others, hothers.symm, fun other hother => ?_⟩, hdistinct, ?_⟩
  · -- an added name is not given, so that it is one of the related ones
    have hnew := contains_eq_false_of_added htext (hothers ▸ hdistinct) hother
    have hin : other ∈ entities ++ related :=
      (eraseDupsBy_sublist _ _).subset (hothers ▸ List.mem_append_right _ hother)
    rcases List.mem_append.mp hin with hgiven | hadded
    · rw [(htext other hgiven).contains_iff.mpr hgiven] at hnew
      cases hnew
    · obtain ⟨hoccurs, htruthy⟩ := (hmem other).mp hadded
      exact ⟨hnew, htruthy, hoccurs⟩
  · intro entity hentity other hoccurs htruthy
    have hadded := (hmem other).mpr ⟨⟨entity, hentity, hoccurs⟩, htruthy⟩
    obtain ⟨kept, hkept, heq⟩ := exists_mem_eraseDupsBy (r := (· == ·)) (fun _ => BEq.rfl)
      (List.mem_append_right entities hadded)
    exact List.contains_iff_exists_mem_beq.mpr ⟨kept, hkept, heq⟩

/-- Without data flows a scope lists the entities of its change. -/
theorem affectedEntities_without (hnone : reach.expandDataFlows = false ∨ sources.flows = none)
    (hentities : ∀ entity ∈ entities, entity.truthy = true) :
    affectedEntities sources reach entities = entities.eraseDups := by
  unfold affectedEntities
  split
  next htrue hsome =>
    rcases hnone with hfalse | hnone
    · rw [htrue] at hfalse
      cases hfalse
    · rw [hsome] at hnone
      cases hnone
  next =>
    dsimp only
    rw [List.append_nil, List.filter_eq_self.mpr hentities]

end Expansion

namespace Scope

/-- Names that can be compared can be kept apart. -/
theorem needKeys_filter {names : List Name} (h : names.all Json.isKey = true) :
    Json.needKeys (names.filter Json.truthy) = .ok () := by
  rw [Json.needKeys, Checked.guardThat_eq_ok, List.all_eq_true]
  exact fun name hname => List.all_eq_true.mp h name (List.mem_filter.mp hname).1

/-- Entities that are texts are no fault if the names in the flows can be compared. -/
theorem checkEntities_eq_ok {sources : Sources} (reach : Reach) {record : Json} {entities : List Name}
    (hrecord : record.get "entities" = .arr entities) (hentities : ∀ entity ∈ entities, entity.IsText)
    (hflows : ∀ knowledge ∈ sources.flows, ∀ flow ∈ knowledge.flows,
      flow.entities.all Json.isKey = true) :
    checkEntities sources reach record = .ok () := by
  have hown : entities.all Json.isKey = true := by
    rw [List.all_eq_true]
    intro entity hentity
    obtain ⟨s, rfl⟩ := hentities entity hentity
    rfl
  unfold checkEntities Json.needItems
  rw [hrecord, Json.elements, Checked.ok_bind, needKeys_filter hown, Checked.ok_bind]
  split
  next _ knowledge heq =>
    have hknown : sources.flows = some knowledge := (Prod.mk.inj heq).2
    rw [Checked.forM_eq_ok]
    intro entity _
    rw [Checked.forM_eq_ok]
    intro flow hflow
    exact needKeys_filter (hflows knowledge hknown flow (List.mem_filter.mp hflow).1)
  next => rfl

/-- **The entities of a scope.** For a change whose entities are non-empty texts, a scope that follows data
flows lists those entities and then exactly the other names that a flow brings together with one of them;
one that does not, or that knows of no flows, lists the entities alone. They are no fault, unless a name in
the flows cannot be compared. -/
theorem detect_listsEntities (knowledge : Knowledge) (modules specs imports : Option Knowledge)
    (reach : Reach) (change : Change) {parsed : Parsed}
    (hparsed : ∀ entity ∈ parsed.entities, entity.IsText ∧ entity.truthy = true) :
    (reach.expandDataFlows = true → knowledge.ListsEntities parsed.entities
        (detect ⟨modules, specs, imports, some knowledge⟩ reach change parsed).affectedEntities) ∧
      (reach.expandDataFlows = false →
        (detect ⟨modules, specs, imports, some knowledge⟩ reach change parsed).affectedEntities =
          parsed.entities.eraseDups) ∧
      (detect ⟨modules, specs, imports, none⟩ reach change parsed).affectedEntities =
        parsed.entities.eraseDups ∧
      ∀ record, record.get "entities" = .arr parsed.entities →
        checkEntities ⟨modules, specs, imports, none⟩ reach record = .ok () ∧
          ((∀ flow ∈ knowledge.flows, flow.entities.all Json.isKey = true) →
            checkEntities ⟨modules, specs, imports, some knowledge⟩ reach record = .ok ()) := by
  have htext : ∀ entity ∈ parsed.entities, entity.IsText := fun entity h => (hparsed entity h).1
  have htruthy : ∀ entity ∈ parsed.entities, entity.truthy = true := fun entity h => (hparsed entity h).2
  refine ⟨fun hreach => Expansion.affectedEntities_listsEntities rfl hreach hparsed,
    fun hreach => Expansion.affectedEntities_without (Or.inl hreach) htruthy,
    Expansion.affectedEntities_without (Or.inr rfl) htruthy, fun record hrecord => ⟨?_, ?_⟩⟩
  · exact checkEntities_eq_ok reach hrecord htext (by simp)
  · intro hflows
    refine checkEntities_eq_ok reach hrecord htext fun other hother => ?_
    cases hother
    exact hflows

/-- Orders with users, again with an unnamed entity and invoices, and invoices with payments. -/
def trading : Knowledge :=
  let flow (entities : List String) : DataFlow :=
    ⟨.str "a", .str "b", entities.map .str, .read, .optional, []⟩
  { Knowledge.empty with
    flows := [flow ["User", "Order"], flow ["Order", "", "Invoice", "User"], flow ["Invoice", "Payment"]] }

/-- A change that speaks of users, orders, and users again. -/
def userChange : Change := ⟨.str "", [], [], .null, none⟩

def userChangeParsed : Parsed := ⟨[.str "User", .str "Order", .str "User"], [], [], .feature, .ofNat 1⟩

/-- Payments are two steps away. -/
theorem detect_listsEntities_trading :
    (∀ entity ∈ userChangeParsed.entities, entity.IsText ∧ entity.truthy = true) ∧
      (detect (.all trading) .standard userChange userChangeParsed).affectedEntities =
        [.str "User", .str "Order", .str "Invoice"] ∧
      trading.ListsEntities userChangeParsed.entities
        (detect (.all trading) .standard userChange userChangeParsed).affectedEntities ∧
      (detect { Sources.all trading with flows := none } .standard userChange
        userChangeParsed).affectedEntities = [.str "User", .str "Order"] := by
  have hparsed : ∀ entity ∈ userChangeParsed.entities, entity.IsText ∧ entity.truthy = true := by decide
  obtain ⟨hlists, -, hnone, -⟩ := detect_listsEntities trading (some trading) (some trading)
    (some trading) .standard userChange hparsed
  exact ⟨hparsed, by decide +kernel, hlists rfl, hnone.trans (by decide)⟩

end Scope

end ChangeImpact
