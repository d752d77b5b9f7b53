import ChangeImpact.Proofs.Checked
import ChangeImpact.Risk.Rule

/-!
# What rules find

Assessing gives one risk for each rule whose condition holds, and sorts them by how bad they are. A
sort that leaves equals as they were puts the classes of equals one behind the other, each as it was
(`sortBySeverity_eq`), so that the answer is told by the rules alone:

> `assess_finds`: the rules that find something, those of the worst severity first, find the risks
> that are answered, one each.
-/

namespace ChangeImpact

/-! ## Sorting by a rank -/

section Rank

variable {α : Type} {rank : α → Nat}

/-- In order of rank, whatever has rank `n` stands behind everything of a lower rank. -/
theorem filter_lt_succ {as : List α} (h : as.Pairwise fun a b => rank a ≤ rank b) (n : Nat) :
    as.filter (fun a => rank a < n + 1) =
      as.filter (fun a => rank a < n) ++ as.filter (fun a => rank a = n) := by
  induction as with
  | nil => rfl
  | cons a as ih =>
    obtain ⟨ha, has⟩ := List.pairwise_cons.mp h
    by_cases hlt : rank a < n
    · have hnext : rank a < n + 1 := Nat.lt_succ_of_lt hlt
      have hne : ¬ rank a = n := Nat.ne_of_lt hlt
      simp only [List.filter_cons, decide_eq_true_iff, hnext, hlt, hne, if_true, if_false, ih has,
        List.cons_append]
    · -- behind an entry that is not lower nothing is
      have hnone : as.filter (fun b => rank b < n) = [] := by
        rw [List.filter_eq_nil_iff]
        intro b hb
        simpa using Nat.le_trans (Nat.le_of_not_lt hlt) (ha b hb)
      have hrest := ih has
      rw [hnone, List.nil_append] at hrest
      have hsame : rank a < n + 1 ↔ rank a = n := by omega
      simp only [List.filter_cons, decide_eq_true_iff, hlt, if_false, hnone, List.nil_append,
        hsame, hrest]

/-- A sort leaves the entries of one rank as they were. -/
theorem filter_mergeSort (as : List α) (n : Nat) :
    (as.mergeSort fun a b => rank a ≤ rank b).filter (fun a => rank a = n) =
      as.filter fun a => rank a = n := by
  have htrans : ∀ a b c : α, decide (rank a ≤ rank b) = true → decide (rank b ≤ rank c) = true →
      decide (rank a ≤ rank c) = true := by
    intro a b c hab hbc
    exact decide_eq_true (Nat.le_trans (of_decide_eq_true hab) (of_decide_eq_true hbc))
  have htotal : ∀ a b : α, (decide (rank a ≤ rank b) || decide (rank b ≤ rank a)) = true := by
    intro a b
    simpa using Nat.le_total (rank a) (rank b)
  have hequal : (as.filter fun a => rank a = n).Pairwise
      fun a b => decide (rank a ≤ rank b) = true := by
    refine List.pairwise_of_forall_mem_list fun a ha b hb => decide_eq_true ?_
    have hrank := of_decide_eq_true (List.mem_filter.mp ha).2
    exact Nat.le_of_eq (hrank.trans (of_decide_eq_true (List.mem_filter.mp hb).2).symm)
  have hsublist := (List.sublist_mergeSort htrans htotal hequal List.filter_sublist).filter
    fun a => rank a = n
  rw [List.filter_filter, show (fun a => decide (rank a = n) && decide (rank a = n)) =
    fun a => decide (rank a = n) from funext fun a => Bool.and_self _] at hsublist
  exact (hsublist.eq_of_length ((List.mergeSort_perm as _).filter _).length_eq.symm).symm

end Rank

/-- Sorting by severity puts the risks of each severity, as they were, behind the worse ones. -/
theorem Risk.sortBySeverity_eq (risks : List Risk) :
    sortBySeverity risks =
      (Vocabulary.all (α := Severity)).flatMap fun severity =>
        risks.filter fun risk => risk.severity = severity := by
  have hsorted : (sortBySeverity risks).Pairwise
      fun a b => a.severity.rank ≤ b.severity.rank := by
    refine (List.pairwise_mergeSort ?_ ?_ risks).imp fun h => of_decide_eq_true h
    · intro a b c hab hbc
      exact decide_eq_true (Nat.le_trans (of_decide_eq_true hab) (of_decide_eq_true hbc))
    · intro a b
      simpa using Nat.le_total a.severity.rank b.severity.rank
  -- sorting is stable, so that the risks of one severity keep their order
  have hclass : ∀ severity : Severity, (sortBySeverity risks).filter
      (fun risk => risk.severity.rank = severity.rank) =
        risks.filter fun risk => risk.severity = severity := by
    intro severity
    refine (filter_mergeSort risks severity.rank).trans (List.filter_congr fun risk _ => ?_)
    cases severity <;> cases risk.severity <;> rfl
  have hall : (sortBySeverity risks).filter (fun risk => risk.severity.rank < 4) =
      sortBySeverity risks := by
    refine List.filter_eq_self.mpr fun risk _ => decide_eq_true ?_
    cases risk.severity <;> decide
  have hnone : (sortBySeverity risks).filter (fun risk => risk.severity.rank < 0) = [] :=
    List.filter_eq_nil_iff.mpr fun risk _ => by simp
  calc sortBySeverity risks
      = (sortBySeverity risks).filter (fun risk => risk.severity.rank < 4) := hall.symm
    _ = risks.filter (fun risk => risk.severity = .critical) ++
          risks.filter (fun risk => risk.severity = .high) ++
          risks.filter (fun risk => risk.severity = .medium) ++
          risks.filter (fun risk => risk.severity = .low) := by
      rw [filter_lt_succ hsorted 3, filter_lt_succ hsorted 2, filter_lt_succ hsorted 1,
        filter_lt_succ hsorted 0, hnone, List.nil_append]
      exact congr (congrArg _ (congr (congrArg _ (congr (congrArg _ (hclass .critical))
        (hclass .high))) (hclass .medium))) (hclass .low)
    _ = _ := by
      simp [Vocabulary.all]

/-! ## Rules -/

namespace RiskRule

/-- The category and the severity of the rule exist. -/
def IsProper (rule : RiskRule) : Prop :=
  (∃ category, rule.category = .known category) ∧ ∃ severity, rule.severity = .known severity

/-- The risk is what the rule finds in a context. -/
structure Finds (ctx : RiskContext) (rule : RiskRule) (risk : Risk) : Prop where
  holds : rule.condition ctx = .ok true
  id : risk.id = .str s!"risk-{rule.id.display}"
  ruleId : risk.ruleId = rule.id
  name : risk.name = rule.name
  category : rule.category = .known risk.category
  severity : rule.severity = .known risk.severity
  description : risk.description = .str (describe rule.name ctx.affectedAreas risk.severity)
  affectedAreas : risk.affectedAreas = ctx.affectedAreas.map Json.str
  mitigation : risk.mitigation = rule.mitigation
  isBlocking : risk.isBlocking = rule.isBlocking

variable {ctx : RiskContext} {rule : RiskRule} {rules : List RiskRule}

/-- The rules of a severity whose condition holds, in their order. -/
def holding (rules : List RiskRule) (ctx : RiskContext) (severity : Severity) : List RiskRule :=
  rules.filter fun rule => rule.severity = .known severity ∧ rule.condition ctx = .ok true

/-- A rule of that severity which holds is among those that hold. -/
theorem holding_cons_of_pos {severity : Severity}
    (h : rule.severity = .known severity ∧ rule.condition ctx = .ok true) :
    holding (rule :: rules) ctx severity = rule :: holding rules ctx severity :=
  List.filter_cons_of_pos (decide_eq_true h)

/-- Any other rule is not. -/
theorem holding_cons_of_neg {severity : Severity}
    (h : ¬ (rule.severity = .known severity ∧ rule.condition ctx = .ok true)) :
    holding (rule :: rules) ctx severity = holding rules ctx severity :=
  List.filter_cons_of_neg fun heq => h (of_decide_eq_true heq)

/-- A rule that does not hold finds nothing. -/
theorem find_of_not (h : rule.condition ctx = .ok false) : rule.find ctx = .ok none := by
  unfold find
  rw [h]
  rfl

/-- A proper rule that holds finds its risk. -/
theorem find_of_holds (hproper : rule.IsProper) (hareas : ctx.checkAreas = .ok ())
    (h : rule.condition ctx = .ok true) :
    ∃ risk, rule.find ctx = .ok (some risk) ∧ rule.Finds ctx risk := by
  obtain ⟨⟨category, hcategory⟩, severity, hseverity⟩ := hproper
  refine ⟨rule.riskOf category severity ctx, ?_, h, rfl, rfl, rfl, hcategory, hseverity, rfl, rfl,
    rfl, rfl⟩
  unfold find
  rw [h, hcategory, hseverity, hareas]
  rfl

/-- Before they are sorted, the risks of each severity are found by the rules of that severity, one
by one. -/
theorem mapM_find (hproper : ∀ rule ∈ rules, rule.IsProper)
    (hread : ∀ rule ∈ rules, ∃ holds, rule.condition ctx = .ok holds)
    (hareas : ctx.checkAreas = .ok ()) :
    ∃ found, rules.mapM (find ctx) = .ok found ∧ ∀ severity : Severity,
      List.Forall₂ (Finds ctx) (holding rules ctx severity)
        ((found.filterMap fun risk => risk).filter fun risk => risk.severity = severity) := by
  -- rule by rule, what is found of a severity are the rules of it that hold
  induction rules with
  | nil => exact ⟨[], rfl, fun _ => .nil⟩
  | cons rule rules ih =>
    obtain ⟨hfirst, hrest⟩ := List.forall_mem_cons.mp hproper
    obtain ⟨⟨holds, hholds⟩, hreads⟩ := List.forall_mem_cons.mp hread
    obtain ⟨found, hfound, hall⟩ := ih hrest hreads
    cases holds with
    | false =>
      refine ⟨none :: found, ?_, fun severity => ?_⟩
      · rw [List.mapM_cons, find_of_not hholds, hfound]
        rfl
      · rw [holding_cons_of_neg (by simp [hholds])]
        exact hall severity
    | true =>
      obtain ⟨risk, hrisk, hfinds⟩ := find_of_holds hfirst hareas hholds
      refine ⟨some risk :: found, ?_, fun severity => ?_⟩
      · rw [List.mapM_cons, hrisk, hfound]
        rfl
      · have hcons : ((some risk :: found).filterMap fun risk => risk) =
            risk :: found.filterMap fun risk => risk := rfl
        have hiff : (rule.severity = .known severity ∧ rule.condition ctx = .ok true) ↔
            risk.severity = severity := by
          rw [hholds, hfinds.severity, Tag.known.injEq]
          exact and_iff_left rfl
        rw [hcons]
        by_cases hsame : risk.severity = severity
        · rw [holding_cons_of_pos (hiff.mpr hsame), List.filter_cons_of_pos (by simpa using hsame)]
          exact .cons hfinds (hall severity)
        · rw [holding_cons_of_neg fun h => hsame (hiff.mp h),
            List.filter_cons_of_neg (by simpa using hsame)]
          exact hall severity

/-- **One risk for each rule that finds something.** Where no condition faults, rules whose category
and severity exist are answered with what they find, worst first and in the order of the rules within
one severity. -/
theorem assess_finds (hproper : ∀ rule ∈ rules, rule.IsProper)
    (hread : ∀ rule ∈ rules, ∃ holds, rule.condition ctx = .ok holds)
    (hareas : ctx.checkAreas = .ok ()) :
    ∃ risks, assess rules ctx = .ok risks ∧
      List.Forall₂ (Finds ctx) (Vocabulary.all.flatMap (holding rules ctx)) risks := by
  obtain ⟨found, hfound, hall⟩ := mapM_find hproper hread hareas
  refine ⟨Risk.sortBySeverity (found.filterMap fun risk => risk), ?_, ?_⟩
  · unfold assess
    rw [hfound]
    rfl
  · rw [Risk.sortBySeverity_eq]
    refine List.rel_flatMap (R := Eq) (List.forall₂_same.mpr fun _ _ => rfl) ?_
    intro severity _ heq
    subst heq
    exact hall severity

end RiskRule

end ChangeImpact
