import Mathlib.Data.List.Induction
import Mathlib.Data.List.Nodup
import ChangeImpact.Proofs.Risk.Assessing
import ChangeImpact.Risk.Assessor

/-!
# The rules of an assessor

Rules are added and removed in any order, and assessing comes in between. Ids may be given to several
rules, so that a rule is told apart by the place of the call that added it. What a whole sequence of
calls leaves is said by the calls alone: which addition each removal takes back (`taken`) and which
additions remain.

> `run_keepsRules`: at every point of any sequence of calls the rules are the initial ones followed by
> the additions that remain; a removal takes back the earliest one with its id; and assessing gives
> one risk for each rule that finds something, worst first.

`standing` keeps the books in the proof: `standing_append` is what one call does to them, and
`standing_take` is that they hold the additions that remain, whatever the number of calls.
-/

namespace ChangeImpact

instance RiskRule.decidableIsProper (rule : RiskRule) : Decidable rule.IsProper :=
  match hcategory : rule.category, hseverity : rule.severity with
  | .known category, .known severity => isTrue ⟨⟨category, hcategory⟩, severity, hseverity⟩
  | .other _, _ => isFalse fun h => by
    obtain ⟨⟨category, heq⟩, -⟩ := h
    rw [hcategory] at heq
    cases heq
  | .known _, .other _ => isFalse fun h => by
    obtain ⟨-, severity, heq⟩ := h
    rw [hseverity] at heq
    cases heq

namespace Assessor

/-! ## Calls -/

/-- What an assessor may be asked for. -/
inductive Call where
  | add (rule : RiskRule)
  | remove (id : Name)
  | assess (ctx : RiskContext)

namespace Call

/-- The assessor after a call. -/
def apply (assessor : Assessor) : Call → Assessor
  | .add rule => (assessor.add rule).toOption.getD assessor
  | .remove id => assessor.remove id
  | .assess _ => assessor

/-- The rule that a call adds, if it does. -/
def added? : Call → Option RiskRule
  | .add rule => if rule.IsProper then some rule else none
  | .remove _ | .assess _ => none

end Call

/-- The assessor that starts with some rules, after some calls. -/
def after (initial : List RiskRule) (calls : List Call) : Assessor :=
  calls.foldl Call.apply ⟨initial, []⟩

/-- The rules that calls add, each with the place of its call. -/
def additions (calls : List Call) : List (Nat × RiskRule) :=
  calls.zipIdx.filterMap fun (call, place) => call.added?.map fun rule => (place, rule)

/-- Whether an addition has an id. -/
def hasId (id : Name) (entry : Nat × RiskRule) : Bool := entry.2.id.equals id

/-- The additions of the first `n` calls that none of these takes back; `taken` says which call takes
back the addition of which other one. -/
def remaining (calls : List Call) (taken : Nat → Option Nat) (n : Nat) : List (Nat × RiskRule) :=
  (additions (calls.take n)).filter fun entry =>
    (List.range n).all fun place => taken place ≠ some entry.1

/-- The calls are accounted for, `taken` being the additions that they take back. -/
structure Accounts (initial : List RiskRule) (calls : List Call) (taken : Nat → Option Nat) :
    Prop where
  /-- A removal takes back the earliest addition with its id that remains. -/
  takes : ∀ place id, calls[place]? = some (.remove id) →
    taken place = ((remaining calls taken place).find? (hasId id)).map Prod.fst
  /-- Nothing else takes anything back. -/
  keeps : ∀ place, (∀ id, calls[place]? ≠ some (.remove id)) → taken place = none
  /-- At every point the rules are the initial ones and the additions that remain. -/
  rules : ∀ n ≤ calls.length, (after initial (calls.take n)).rules =
    initial ++ (remaining calls taken n).map Prod.snd
  /-- A removal says whether it takes something back. -/
  removed : ∀ place id, calls[place]? = some (.remove id) →
    (after initial (calls.take place)).canRemove id = (taken place).isSome
  /-- Adding faults if and only if the category or the severity does not exist, and then changes
  nothing. -/
  faults : ∀ place rule, calls[place]? = some (.add rule) →
    ((∃ fault, (after initial (calls.take place)).add rule = .error fault) ↔ ¬ rule.IsProper) ∧
      (¬ rule.IsProper →
        after initial (calls.take (place + 1)) = after initial (calls.take place))
  /-- Assessing gives one risk for each rule whose condition holds, worst first and in the order of
  the rules within one severity, unless a condition faults. -/
  assessed : ∀ place ctx, calls[place]? = some (.assess ctx) →
    (∀ rule ∈ (after initial (calls.take place)).rules, ∃ holds, rule.condition ctx = .ok holds) →
    ctx.checkAreas = .ok () →
    ∃ risks, (after initial (calls.take place)).assess ctx = .ok risks ∧
      List.Forall₂ (RiskRule.Finds ctx) (Vocabulary.all.flatMap
        (RiskRule.holding (after initial (calls.take place)).rules ctx)) risks

/-! ## What one call does -/

/-- A proper rule is put behind the others. -/
theorem add_of_isProper (assessor : Assessor) {rule : RiskRule} (h : rule.IsProper) :
    assessor.add rule = .ok { assessor with added := assessor.added ++ [rule] } := by
  obtain ⟨⟨category, hcategory⟩, severity, hseverity⟩ := h
  unfold add
  rw [hcategory, hseverity]

/-- Any other rule is refused. -/
theorem add_of_not_isProper (assessor : Assessor) {rule : RiskRule} (h : ¬ rule.IsProper) :
    ∃ fault, assessor.add rule = .error fault := by
  unfold add
  split
  next value _ => exact ⟨_, rfl⟩
  next value _ => exact ⟨_, rfl⟩
  next category severity hcategory hseverity =>
    exact absurd ⟨⟨category, hcategory⟩, severity, hseverity⟩ h

namespace Call

theorem added_of_isProper {rule : RiskRule} (h : rule.IsProper) : (add rule).added? = some rule :=
  if_pos h

theorem added_of_not_isProper {rule : RiskRule} (h : ¬ rule.IsProper) : (add rule).added? = none :=
  if_neg h

/-- Nothing changes if adding a rule faults. -/
theorem apply_add_of_not_isProper (assessor : Assessor) {rule : RiskRule} (h : ¬ rule.IsProper) :
    (add rule).apply assessor = assessor := by
  obtain ⟨fault, hfault⟩ := add_of_not_isProper assessor h
  show (assessor.add rule).toOption.getD assessor = assessor
  rw [hfault]
  rfl

/-- Adding a proper rule is a call that adds it. -/
theorem apply_add_of_isProper (assessor : Assessor) {rule : RiskRule} (h : rule.IsProper) :
    (add rule).apply assessor = { assessor with added := assessor.added ++ [rule] } := by
  show (assessor.add rule).toOption.getD assessor = _
  rw [add_of_isProper assessor h]
  rfl

end Call

/-- Calls are made one after the other. -/
theorem after_append (initial : List RiskRule) (calls : List Call) (call : Call) :
    after initial (calls ++ [call]) = call.apply (after initial calls) := by
  unfold after
  rw [List.foldl_append]
  rfl

/-- A further call is an addition if it adds a rule, under its own place. -/
theorem additions_append (calls : List Call) (call : Call) :
    additions (calls ++ [call]) =
      additions calls ++ (call.added?.map fun rule => (calls.length, rule)).toList := by
  unfold additions
  rw [List.zipIdx_append, List.filterMap_append, Nat.zero_add]
  cases hadded : call.added? <;> simp [hadded]

/-- The places of additions are those of their calls. -/
theorem additions_places (calls : List Call) :
    ((additions calls).map Prod.fst).Sublist (List.range calls.length) := by
  induction calls using List.reverseRecOn with
  | nil => exact List.Sublist.refl _
  | append_singleton calls call ih =>
    rw [additions_append, List.map_append, List.length_append, List.length_singleton,
      List.range_succ]
    refine ih.append ?_
    cases call.added? with
    | none => exact List.nil_sublist _
    | some rule => exact List.Sublist.refl _

/-- Only proper rules are added. -/
theorem isProper_of_mem_additions {calls : List Call} {entry : Nat × RiskRule}
    (h : entry ∈ additions calls) : entry.2.IsProper := by
  obtain ⟨⟨call, place⟩, -, hadded⟩ := List.mem_filterMap.mp h
  obtain ⟨rule, hrule, rfl⟩ := Option.map_eq_some_iff.mp hadded
  cases call with
  | add other =>
    by_cases hproper : other.IsProper
    · rw [Call.added_of_isProper hproper, Option.some.injEq] at hrule
      exact hrule ▸ hproper
    · rw [Call.added_of_not_isProper hproper] at hrule
      cases hrule
  | remove id => cases hrule
  | assess ctx => cases hrule

/-! ## The books -/

/-- The additions after a call at a place. -/
def book (entries : List (Nat × RiskRule)) (call : Call) (place : Nat) : List (Nat × RiskRule) :=
  match call with
  | .add _ => entries ++ (call.added?.map fun rule => (place, rule)).toList
  | .remove id => entries.eraseP (hasId id)
  | .assess _ => entries

/-- The additions that stand after some calls. -/
def standing (calls : List Call) : List (Nat × RiskRule) :=
  calls.zipIdx.foldl (fun entries (call, place) => book entries call place) []

/-- **One call.** What stands after a further call is what it books. -/
theorem standing_append (calls : List Call) (call : Call) :
    standing (calls ++ [call]) = book (standing calls) call calls.length := by
  unfold standing
  rw [List.zipIdx_append, List.foldl_append, Nat.zero_add]
  rfl

/-- The assessor has the rules that stand in the books. -/
theorem after_eq (initial : List RiskRule) (calls : List Call) :
    after initial calls = ⟨initial, (standing calls).map Prod.snd⟩ := by
  induction calls using List.reverseRecOn with
  | nil => rfl
  | append_singleton calls call ih =>
    rw [after_append, standing_append, ih]
    cases call with
    | add rule =>
      unfold book
      by_cases hproper : rule.IsProper
      · rw [Call.apply_add_of_isProper _ hproper, Call.added_of_isProper hproper]
        simp
      · rw [Call.apply_add_of_not_isProper _ hproper, Call.added_of_not_isProper hproper]
        simp
    | remove id =>
      show Assessor.mk initial (((standing calls).map Prod.snd).eraseP _) = _
      rw [List.eraseP_map]
      rfl
    | assess ctx => rfl

/-- To erase the first entry of a kind is to leave out the place where it is found. -/
theorem eraseP_eq_filter {entries : List (Nat × RiskRule)} (h : (entries.map Prod.fst).Nodup)
    (p : Nat × RiskRule → Bool) :
    entries.eraseP p =
      entries.filter fun entry => (entries.find? p).map Prod.fst ≠ some entry.1 := by
  induction entries with
  | nil => rfl
  | cons entry entries ih =>
    rw [List.map_cons, List.nodup_cons] at h
    by_cases hp : p entry = true
    · have hothers : ∀ other ∈ entries, other.1 ≠ entry.1 := fun other hother heq =>
        h.1 (heq ▸ List.mem_map_of_mem hother)
      rw [List.eraseP_cons_of_pos hp, List.find?_cons_of_pos hp,
        List.filter_cons_of_neg (by simp)]
      refine (List.filter_eq_self.mpr fun other hother => ?_).symm
      simpa using (hothers other hother).symm
    · have hfirst : (entries.find? p).map Prod.fst ≠ some entry.1 := by
        intro heq
        obtain ⟨found, hfound, hplace⟩ := Option.map_eq_some_iff.mp heq
        exact h.1 (hplace ▸ List.mem_map_of_mem (List.mem_of_find?_eq_some hfound))
      rw [List.eraseP_cons_of_neg hp, List.find?_cons_of_neg hp,
        List.filter_cons_of_pos (by simpa using hfirst), ih h.2]

/-- The addition that a call takes back, according to the books. -/
def takenBy (calls : List Call) (place : Nat) : Option Nat :=
  match calls[place]? with
  | some (.remove id) => ((standing (calls.take place)).find? (hasId id)).map Prod.fst
  | _ => none

/-- A removal takes the first rule that stands under its id, if there is one. -/
theorem takenBy_remove {calls : List Call} {place : Nat} {id : Name}
    (h : calls[place]? = some (.remove id)) :
    takenBy calls place = ((standing (calls.take place)).find? (hasId id)).map Prod.fst := by
  unfold takenBy
  rw [h]

/-- No other call takes anything. -/
theorem takenBy_of_ne {calls : List Call} {place : Nat}
    (h : ∀ id, calls[place]? ≠ some (.remove id)) : takenBy calls place = none := by
  unfold takenBy
  split
  next id heq => exact absurd heq (h id)
  next => rfl

/-- One more call: an addition remains if it remained and this call does not take it back, and what
this call adds remains, since only earlier additions are taken back. -/
theorem remaining_succ {calls : List Call} {taken : Nat → Option Nat} {n : Nat} {call : Call}
    (hcall : calls[n]? = some call) (hearlier : ∀ place ≤ n, taken place ≠ some n) :
    remaining calls taken (n + 1) =
      ((remaining calls taken n).filter fun entry => taken n ≠ some entry.1) ++
        (call.added?.map fun rule => (n, rule)).toList := by
  obtain ⟨hn, rfl⟩ := List.getElem?_eq_some_iff.mp hcall
  have hlength : (calls.take n).length = n := List.length_take_of_le (Nat.le_of_lt hn)
  have hall : ∀ entry : Nat × RiskRule,
      ((List.range (n + 1)).all fun place => taken place ≠ some entry.1) =
        (decide (taken n ≠ some entry.1) &&
          (List.range n).all fun place => taken place ≠ some entry.1) := by
    intro entry
    rw [List.range_succ, List.all_append, Bool.and_comm]
    simp
  unfold remaining
  rw [← List.take_append_getElem hn, additions_append, hlength, List.filter_append]
  simp only [hall]
  rw [List.filter_filter]
  refine congrArg _ (List.filter_eq_self.mpr fun entry hentry => ?_)
  obtain ⟨rule, -, rfl⟩ := Option.map_eq_some_iff.mp (Option.mem_toList.mp hentry)
  rw [← hall, List.all_eq_true]
  intro place hplace
  exact decide_eq_true (hearlier place (Nat.le_of_lt_succ (List.mem_range.mp hplace)))

/-- **The books hold what remains**, after any number of the calls. -/
theorem standing_take (calls : List Call) {n : Nat} (h : n ≤ calls.length) :
    standing (calls.take n) = remaining calls (takenBy calls) n := by
  induction n using Nat.strongRecOn with
  | ind n ih =>
  cases n with
  | zero => rfl
  | succ n =>
    have hn : n < calls.length := h
    have hbooks := ih n (Nat.lt_succ_self n) (Nat.le_of_lt hn)
    have hplaces : ∀ place ≤ n, (((standing (calls.take place)).map Prod.fst).Sublist
        (List.range place)) := by
      intro place hplace
      have hlength : (calls.take place).length = place :=
        List.length_take_of_le (Nat.le_trans hplace (Nat.le_of_lt hn))
      rw [ih place (Nat.lt_succ_of_le hplace) (Nat.le_trans hplace (Nat.le_of_lt hn))]
      refine (List.filter_sublist.map Prod.fst).trans ?_
      have hsublist := additions_places (calls.take place)
      rwa [hlength] at hsublist
    -- what a call takes back was added by an earlier one
    have hearlier : ∀ place ≤ n, takenBy calls place ≠ some n := by
      intro place hplace heq
      unfold takenBy at heq
      split at heq
      next id _ =>
        obtain ⟨found, hfound, hat⟩ := Option.map_eq_some_iff.mp heq
        have hmem := (hplaces place hplace).subset
          (List.mem_map_of_mem (List.mem_of_find?_eq_some hfound))
        rw [hat] at hmem
        exact Nat.not_lt.mpr hplace (List.mem_range.mp hmem)
      next => cases heq
    have hcall : calls[n]? = some calls[n] := List.getElem?_eq_getElem hn
    have hlength : (calls.take n).length = n := List.length_take_of_le (Nat.le_of_lt hn)
    rw [remaining_succ hcall hearlier, ← hbooks, ← List.take_append_getElem hn, standing_append,
      hlength]
    cases hkind : calls[n] with
    | add rule =>
      rw [takenBy_of_ne fun id heq => by rw [hcall, hkind] at heq; cases heq]
      rw [List.filter_eq_self.mpr fun entry _ => by simp]
      rfl
    | remove id =>
      rw [hkind] at hcall
      rw [takenBy_remove hcall, ← eraseP_eq_filter ((hplaces n (Nat.le_refl n)).nodup List.nodup_range)]
      exact (List.append_nil _).symm
    | assess ctx =>
      rw [takenBy_of_ne fun id heq => by rw [hcall, hkind] at heq; cases heq]
      rw [List.filter_eq_self.mpr fun entry _ => by simp]
      exact (List.append_nil _).symm

/-! ## Whole sequences of calls -/

/-- At no time is there an improper rule, unless there was one at the start. -/
theorem isProper_of_mem_after {initial : List RiskRule} (h : ∀ rule ∈ initial, rule.IsProper)
    {calls : List Call} {n : Nat} (hn : n ≤ calls.length) {rule : RiskRule}
    (hrule : rule ∈ (after initial (calls.take n)).rules) : rule.IsProper := by
  rw [after_eq, standing_take calls hn] at hrule
  rcases List.mem_append.mp hrule with hinitial | hadded
  · exact h rule hinitial
  · obtain ⟨entry, hentry, rfl⟩ := List.mem_map.mp hadded
    exact isProper_of_mem_additions (List.mem_filter.mp hentry).1

/-- **Rules stay accounted for.** Whatever is asked of an assessor whose initial rules have a category
and a severity, the initial rules stay in front, additions are taken back from the earliest on, and
assessing tells what the rules of the moment find. -/
theorem run_keepsRules {initial : List RiskRule} (h : ∀ rule ∈ initial, rule.IsProper)
    (calls : List Call) : ∃ taken, Accounts initial calls taken := by
  have hplace : ∀ {place : Nat} {call : Call}, calls[place]? = some call → place ≤ calls.length :=
    fun hcall => Nat.le_of_lt (List.getElem?_eq_some_iff.mp hcall).1
  refine ⟨takenBy calls, ?_, ?_, ?_, ?_, ?_, ?_⟩
  · -- a removal takes the rule with that id that stands after the calls before it
    intro place id hcall
    rw [takenBy_remove hcall, standing_take calls (hplace hcall)]
  · exact fun place hne => takenBy_of_ne hne
  · intro n hn
    rw [after_eq, standing_take calls hn]
    rfl
  · intro place id hcall
    rw [after_eq, takenBy_remove hcall, Option.isSome_map, canRemove, List.any_map]
    rw [Bool.eq_iff_iff, List.any_eq_true, List.find?_isSome]
    exact Iff.rfl
  · intro place rule hcall
    refine ⟨⟨fun hfault hproper => ?_, add_of_not_isProper _⟩, fun hnot => ?_⟩
    · obtain ⟨fault, hfault⟩ := hfault
      rw [add_of_isProper _ hproper] at hfault
      cases hfault
    · obtain ⟨hlt, heq⟩ := List.getElem?_eq_some_iff.mp hcall
      rw [← List.take_append_getElem hlt, after_append, heq, Call.apply_add_of_not_isProper _ hnot]
  · intro place ctx hcall hread hareas
    exact RiskRule.assess_finds (fun rule hrule => isProper_of_mem_after h (hplace hcall) hrule) hread
      hareas

/-- A rule with one id for all, told apart by its name, that finds something or does not. -/
def ruleNamed (name : String) (severity : Tag Severity) (finds : Bool) : RiskRule where
  id := "X"
  name := name
  category := .known .testing
  severity := severity
  mitigation := "look twice"
  isBlocking := .bool false
  condition _ := .ok finds

/-- A change that says nothing and touches nothing. -/
def stillness : RiskContext :=
  .ofRecords (.obj []) (.obj [("entities", .arr [])])
    (.obj [("primary_modules", .arr []), ("primary_files", .arr [])]) []

/-- Two rules that share their id with all that are added. -/
def twins : List RiskRule :=
  [ruleNamed "first" (.known .low) true, ruleNamed "second" (.known .high) true]

/-- Rules are added, one of them without a severity that exists, and removed until none is left. -/
def upheaval : List Call :=
  [.add (ruleNamed "third" (.known .low) true), .add (ruleNamed "bad" (.other "worst") true),
    .add (ruleNamed "fourth" (.known .critical) true), .add (ruleNamed "fifth" (.known .low) false),
    .remove "Y", .remove "X", .add (ruleNamed "sixth" (.known .high) true), .assess stillness,
    .remove "X", .remove "X", .remove "X", .remove "X"]

theorem run_keepsRules_upheaval :
    (∀ rule ∈ twins, rule.IsProper) ∧
      (after twins (upheaval.take 7)).rules.map RiskRule.name =
        ["first", "second", "fourth", "fifth", "sixth"] ∧
      (after twins upheaval).rules.map RiskRule.name = ["first", "second"] ∧
      (∃ taken, Accounts twins upheaval taken) ∧
      ∃ risks, (after twins (upheaval.take 7)).assess stillness = .ok risks ∧
        risks.map Risk.name = ["fourth", "second", "sixth", "first"] := by
  have hproper : ∀ rule ∈ twins, rule.IsProper := by decide
  have hread : ∀ rule ∈ (after twins (upheaval.take 7)).rules,
      (rule.condition stillness).isOk = true := by decide
  have hholding : (Vocabulary.all.flatMap (RiskRule.holding
      (after twins (upheaval.take 7)).rules stillness)).map RiskRule.name =
        ["fourth", "second", "sixth", "first"] := by decide
  obtain ⟨taken, haccounts⟩ := run_keepsRules hproper upheaval
  obtain ⟨risks, hrisks, hfinds⟩ := haccounts.assessed 7 stillness rfl
    (fun rule hrule => by
      have hok := hread rule hrule
      cases hcondition : rule.condition stillness with
      | error fault => rw [hcondition] at hok; cases hok
      | ok holds => exact ⟨holds, rfl⟩) (by decide)
  have hnames : List.Forall₂ Eq (risks.map Risk.name) (List.map RiskRule.name
      (Vocabulary.all.flatMap (RiskRule.holding (after twins (upheaval.take 7)).rules stillness))) := by
    rw [List.forall₂_map_left_iff, List.forall₂_map_right_iff]
    exact hfinds.flip.imp fun _ _ h => h.name
  rw [List.forall₂_eq_eq_eq, hholding] at hnames
  exact ⟨hproper, by decide, by decide, ⟨taken, haccounts⟩, risks, hrisks, hnames⟩

end Assessor

end ChangeImpact
