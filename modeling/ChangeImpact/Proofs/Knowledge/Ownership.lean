import Mathlib.Data.List.TakeWhile
import ChangeImpact.Knowledge.Basic
import ChangeImpact.Proofs.Checked
import ChangeImpact.Proofs.Text.Search

/-!
# Whose file it is

A path belongs to the first module with a pattern that covers it. A pattern covers the paths that it
describes, and a pattern that names a directory, with or without `/*` or `/**` behind it, covers the
directory and everything below it: `Covers` is this rule.

What is looked at instead of the directory that a pattern names is all that stands before its first
star (`directoryOf`). For a pattern that names a directory this is the directory (`directoryOf_eq`); any
other pattern overreaches by it:

> `ownerChecked_isFirst`: a path that is covered by a module has an owner, at the latest that one; and
> the owner is the first module that covers the path, or there is none, unless a pattern overreaches.

Overreaching takes files away from the modules that they belong to (`owner_overreaches`).
-/

namespace ChangeImpact

/-! ## Literal patterns -/

namespace Glob

/-- The piece stands for itself. -/
def Piece.isLiteral : Piece → Bool
  | .literal _ => true
  | _ => false

/-- The pattern has no wildcard: everything in it stands for itself. -/
def IsLiteral (pattern : List Char) : Prop := ∀ piece ∈ pieces pattern, piece.isLiteral = true

instance (pattern : List Char) : Decidable (IsLiteral pattern) :=
  inferInstanceAs (Decidable (∀ piece ∈ pieces pattern, piece.isLiteral = true))

/-- A set is never a literal character. -/
theorem isLiteral_setOf (inside : List Char) : (setOf inside).isLiteral = false := by
  unfold setOf
  dsimp only
  split <;> rfl

/-- A star is a wildcard, except within brackets, which are one as well. -/
theorem IsLiteral.not_star {pattern : List Char} (h : IsLiteral pattern) : '*' ∉ pattern := by
  unfold IsLiteral pieces at h
  induction pattern with
  | nil => exact List.not_mem_nil
  | cons c cs ih =>
    unfold piecesFrom at h
    have hrest : ∀ first, (∀ piece ∈ first :: piecesFrom 0 cs, piece.isLiteral = true) →
        first.isLiteral = true ∧ '*' ∉ cs :=
      fun first hall => ⟨hall first (List.mem_cons_self ..),
        ih fun piece hpiece => hall piece (List.mem_cons_of_mem _ hpiece)⟩
    -- stars, question marks and sets give pieces that are not literal
    split at h
    next => cases (hrest _ h).1
    next hstar =>
      have hc : '*' ≠ c := fun heq => hstar (beq_iff_eq.mpr heq.symm)
      rw [List.mem_cons, not_or]
      refine ⟨hc, ?_⟩
      split at h
      next => cases (hrest _ h).1
      next =>
        split at h
        next =>
          split at h
          next inside _ _ =>
            have hset := h (setOf inside) (List.mem_cons_self ..)
            rw [isLiteral_setOf] at hset
            cases hset
          next => exact (hrest _ h).2
        next => exact (hrest _ h).2

end Glob

namespace Text

theorem dropEnd_concat {p : Char → Bool} {c : Char} (h : p c = true) (cs : List Char) :
    dropEnd p (cs ++ [c]) = dropEnd p cs := by
  induction cs with
  | nil => simp [dropEnd, h]
  | cons d cs ih => rw [List.cons_append, dropEnd, dropEnd, ih]

end Text

/-! ## Patterns -/

namespace Module

/-- The path is the directory, or lies below it. -/
def IsAtOrBelow (directory path : List Char) : Prop := path = directory ∨ directory ++ ['/'] <+: path

instance (directory path : List Char) : Decidable (IsAtOrBelow directory path) :=
  inferInstanceAs (Decidable (_ ∨ _))

/-- The pattern names the directory: it has no wildcard, or none but a star or two behind the last slash.
Slashes at the end of a directory do not count. -/
inductive NamesDirectory : List Char → List Char → Prop
  | itself {directory : List Char} (h : Glob.IsLiteral directory) :
    NamesDirectory directory (Text.dropEnd (· == '/') directory)
  | inside {directory : List Char} (h : Glob.IsLiteral directory) :
    NamesDirectory (directory ++ ['/', '*']) (Text.dropEnd (· == '/') directory)
  | below {directory : List Char} (h : Glob.IsLiteral directory) :
    NamesDirectory (directory ++ ['/', '*', '*']) (Text.dropEnd (· == '/') directory)

/-- The pattern describes the path, or names a directory that the path is or lies below. -/
def Covers (pattern path : List Char) : Prop :=
  Glob.matchPieces (Glob.pieces pattern) path = true ∨
    ∃ directory, NamesDirectory pattern directory ∧ directory ≠ [] ∧ IsAtOrBelow directory path

/-- The pattern neither describes the path nor names a directory, but the path is what stands before the
first star of the pattern, or lies below it. -/
structure Overreaches (pattern path : List Char) : Prop where
  described : Glob.matchPieces (Glob.pieces pattern) path = false
  named : ∀ directory, ¬ NamesDirectory pattern directory
  nonempty : directoryOf pattern ≠ []
  below : IsAtOrBelow (directoryOf pattern) path

variable {pattern directory path : List Char}

/-- What stands before the first star is the directory that is named. -/
theorem NamesDirectory.directoryOf_eq (h : NamesDirectory pattern directory) :
    directoryOf pattern = directory := by
  have hbefore : ∀ {directory : List Char}, Glob.IsLiteral directory →
      ∀ c ∈ directory, (c != '*') = true :=
    fun hliteral c hc => bne_iff_ne.mpr fun heq => hliteral.not_star (heq ▸ hc)
  have hslash : ∀ {directory : List Char}, Glob.IsLiteral directory → ∀ rest,
      directoryOf (directory ++ '/' :: '*' :: rest) = Text.dropEnd (· == '/') directory := by
    intro directory hliteral rest
    unfold directoryOf
    rw [List.takeWhile_append_of_pos (hbefore hliteral), List.takeWhile_cons_of_pos (by decide),
      List.takeWhile_cons_of_neg (by decide), Text.dropEnd_concat (by decide)]
  cases h with
  | itself hliteral =>
    unfold directoryOf
    rw [List.takeWhile_eq_self_iff.mpr (hbefore hliteral)]
  | inside hliteral => exact hslash hliteral []
  | below hliteral => exact hslash hliteral ['*']

/-- A pattern that names a directory has no wildcard, or a star at its end. -/
theorem NamesDirectory.isLiteral_or_star (h : NamesDirectory pattern directory) :
    Glob.IsLiteral pattern ∨ pattern.getLast? = some '*' := by
  cases h with
  | itself hliteral => exact Or.inl hliteral
  | inside => exact Or.inr (by simp)
  | below => exact Or.inr (by simp)

/-- Being within a directory means to be at it or below it. -/
theorem isWithin_iff : isWithin directory path = true ↔ IsAtOrBelow directory path := by
  unfold isWithin IsAtOrBelow
  rw [Bool.or_eq_true, beq_iff_eq, Text.startsWith_iff]

/-- A pattern claims what it covers and what it overreaches to. -/
theorem claims_iff : claims pattern path = true ↔ Covers pattern path ∨ Overreaches pattern path := by
  have hleads : (!(directoryOf pattern).isEmpty && isWithin (directoryOf pattern) path) = true ↔
      directoryOf pattern ≠ [] ∧ IsAtOrBelow (directoryOf pattern) path := by
    rw [Bool.and_eq_true, isWithin_iff, Bool.not_eq_true', List.isEmpty_eq_false_iff]
  unfold claims
  rw [Bool.or_eq_true, hleads, Glob.accepts_eq_matchPieces]
  constructor
  · intro hgiven
    cases hglob : Glob.matchPieces (Glob.pieces pattern) path with
    | true => exact Or.inl (Or.inl hglob)
    | false =>
      obtain ⟨hne, hbelow⟩ := hgiven.resolve_left (by rw [hglob]; exact Bool.false_ne_true)
      -- what the directory part accepts is meant if the pattern is a directory's, and too much if not
      by_cases hnames : ∃ directory, NamesDirectory pattern directory
      · obtain ⟨directory, hnames⟩ := hnames
        rw [hnames.directoryOf_eq] at hne hbelow
        exact Or.inl (Or.inr ⟨directory, hnames, hne, hbelow⟩)
      · exact Or.inr ⟨hglob, not_exists.mp hnames, hne, hbelow⟩
  · intro hgiven
    rcases hgiven with (hglob | ⟨directory, hnames, hne, hbelow⟩) | hover
    · exact Or.inl hglob
    · rw [hnames.directoryOf_eq]
      exact Or.inr ⟨hne, hbelow⟩
    · exact Or.inr ⟨hover.nonempty, hover.below⟩

/-! ## Modules -/

/-- The path patterns of the module are texts. -/
def HasTextPatterns (m : Module) : Prop := ∃ patterns : List String, m.paths = .arr (patterns.map .str)

/-- The module has a pattern that covers the path, where spellings do not matter. -/
def CoversPath (m : Module) (path : String) : Prop :=
  ∃ pattern ∈ m.patterns, Covers (PathName.normal pattern.toList) (PathName.normal path.toList)

/-- The module has a pattern that overreaches to the path. -/
def OverreachesTo (m : Module) (path : String) : Prop :=
  ∃ pattern ∈ m.patterns, Overreaches (PathName.normal pattern.toList) (PathName.normal path.toList)

variable {m : Module}

/-- A module owns what it covers, and what one of its patterns overreaches to. -/
theorem owns_iff {path : String} : m.owns path = true ↔ m.CoversPath path ∨ m.OverreachesTo path := by
  unfold owns CoversPath OverreachesTo
  simp only [List.any_eq_true, claims_iff, and_or_left, exists_or]

/-- Patterns that are texts are all read. -/
theorem patterns_eq {patterns : List String} (h : m.paths = .arr (patterns.map .str)) :
    m.patterns = patterns := by
  unfold Module.patterns
  rw [h]
  show (patterns.map Json.str).filterMap Json.text? = patterns
  rw [List.filterMap_map]
  exact List.filterMap_some

/-- With such patterns looking for an owner never faults. -/
theorem ownsChecked_eq (h : m.HasTextPatterns) (path : String) :
    m.ownsChecked path = .ok (m.owns path) := by
  obtain ⟨patterns, hpatterns⟩ := h
  have hgo : ownsChecked.go path (patterns.map Json.str) = .ok (patterns.any fun pattern =>
      claims (PathName.normal pattern.toList) (PathName.normal path.toList)) := by
    clear hpatterns
    induction patterns with
    | nil => rfl
    | cons pattern rest ih =>
      rw [List.map_cons, List.any_cons, ownsChecked.go]
      show (if _ then _ else _) = _
      split
      next hclaims => rw [hclaims]; rfl
      next hclaims => simp [hclaims, ih]
  unfold ownsChecked owns
  rw [patterns_eq hpatterns, hpatterns]
  exact hgo

end Module

/-! ## Owners -/

namespace Knowledge

variable {k : Knowledge}

/-- The answer is the first module that covers the path; none if there is no such module. -/
def IsFirstToCover (k : Knowledge) (path : String) : Option Module → Prop
  | some m => ∃ before after, k.modules = before ++ m :: after ∧ m.CoversPath path ∧
      ∀ other ∈ before, ¬ other.CoversPath path
  | none => ∀ m ∈ k.modules, ¬ m.CoversPath path

/-- Nor does it in knowledge that has no others. -/
theorem ownerChecked_eq (h : ∀ m ∈ k.modules, m.HasTextPatterns) (path : String) :
    k.ownerChecked (.str path) = .ok (k.owner? path) := by
  have hgo : ∀ modules : List Module, (∀ m ∈ modules, m.HasTextPatterns) →
      ownerChecked.go path modules = .ok (modules.find? fun m => m.owns path) := by
    intro modules hmodules
    induction modules with
    | nil => rfl
    | cons m rest ih =>
      obtain ⟨hm, hrest⟩ := List.forall_mem_cons.mp hmodules
      rw [ownerChecked.go, Module.ownsChecked_eq hm, Checked.ok_bind, List.find?_cons]
      cases hm : m.owns path with
      | true => rfl
      | false => exact ih hrest
  exact hgo k.modules h

/-- **The first to cover a path owns it.** -/
theorem ownerChecked_isFirst (htexts : ∀ m ∈ k.modules, m.HasTextPatterns) (path : String) :
    k.ownerChecked (.str path) = .ok (k.owner? path) ∧
    (∀ before m after, k.modules = before ++ m :: after → m.CoversPath path →
      ∃ owner ∈ before ++ [m], k.owner? path = some owner) ∧
    ((∀ m ∈ k.modules, ¬ m.OverreachesTo path) → k.IsFirstToCover path (k.owner? path)) := by
  refine ⟨ownerChecked_eq htexts path, ?_, ?_⟩
  · -- whoever covers the path owns it, so that nobody behind it is asked
    intro before m after hmodules hcovers
    have hfirst : (m :: after).find? (fun m => m.owns path) = some m :=
      List.find?_cons_of_pos (Module.owns_iff.mpr (Or.inl hcovers))
    unfold owner?
    rw [hmodules, List.find?_append, hfirst]
    cases hfound : before.find? fun m => m.owns path with
    | none => exact ⟨m, List.mem_append_right _ (List.mem_singleton_self m), rfl⟩
    | some owner => exact ⟨owner, List.mem_append_left _ (List.mem_of_find?_eq_some hfound), rfl⟩
  · intro hreach
    have howns : ∀ m ∈ k.modules, m.owns path = true ↔ m.CoversPath path := by
      intro m hm
      rw [Module.owns_iff, or_iff_left (hreach m hm)]
    cases howner : k.owner? path with
    | none =>
      intro m hm hcovers
      exact List.find?_eq_none.mp howner m hm ((howns m hm).mpr hcovers)
    | some m =>
      obtain ⟨hm, before, after, hmodules, hbefore⟩ := List.find?_eq_some_iff_append.mp howner
      refine ⟨before, after, hmodules, (howns m ?_).mp hm, fun other hother hcovers => ?_⟩
      · rw [hmodules]
        exact List.mem_append_right _ (List.mem_cons_self ..)
      · have hmem : other ∈ k.modules := by
          rw [hmodules]
          exact List.mem_append_left _ hother
        have hnot := hbefore other hother
        rw [(howns other hmem).mpr hcovers] at hnot
        cases hnot

/-- Scripts in some directories, and web pages in one of them. -/
def workshop : Knowledge := { Knowledge.empty with
  modules := [⟨"scripts", "Scripts", .arr ["tools/*.py", "src/[ab]*.py"]⟩,
    ⟨"web", "Web", .arr [".\\src/web/"]⟩, ⟨"rest", "Rest", .arr ["**"]⟩] }

theorem ownerChecked_isFirst_workshop :
    (∀ m ∈ workshop.modules, m.HasTextPatterns) ∧
    (∀ m ∈ workshop.modules, ¬ m.OverreachesTo "src\\web/app.js") ∧
    workshop.owner? "src\\web/app.js" = some ⟨"web", "Web", .arr [".\\src/web/"]⟩ ∧
    workshop.IsFirstToCover "src\\web/app.js" (workshop.owner? "src\\web/app.js") := by
  have htexts : ∀ m ∈ workshop.modules, m.HasTextPatterns :=
    List.forall_mem_cons.mpr ⟨⟨["tools/*.py", "src/[ab]*.py"], rfl⟩,
      List.forall_mem_cons.mpr ⟨⟨[".\\src/web/"], rfl⟩, List.forall_mem_singleton.mpr ⟨["**"], rfl⟩⟩⟩
  have hreach : ∀ m ∈ workshop.modules, ¬ m.OverreachesTo "src\\web/app.js" := by
    have hscripts : ∀ pattern ∈ ["tools/*.py", "src/[ab]*.py"],
        ¬ Module.IsAtOrBelow (Module.directoryOf (PathName.normal pattern.toList))
          (PathName.normal "src\\web/app.js".toList) := by decide +kernel
    have hweb : Glob.IsLiteral (PathName.normal ".\\src/web/".toList) := by decide +kernel
    have hrest : Module.directoryOf (PathName.normal "**".toList) = [] := by decide +kernel
    refine List.forall_mem_cons.mpr ⟨?_, List.forall_mem_cons.mpr ⟨?_, List.forall_mem_singleton.mpr ?_⟩⟩
    · intro hreaches
      obtain ⟨pattern, hpattern, hover⟩ := hreaches
      exact hscripts pattern hpattern hover.below
    · intro hreaches
      obtain ⟨pattern, hpattern, hover⟩ := hreaches
      obtain rfl : pattern = ".\\src/web/" := List.mem_singleton.mp hpattern
      exact hover.named _ (.itself hweb)
    · intro hreaches
      obtain ⟨pattern, hpattern, hover⟩ := hreaches
      obtain rfl : pattern = "**" := List.mem_singleton.mp hpattern
      exact hover.nonempty hrest
  have howner : workshop.owner? "src\\web/app.js" = some ⟨"web", "Web", .arr [".\\src/web/"]⟩ := by
    decide +kernel
  obtain ⟨-, -, hfirst⟩ := ownerChecked_isFirst htexts "src\\web/app.js"
  exact ⟨htexts, hreach, howner, hfirst hreach⟩

/-- A glob for the scripts of a directory, and the module of the web pages below that directory. -/
def toolbox : Knowledge := { Knowledge.empty with
  modules := [⟨"scripts", "Scripts", .arr ["src/*.py"]⟩, ⟨"web", "Web", .arr ["src/web/**"]⟩] }

/-- The glob takes the web pages away from the module that they belong to. -/
theorem owner_overreaches :
    (∀ m ∈ toolbox.modules, m.HasTextPatterns) ∧
    toolbox.ownerChecked (.str "src/web/app.js") =
      .ok (some ⟨"scripts", "Scripts", .arr ["src/*.py"]⟩) ∧
    toolbox.IsFirstToCover "src/web/app.js" (some ⟨"web", "Web", .arr ["src/web/**"]⟩) := by
  refine ⟨?_, by decide +kernel, [_], [], rfl, ?_, ?_⟩
  · exact List.forall_mem_cons.mpr
      ⟨⟨["src/*.py"], rfl⟩, List.forall_mem_singleton.mpr ⟨["src/web/**"], rfl⟩⟩
  · exact ⟨"src/web/**", List.mem_singleton_self _, Or.inl (by decide +kernel)⟩
  · refine List.forall_mem_singleton.mpr fun hcovers => ?_
    obtain ⟨pattern, hpattern, hcovers⟩ := hcovers
    obtain rfl : pattern = "src/*.py" := List.mem_singleton.mp hpattern
    rcases hcovers with hglob | ⟨directory, hnames, -⟩
    · exact absurd hglob (by decide +kernel)
    · rcases hnames.isLiteral_or_star with hliteral | hstar
      · exact absurd hliteral (by decide +kernel)
      · exact absurd hstar (by decide +kernel)

end Knowledge

end ChangeImpact
