import Mathlib.Data.List.Nodup
import ChangeImpact.Proofs.Json.Names
import ChangeImpact.Scope.Expansion

/-!
# The import graph of a project

A project's knowledge says of each file which files it imports. An expansion asks both ways, for the
importers of a file and for what it imports, and the answers are found in different manners: in all
lists of imports, and under the file's own name.

> `exists_mem_adjacentFiles_iff`: what is found are the files of which one imports the other.
-/

namespace ChangeImpact.Knowledge

/-- The imports are a map from texts to lists of texts. -/
structure ImportMap (k : Knowledge) : Prop where
  files : (k.imports.map Prod.fst).Nodup
  names : ∀ entry ∈ k.imports, ∀ file ∈ entry.2, file.IsText

/-- File `a` imports file `b`. -/
def Imports (k : Knowledge) (a b : Name) : Prop :=
  ∃ entry ∈ k.imports, Json.str entry.1 = a ∧ b ∈ entry.2

/-- One of two files imports the other one. -/
def Adjacent (k : Knowledge) (a b : Name) : Prop := k.Imports a b ∨ k.Imports b a

/-- One of two files that have a name imports the other one. -/
def AdjacentNamed (k : Knowledge) (a b : Name) : Prop :=
  a.truthy = true ∧ b.truthy = true ∧ k.Adjacent a b

variable {k : Knowledge}

/-- Whatever is next to a file is a text. -/
theorem ImportMap.isText (hk : k.ImportMap) {a b : Name} (h : k.Adjacent a b) : b.IsText := by
  rcases h with ⟨entry, hentry, -, hb⟩ | ⟨entry, -, rfl, -⟩
  · exact hk.names entry hentry b hb
  · exact Json.isText_str entry.1

theorem mem_importersOf (hk : k.ImportMap) {a b : Name} : b ∈ k.importersOf a ↔ k.Imports b a := by
  unfold importersOf Imports
  rw [List.mem_map]
  constructor
  · intro hgiven
    obtain ⟨entry, hentry, rfl⟩ := hgiven
    obtain ⟨hentry, hcontains⟩ := List.mem_filter.mp hentry
    obtain ⟨file, hfile, heq⟩ := List.contains_iff_exists_mem_beq.mp hcontains
    have heq : file = a := (hk.names entry hentry file hfile).eq_of_beq (BEq.symm heq)
    exact ⟨entry, hentry, rfl, heq ▸ hfile⟩
  · intro hgiven
    obtain ⟨entry, hentry, rfl, ha⟩ := hgiven
    have hcontains := List.contains_iff_exists_mem_beq.mpr ⟨a, ha, BEq.rfl⟩
    exact ⟨entry, List.mem_filter.mpr ⟨hentry, hcontains⟩, rfl⟩

theorem mem_importsOf (hk : k.ImportMap) {a b : Name} : b ∈ k.importsOf a ↔ k.Imports a b := by
  unfold importsOf Imports
  constructor
  · intro h
    cases hfind : k.imports.find? fun entry => Json.str entry.1 == a with
    | none =>
      rw [hfind] at h
      cases h
    | some entry =>
      rw [hfind] at h
      have hfile : (Json.str entry.1 == a) = true := by simpa using List.find?_some hfind
      exact ⟨entry, List.mem_of_find?_eq_some hfind, (Json.beq_str_iff.mp hfile).symm, h⟩
  · intro hgiven
    obtain ⟨entry, hentry, rfl, hb⟩ := hgiven
    cases hfind : k.imports.find? fun other => Json.str other.1 == Json.str entry.1 with
    | none => exact absurd BEq.rfl (List.find?_eq_none.mp hfind entry hentry)
    | some other =>
      -- no two entries are about one file
      have hfile : (Json.str other.1 == Json.str entry.1) = true := by
        simpa using List.find?_some hfind
      have hkey : entry.1 = other.1 := Json.str.inj (Json.beq_str_iff.mp hfile)
      have heq := List.inj_on_of_nodup_map hk.files hentry (List.mem_of_find?_eq_some hfind) hkey
      exact heq ▸ hb

/-- The files that an expansion finds next to a file are those of which one imports the other. -/
theorem exists_mem_adjacentFiles_iff (hk : k.ImportMap) {a b : Name} :
    (∃ next ∈ Expansion.adjacentFiles k a, next.1 = b) ↔ k.Adjacent a b := by
  unfold Expansion.adjacentFiles Adjacent
  constructor
  · intro hgiven
    obtain ⟨next, hnext, rfl⟩ := hgiven
    rcases List.mem_append.mp hnext with hin | hout
    · obtain ⟨other, hother, rfl⟩ := List.mem_map.mp hin
      exact Or.inr ((mem_importersOf hk).mp hother)
    · obtain ⟨other, hother, rfl⟩ := List.mem_map.mp hout
      exact Or.inl ((mem_importsOf hk).mp hother)
  · intro hgiven
    rcases hgiven with hout | hin
    · have hfound := (mem_importsOf hk).mpr hout
      exact ⟨_, List.mem_append_right _ (List.mem_map_of_mem hfound), rfl⟩
    · have hfound := (mem_importersOf hk).mpr hin
      exact ⟨_, List.mem_append_left _ (List.mem_map_of_mem hfound), rfl⟩

end ChangeImpact.Knowledge
