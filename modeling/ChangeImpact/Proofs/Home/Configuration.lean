import ChangeImpact.Home.Configuration
import ChangeImpact.Proofs.Home.FileTree
import ChangeImpact.Proofs.Settings.Sections

/-!
# Stored settings

Every change of the settings reads the whole file, changes one section and writes the whole file again.
As long as what is written is read back, up to the order of the fields, the file is a map from settings
to values: a section says what the last change of each of its keys left there, what the file said at
first, or the default.

Of the package that reads and writes the file no more is assumed than that it gives tables without a key
twice and finds nothing in an empty file (`Toml.IsLawful`); that it reads back what it writes is asked
only of what a run writes (`Workspace.ReadsBack`).

> `edited_tracksEdits`: with any such package, the sections after any run of edits, and what each edit of
> the run does to the file.

An edit that could not be made, or not be saved, is kept from the file (`Outcome.kept`), with one
exception: the file is emptied before anything is written, so that settings which cannot be written are
lost together with all that was stored (`Outcome.lost`). So it goes with every package that refuses to
write something (`Edit.empties_of_refused`; `run_losesSettings` is one such edit).
-/

namespace ChangeImpact

open Settings (Edit stored? default? Changes HasTables)
open Toml (Value)

/-- What is written for some fields is read as fields that agree with them. -/
def Toml.ReadsBack [Toml.Package] (fields : List (String × Value)) : Prop :=
  ∀ text ∈ (Toml.Package.write fields).toOption,
    ∃ found ∈ (Toml.Package.read (Text.withLineFeeds text.toList)).toOption,
      Value.Agree (.table found) (.table fields)

instance [Toml.Package] (fields : List (String × Value)) : Decidable (Toml.ReadsBack fields) :=
  inferInstanceAs (Decidable (∀ text ∈ _, _))

namespace Workspace

variable {w made saved : Workspace} {settings changed : StoredSettings} {text : String}

/-- The text of the configuration file, if it can be read. -/
def configuration? (w : Workspace) : Option String := (w.tree.readFile w.configurationPath).toOption

/-- The value of a section as it is stored. -/
def section? [Toml.Package] (w : Workspace) (name : String) : Option Value :=
  w.settings.toOption.bind (Json.lookup name)

/-! ## Reading the file -/

/-- A configuration is the text of the file that holds it. -/
theorem configuration?_eq_some : w.configuration? = some text ↔
    w.tree.readFile w.configurationPath = .ok text := Checked.toOption_eq_some

/-- It is read with its line ends turned into line feeds. -/
theorem readLines_of_configuration (h : w.configuration? = some text) :
    w.readLines w.configurationPath = .ok (String.ofList (Text.withLineFeeds text.toList)) := by
  unfold readLines
  rw [configuration?_eq_some.mp h]
  rfl

/-- The settings are what the package reads from it. -/
theorem settings_of_read [Toml.Package] (h : w.configuration? = some text)
    (hread : Toml.Package.read (Text.withLineFeeds text.toList) = .ok settings) :
    w.settings = .ok settings := by
  unfold Workspace.settings
  rw [readLines_of_configuration h]
  dsimp only
  rw [String.toList_ofList, hread]

/-- Without a file that can be read nothing is stored. -/
theorem settings_of_unreadable [Toml.Package] (h : w.configuration? = none) : w.settings = .ok [] := by
  unfold configuration? at h
  unfold Workspace.settings readLines
  cases hread : w.tree.readFile w.configurationPath with
  | ok text => rw [hread] at h; cases h
  | error fault => rfl

/-- No key is stored twice. -/
theorem isProper_settings [Toml.Package] (hlawful : Toml.IsLawful) (h : w.settings = .ok settings) :
    (Value.table settings).IsProper := by
  unfold Workspace.settings at h
  split at h
  next => cases h; exact Value.isProper_empty
  next =>
    split at h
    next => cases h; exact Value.isProper_empty
    next => exact hlawful.proper h

/-! ## Writing the file -/

/-- Where the home directory is made, nothing else changes. -/
theorem eq_of_withDirectory (h : w.withDirectory w.home = .ok made) :
    made = { w with tree := (w.tree.makeDirectory w.home).1 } := by
  obtain ⟨_, -, rfl⟩ := Checked.map_eq_ok.mp h
  rfl

/-- What is written to the file is what it holds. -/
theorem configuration?_writeFile {new : String} (h : made.writeFile made.configurationPath new = .ok saved) :
    saved.configuration? = some new := by
  obtain ⟨tree, htree, hsaved⟩ := Checked.bind_eq_ok.mp h
  rw [Checked.pure_eq_ok] at hsaved
  subst hsaved
  exact configuration?_eq_some.mpr (FileTree.readFile_writeFile htree)

/-- What cannot be written cannot be read, and could not be read before the home directory was made. -/
theorem configuration?_of_unwritable (h : w.withDirectory w.home = .ok made) {new : String}
    {fault : Fault} (hwrite : made.writeFile made.configurationPath new = .error fault) :
    w.configuration? = none ∧ made.configuration? = none := by
  have hmade : made.configuration? = none := by
    rw [Option.eq_none_iff_forall_ne_some]
    intro text hread
    obtain ⟨tree, htree⟩ := FileTree.exists_writeFile (configuration?_eq_some.mp hread) new
    unfold writeFile at hwrite
    rw [htree] at hwrite
    cases hwrite
  refine ⟨?_, hmade⟩
  rw [Option.eq_none_iff_forall_ne_some] at hmade ⊢
  intro text hread
  obtain rfl := eq_of_withDirectory h
  exact hmade text (configuration?_eq_some.mpr
    (FileTree.readFile_makeDirectory _ (configuration?_eq_some.mp hread)))

section

variable [Toml.Package]

/-- How saving some settings ends: without a home directory, with a file that cannot be written, or with a
file that holds what could be written of them. -/
inductive Saves (w : Workspace) (settings : StoredSettings) : Workspace × Checked Bool → Prop
  | homeless {fault : Fault} (hhome : w.withDirectory w.home = .error fault) :
      Saves w settings (w, .error fault)
  | unwritable {made : Workspace} (hhome : w.withDirectory w.home = .ok made)
      (hbefore : w.configuration? = none) (hafter : made.configuration? = none) :
      Saves w settings (made, .ok false)
  | written {made saved : Workspace} {text : String} (hhome : w.withDirectory w.home = .ok made)
      (htext : Toml.Package.write settings = .ok text) (hafter : saved.configuration? = some text) :
      Saves w settings (saved, .ok true)
  | emptied {made saved : Workspace} {fault : Fault} (hhome : w.withDirectory w.home = .ok made)
      (hrefused : Toml.Package.write settings = .error fault) (hafter : saved.configuration? = some "") :
      Saves w settings (saved, .error fault)

/-- Saving ends in one of these ways. -/
theorem saveSettings_saves (w : Workspace) (settings : StoredSettings) :
    Saves w settings (w.saveSettings settings) := by
  unfold saveSettings
  cases hhome : w.withDirectory w.home with
  | error fault => exact .homeless hhome
  | ok made =>
    dsimp only
    cases hwrite : made.writeFile made.configurationPath ((Toml.Package.write settings).toOption.getD "") with
    | error fault =>
      obtain ⟨hbefore, hafter⟩ := configuration?_of_unwritable hhome hwrite
      exact .unwritable hhome hbefore hafter
    | ok saved =>
      have hafter := configuration?_writeFile hwrite
      cases htext : Toml.Package.write settings with
      | ok text =>
        rw [htext] at hafter
        exact .written hhome htext hafter
      | error fault =>
        rw [htext] at hafter
        exact .emptied hhome htext hafter

end

end Workspace

/-! ## Edits -/

/-- How an edit of the stored settings ended: the settings were saved with the change, or they are as
they were, or they were lost. -/
inductive Outcome where
  | done | kept | lost
deriving DecidableEq

namespace Settings.Edit

variable [Toml.Package] {w : Workspace} {settings : StoredSettings} {edit : Edit}

/-- The workspace after an edit, and whether that worked. -/
def run (w : Workspace) : Edit → Workspace × Checked Bool
  | .set name key raw => w.setSetting (.str name) (.str key) (.str raw)
  | .reset name => w.resetSection (.str name)

/-- How an edit ends. Whatever faults once there are settings to be saved and a directory to save them in
does so when the file is open for writing. -/
def outcome (w : Workspace) (edit : Edit) : Outcome :=
  match (edit.run w).2 with
  | .ok true => .done
  | .ok false => .kept
  | .error _ =>
    match (w.settings >>= fun settings => edit.changed settings), w.withDirectory w.home with
    | .ok _, .ok _ => .lost
    | _, _ => .kept

/-- An edit changes what is stored to what it asks for. -/
theorem run_eq (h : w.settings = .ok settings) : edit.run w = w.changeSettings (edit.changed settings) := by
  cases edit with
  | set name key raw =>
    show w.changeSettings (do
      let value ← coerce name key (.text raw)
      assign (← w.settings) name key value) = _
    rw [h]
    rfl
  | reset name =>
    show w.changeSettings (do
      let settings ← w.settings
      Json.needKeys [.str name]
      return discard settings name) = _
    rw [h]
    rfl

/-- **An edit that the package refuses to write empties the file**, whatever the package is and whatever was
stored: the file is opened before the package is asked for a text. -/
theorem empties_of_refused {changed : StoredSettings} {fault : Fault} {made saved : Workspace}
    (hsettings : w.settings = .ok settings) (hchanged : edit.changed settings = .ok changed)
    (hrefused : Toml.Package.write changed = .error fault) (hhome : w.withDirectory w.home = .ok made)
    (hopen : made.writeFile made.configurationPath "" = .ok saved) :
    (edit.run w).2 = .error fault ∧ (edit.run w).1.configuration? = some "" := by
  have hrun : edit.run w = (saved, .error fault) := by
    have htext : (Toml.Package.write changed).toOption.getD "" = "" := by
      rw [hrefused]
      rfl
    rw [run_eq hsettings, hchanged]
    show w.saveSettings changed = _
    unfold Workspace.saveSettings
    rw [hhome]
    dsimp only
    rw [htext, hopen, hrefused]
    rfl
  rw [hrun]
  exact ⟨rfl, Workspace.configuration?_writeFile hopen⟩

/-- What one edit does to the stored settings and to the file. -/
inductive Runs (w : Workspace) (settings : StoredSettings) (edit : Edit) : Outcome → Prop
  /-- What was stored is changed, up to the order of fields. -/
  | done {changed after : StoredSettings} (hresult : (edit.run w).2 = .ok true)
      (hchanged : edit.changed settings = .ok changed) (hafter : (edit.run w).1.settings = .ok after)
      (hagree : Value.Agree (.table after) (.table changed)) : Runs w settings edit .done
  | kept (hresult : (edit.run w).2 ≠ .ok true) (hafter : (edit.run w).1.settings = .ok settings)
      (hfile : (edit.run w).1.configuration? = w.configuration?) : Runs w settings edit .kept
  | lost {changed : StoredSettings} {fault : Fault} (hresult : (edit.run w).2 = .error fault)
      (hchanged : edit.changed settings = .ok changed)
      (hrefused : Toml.Package.write changed = .error fault)
      (hafter : (edit.run w).1.settings = .ok []) (hfile : (edit.run w).1.configuration? = some "") :
      Runs w settings edit .lost

/-- Every edit runs as its outcome says. -/
theorem runs_outcome (hlawful : Toml.IsLawful) (hsettings : w.settings = .ok settings)
    (hback : ∀ changed ∈ (edit.changed settings).toOption, Toml.ReadsBack changed) :
    Runs w settings edit (edit.outcome w) := by
  have hrun : edit.run w = w.changeSettings (edit.changed settings) := run_eq hsettings
  have houtcome : edit.outcome w = match (edit.run w).2 with
      | .ok true => .done
      | .ok false => .kept
      | .error _ => match edit.changed settings, w.withDirectory w.home with
        | .ok _, .ok _ => .lost
        | _, _ => .kept := by
    unfold outcome
    rw [hsettings]
    rfl
  cases hchanged : edit.changed settings with
  | error fault =>
    rw [hchanged] at hrun houtcome
    rw [hrun] at houtcome
    rw [houtcome]
    refine .kept ?_ ?_ ?_ <;> rw [hrun]
    · exact nofun
    · exact hsettings
    · rfl
  | ok changed =>
    rw [hchanged] at hrun houtcome
    have hsaves : w.Saves changed (edit.run w) := hrun ▸ w.saveSettings_saves changed
    generalize hr : edit.run w = result at hsaves houtcome
    -- with a change to save, how the edit ends is how saving ends
    cases hsaves with
    | homeless hhome =>
      rw [hhome] at houtcome
      rw [houtcome]
      refine .kept ?_ ?_ ?_ <;> rw [hr]
      · exact nofun
      · exact hsettings
    | unwritable hhome hbefore hafter =>
      rw [houtcome]
      refine .kept ?_ ?_ ?_ <;> rw [hr]
      · exact nofun
      · rw [Workspace.settings_of_unreadable hafter, ← hsettings, Workspace.settings_of_unreadable hbefore]
      · exact hafter.trans hbefore.symm
    | written hhome htext hafter =>
      rw [houtcome]
      obtain ⟨found, hread, hagree⟩ :=
        hback changed (Checked.toOption_eq_some.mpr hchanged) _ (Checked.toOption_eq_some.mpr htext)
      have hfound : (edit.run w).1.settings = .ok found := by
        rw [hr]
        exact Workspace.settings_of_read hafter (Checked.toOption_eq_some.mp hread)
      exact .done (by rw [hr]) hchanged hfound hagree
    | emptied hhome hrefused hafter =>
      rw [hhome] at houtcome
      rw [houtcome]
      refine .lost ?_ hchanged hrefused ?_ ?_ <;> rw [hr]
      · exact Workspace.settings_of_read hafter hlawful.empty
      · exact hafter

/-- What is known of a setting from how an edit of it ended: nothing, or what is stored of it. -/
def verdict (name key : String) : Edit × Outcome → Option (Option Value)
  | (edit, .done) => edit.leaves name key
  | (_, .kept) => none
  | (_, .lost) => some none

/-- An edit is about one section, and a failed one about none unless all of them are lost. -/
structure IsContained (w : Workspace) (edit : Edit) : Prop where
  done : edit.outcome w = .done ↔ (edit.run w).2 = .ok true
  kept : edit.outcome w = .kept → (edit.run w).1.configuration? = w.configuration?
  lost : edit.outcome w = .lost → (edit.run w).1.configuration? = some "" ∧
    ∃ settings changed fault, w.settings = .ok settings ∧ edit.changed settings = .ok changed ∧
      Toml.Package.write changed = .error fault ∧ (edit.run w).2 = .error fault
  converted : edit.outcome w = .done → ∀ name key raw, edit = .set name key raw →
    ∃ default value, default? name key = some default ∧ Converts raw default value ∧
      edit.leaves name key = some (some value)
  rest : edit.outcome w ≠ .lost → ∀ other, other ≠ edit.target →
    ((edit.run w).1.section? other).map Value.sorted = (w.section? other).map Value.sorted

/-- What is stored after one edit. -/
theorem Runs.stored {outcome : Outcome} (h : Runs w settings edit outcome) (htables : HasTables settings) :
    ∃ after, (edit.run w).1.settings = .ok after ∧ HasTables after ∧ ∀ name key,
      (stored? after name key).map Value.sorted =
        ((verdict name key (edit, outcome)).getD (stored? settings name key)).map Value.sorted := by
  cases h with
  | done _ hchanged hafter hagree =>
    have hchanges := changes_of_changed htables hchanged
    refine ⟨_, hafter, hchanges.tables.of_agree hagree, fun name key => ?_⟩
    rw [stored?_of_agree hagree, hchanges.stored]
    rfl
  | kept _ hafter => exact ⟨_, hafter, htables, fun name key => rfl⟩
  | lost _ _ _ hafter =>
    have hnone : HasTables [] := fun _ _ _ hvalue => by cases hvalue
    exact ⟨_, hafter, hnone, fun name key => rfl⟩

/-- A section is looked up in what is stored. -/
theorem section?_eq (h : w.settings = .ok settings) (name : String) :
    w.section? name = Json.lookup name settings := by
  unfold Workspace.section?
  rw [h]
  rfl

/-- Whatever its outcome, an edit touches its own section alone. -/
theorem Runs.isContained (h : Runs w settings edit (edit.outcome w)) (hsettings : w.settings = .ok settings)
    (htables : HasTables settings) : IsContained w edit := by
  generalize hended : edit.outcome w = ended at h
  -- an edit was made, kept the file, or lost it when it could not be written
  cases h with
  | done hresult hchanged hafter hagree =>
    refine ⟨by rw [hended, hresult]; simp, fun hkept => ?_, fun hlost => ?_, ?_, ?_⟩
    · cases hended.symm.trans hkept
    · cases hended.symm.trans hlost
    · rintro - name key raw rfl
      obtain ⟨value, hcoerce, -⟩ := Checked.bind_eq_ok.mp hchanged
      obtain ⟨default, hdefault, hconverts⟩ := coerce_eq_ok.mp hcoerce
      refine ⟨default, value, hdefault, hconverts, ?_⟩
      rw [leaves, if_pos ⟨rfl, rfl⟩, hcoerce]
      rfl
    · intro _ other hother
      rw [section?_eq hafter, section?_eq hsettings,
        ← (changes_of_changed htables hchanged).rest other hother]
      exact Value.at?_of_agree hagree other
  | kept hresult hafter hfile =>
    refine ⟨by rw [hended]; simpa using hresult, fun _ => hfile, fun hlost => ?_, fun hdone => ?_, ?_⟩
    · cases hended.symm.trans hlost
    · cases hended.symm.trans hdone
    · intro _ other _
      rw [section?_eq hafter, section?_eq hsettings]
  | lost hresult hchanged hrefused hafter hfile =>
    refine ⟨by rw [hended, hresult]; simp, fun hkept => ?_, fun _ => ?_, fun hdone => ?_,
      fun hne => absurd hended hne⟩
    · cases hended.symm.trans hkept
    · exact ⟨hfile, _, _, _, hsettings, hchanged, hrefused, hresult⟩
    · cases hended.symm.trans hdone

end Settings.Edit

/-- What is stored of a setting after some edits: what the last one of them that is about it left, or what
was stored at first. -/
def Settings.storedAfter (initial : StoredSettings) (events : List (Edit × Outcome)) (name key : String) :
    Option Value :=
  (events.reverse.findSome? (Edit.verdict name key)).getD (stored? initial name key)

/-- A later edit about a setting goes before the first one. -/
theorem Settings.storedAfter_cons (initial : StoredSettings) (event : Edit × Outcome)
    (events : List (Edit × Outcome)) (name key : String) :
    storedAfter initial (event :: events) name key =
      (events.reverse.findSome? (Edit.verdict name key)).getD
        ((Edit.verdict name key event).getD (stored? initial name key)) := by
  unfold storedAfter
  rw [List.reverse_cons, List.findSome?_append]
  cases events.reverse.findSome? (Edit.verdict name key) with
  | none => simp
  | some _ => rfl

namespace Workspace

section

variable [Toml.Package] {w : Workspace} {initial : StoredSettings} {edits : List Edit}

/-- The workspace after some edits. -/
def edited (w : Workspace) (edits : List Edit) : Workspace := edits.foldl (fun w edit => (edit.run w).1) w

/-- The edits with how each of them ended. -/
def events (w : Workspace) : List Edit → List (Edit × Outcome)
  | [] => []
  | edit :: rest => (edit, edit.outcome w) :: (edit.run w).1.events rest

/-- Whatever settings are written by one of the edits are read back. -/
def ReadsBack (w : Workspace) : List Edit → Prop
  | [] => True
  | edit :: rest =>
    (∀ settings ∈ w.settings.toOption, ∀ changed ∈ (edit.changed settings).toOption,
      Toml.ReadsBack changed) ∧ (edit.run w).1.ReadsBack rest

instance decidableReadsBack (w : Workspace) : (edits : List Edit) → Decidable (w.ReadsBack edits)
  | [] => isTrue trivial
  | edit :: rest =>
    have := decidableReadsBack (edit.run w).1 rest
    inferInstanceAs (Decidable (_ ∧ _))

/-- What is stored after a run of edits. -/
theorem edited_stored (hlawful : Toml.IsLawful) (hinitial : w.settings = .ok initial)
    (htables : HasTables initial) (hback : w.ReadsBack edits) :
    ∃ final, (w.edited edits).settings = .ok final ∧ HasTables final ∧
      ∀ name key, (stored? final name key).map Value.sorted =
        (Settings.storedAfter initial (w.events edits) name key).map Value.sorted := by
  induction edits generalizing w initial with
  | nil => exact ⟨initial, hinitial, htables, fun _ _ => rfl⟩
  | cons edit rest ih =>
    obtain ⟨hfirst, hrest⟩ := hback
    have hruns := Edit.runs_outcome hlawful hinitial (hfirst initial (Checked.toOption_eq_some.mpr hinitial))
    obtain ⟨after, hafter, hkept, hstored⟩ := hruns.stored htables
    obtain ⟨final, hfinal, hlast, htracks⟩ := ih hafter hkept hrest
    refine ⟨final, hfinal, hlast, fun name key => ?_⟩
    rw [htracks, events, Settings.storedAfter_cons]
    unfold Settings.storedAfter
    -- the first edit counts if no later one is about the setting
    cases (events (edit.run w).1 rest).reverse.findSome? (Edit.verdict name key) with
    | none => exact hstored name key
    | some _ => rfl

/-- Every edit of a run is contained. -/
theorem edited_contained (hlawful : Toml.IsLawful) (hinitial : w.settings = .ok initial)
    (htables : HasTables initial) (hback : w.ReadsBack edits) :
    ∀ before edit after, edits = before ++ edit :: after →
      Edit.IsContained (w.edited before) edit := by
  induction edits generalizing w initial with
  | nil =>
    intro before edit after h
    exact absurd h.symm (List.append_ne_nil_of_right_ne_nil _ (List.cons_ne_nil _ _))
  | cons first rest ih =>
    obtain ⟨hfirst, hrest⟩ := hback
    have hruns := Edit.runs_outcome hlawful hinitial (hfirst initial (Checked.toOption_eq_some.mpr hinitial))
    intro before edit after h
    cases before with
    | nil =>
      obtain ⟨rfl, -⟩ := List.cons.inj h
      exact hruns.isContained hinitial htables
    | cons other before =>
      obtain ⟨rfl, hlater⟩ := List.cons.inj h
      obtain ⟨later, hlater', hkept, -⟩ := hruns.stored htables
      exact ih hlater' hkept hrest before edit after hlater

/-- **Stored settings.** Take any package that gives tables without a key twice and finds nothing in an
empty file, and suppose that the stored settings can be read, that the known sections are tables and that
what is written is read back. Then after any run of edits a known section has under every key what
was stored by the last edit about it, or at first, or else the default, up to the order of fields; and every
edit of the run is contained. -/
theorem edited_tracksEdits (hlawful : Toml.IsLawful) (w : Workspace) {initial : StoredSettings}
    (hinitial : w.settings = .ok initial) (htables : HasTables initial) (edits : List Edit)
    (hback : w.ReadsBack edits) :
    (∀ name ∈ Settings.sectionNames, ∃ fields,
      (w.edited edits).settings >>= (fun settings => Settings.effective settings name) = .ok fields ∧
        ∀ key, (Settings.valueAt fields key).map Value.sorted =
          ((Settings.storedAfter initial (w.events edits) name key).or (default? name key)).map
            Value.sorted) ∧
      ∀ before edit after, edits = before ++ edit :: after →
        Edit.IsContained (w.edited before) edit := by
  refine ⟨fun name hname => ?_, edited_contained hlawful hinitial htables hback⟩
  obtain ⟨final, hfinal, hkept, hstored⟩ := edited_stored hlawful hinitial htables hback
  obtain ⟨fields, hfields, hvalues⟩ :=
    Settings.valueAt_effective hname hkept (isProper_settings hlawful hfinal)
  refine ⟨fields, ?_, fun key => ?_⟩
  · rw [hfinal]
    exact hfields
  · rw [hvalues, Option.map_or, hstored, ← Option.map_or]

end

/-- A home with a file that has two of the sections. -/
def office : Workspace where
  tree := ⟨[(["h"], .directory),
    (["h", "config.toml"], .file "[scope]\nmax_depth=5\n[references]\ndefault_limit=9\n")]⟩
  home := ["h"]
  current := []
  issuer := .start

/-- What is stored there. -/
def officeSettings : StoredSettings :=
  [("scope", .table [("max_depth", .whole 5)]), ("references", .table [("default_limit", .whole 9)])]

/-- A reset, a setting that is no number, and a setting of the section that was reset. -/
def officeEdits : List Edit :=
  [.reset "scope", .set "references" "default_limit" "few", .set "scope" "expand_imports" " NO"]

theorem edited_tracksEdits_office :
    Toml.IsLawful ∧ office.settings = .ok officeSettings ∧ HasTables officeSettings ∧
      office.ReadsBack officeEdits ∧
      office.events officeEdits = officeEdits.zip [.done, .kept, .done] ∧
      (∃ fields, (office.edited officeEdits).settings >>=
          (fun settings => Settings.effective settings "scope") = .ok fields ∧
        (Settings.valueAt fields "max_depth").map Value.sorted = some (.whole 3) ∧
        (Settings.valueAt fields "expand_imports").map Value.sorted = some (.truth false)) ∧
      (∃ fields, (office.edited officeEdits).settings >>=
          (fun settings => Settings.effective settings "references") = .ok fields ∧
        (Settings.valueAt fields "default_limit").map Value.sorted = some (.whole 9)) ∧
      Edit.IsContained (office.edited (officeEdits.take 1)) (.set "references" "default_limit" "few") := by
  have hinitial : office.settings = .ok officeSettings := by decide +kernel
  have htables : HasTables officeSettings := by decide
  have hback : office.ReadsBack officeEdits := by decide +kernel
  have hevents : office.events officeEdits = officeEdits.zip [.done, .kept, .done] := by decide +kernel
  obtain ⟨hsections, hcontained⟩ :=
    edited_tracksEdits Toml.isLawful_standard office hinitial htables officeEdits hback
  rw [hevents] at hsections
  obtain ⟨scope, hscope, hinScope⟩ := hsections "scope" (by decide)
  obtain ⟨references, hreferences, hinReferences⟩ := hsections "references" (by decide)
  refine ⟨Toml.isLawful_standard, hinitial, htables, hback, hevents, ⟨scope, hscope, ?_, ?_⟩,
    ⟨references, hreferences, ?_⟩,
    hcontained (officeEdits.take 1) (.set "references" "default_limit" "few") (officeEdits.drop 2)
      (by decide)⟩
  · exact (hinScope "max_depth").trans (by decide +kernel)
  · exact (hinScope "expand_imports").trans (by decide +kernel)
  · exact (hinReferences "default_limit").trans (by decide +kernel)

/-- A command that begins with a character which cannot be written. -/
def unwritableEdit : Edit := .set "validation" "test_command" "\x01"

/-- The edit faults, and the other sections are lost. -/
theorem run_losesSettings :
    office.settings = .ok officeSettings ∧ HasTables officeSettings ∧ office.ReadsBack [unwritableEdit] ∧
      (unwritableEdit.run office).2 = .error .noSuchPlace ∧
      office.configuration? ≠ some "" ∧ (unwritableEdit.run office).1.configuration? = some "" ∧
      office.section? "scope" = some (.table [("max_depth", .whole 5)]) ∧
      (unwritableEdit.run office).1.section? "scope" = none := by
  have hinitial : office.settings = .ok officeSettings := by decide +kernel
  have hchanged : unwritableEdit.changed officeSettings =
      .ok (officeSettings ++ [("validation", .table [("test_command", .text "\x01")])]) := by decide +kernel
  have hrefused : Toml.Package.write
      (officeSettings ++ [("validation", .table [("test_command", .text "\x01")])]) =
        .error .noSuchPlace := by decide +kernel
  have hhome : office.withDirectory office.home = .ok office := by decide +kernel
  -- that the file is empty then is so with every package that refuses this text
  obtain ⟨hfault, hempty⟩ := Edit.empties_of_refused hinitial hchanged hrefused hhome rfl
  exact ⟨hinitial, by decide, by decide +kernel, hfault, by decide +kernel, hempty, by decide +kernel,
    by decide +kernel⟩

end Workspace

end ChangeImpact
