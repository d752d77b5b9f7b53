import ChangeImpact.Proofs.Home.Projects
import ChangeImpact.Proofs.Home.Stores

/-!
# Sessions

A session is any number of command lines, one after the other, each at a time of its own. Nothing is
assumed about their words: they may ask for anything, name projects by any path, and fail wherever
they like.

Every command is safe (`IsSafe`): the stores that were sound stay sound, and if the command ends with a
usage error the rows of every store are what they were. Mostly that is because what is wrong with the
words is found before anything is changed. Where it is found later, only directories were made until
then, or the file of the settings was written. Deleting a project is the exception: it changes stores
before it is done, but what can still go wrong from there on is no usage error (`NotRefused`).

> `session_keepsStoresSound`: from an empty home, after any session the stores are sound, and a
> command line that ends with a usage error changes no row of any store.
-/

namespace ChangeImpact

/-- The command line is at fault: it ends with the exit code for that. -/
def Fault.isUsage : Fault → Bool
  | badArgument _ | missingArgument _ | noSuchOption _ | badOptionUse _ | usage _ => true
  | _ => false

/-! ## Faults that are no usage errors -/

namespace Checked

variable {α β : Type}

/-- If the computation ends in a fault, that is no usage error. -/
def NotRefused (x : Checked α) : Prop := ∀ fault, x = .error fault → fault.isUsage = false

theorem notRefused_ok (a : α) : NotRefused (.ok a) := by
  intro fault h
  cases h

theorem notRefused_error {fault : Fault} (h : fault.isUsage = false) :
    NotRefused (.error fault : Checked α) := by
  intro other hother
  cases hother
  exact h

/-- A guard with no usage error refuses nothing. -/
theorem notRefused_guardThat {condition : Bool} {fault : Fault} (h : fault.isUsage = false) :
    NotRefused (guardThat condition fault) := by
  unfold guardThat
  split
  next => exact notRefused_ok ()
  next => exact notRefused_error h

/-- One computation after another refuses nothing if neither does. -/
theorem NotRefused.bind {x : Checked α} {f : α → Checked β} (hx : NotRefused x)
    (hf : ∀ a, NotRefused (f a)) : NotRefused (x >>= f) := by
  cases x with
  | error fault => exact notRefused_error (hx fault rfl)
  | ok a => exact hf a

theorem NotRefused.map {x : Checked α} (hx : NotRefused x) (f : α → β) : NotRefused (x.map f) := by
  cases x with
  | error fault => exact notRefused_error (hx fault rfl)
  | ok a => exact notRefused_ok (f a)

end Checked

namespace FileTree

open Checked

theorem notRefused_checkPath (steps : List String) : NotRefused (checkPath steps) :=
  (notRefused_guardThat rfl).bind fun _ => notRefused_guardThat rfl

theorem notRefused_walkFrom (tree : FileTree) (here : Location) (steps : List String) :
    NotRefused (tree.walkFrom here steps) := by
  induction steps generalizing here with
  | nil => exact notRefused_ok here
  | cons step steps ih =>
    unfold walkFrom
    split
    next => exact notRefused_error rfl
    next => exact (notRefused_guardThat rfl).bind fun _ => ih _
    next => exact notRefused_error rfl

/-- No walk ends with a usage error, wherever it leads. -/
theorem notRefused_walk (tree : FileTree) (steps : List String) : NotRefused (tree.walk steps) :=
  (notRefused_checkPath steps).bind fun _ => notRefused_walkFrom tree [] steps

theorem notRefused_find? (tree : FileTree) (steps : List String) : NotRefused (tree.find? steps) := by
  unfold find?
  split
  next => exact notRefused_ok _
  next => exact notRefused_error rfl
  next => exact notRefused_ok _

theorem notRefused_makeFrom (tree : FileTree) (made : Bool) (here : Location) (steps : List String) :
    NotRefused (tree.makeFrom made here steps).2 := by
  induction steps generalizing tree made here with
  | nil => exact notRefused_ok ()
  | cons step steps ih =>
    unfold makeFrom
    split
    next fault hname =>
      have hguard : Fault.isUsage .nameTooLong = false := rfl
      exact notRefused_error (notRefused_guardThat hguard fault hname)
    next => exact ih tree made _
    next => exact ih _ true _
    next =>
      refine notRefused_error ?_
      split <;> rfl

/-- Nor does making directories. -/
theorem notRefused_makeDirectory (tree : FileTree) (steps : List String) :
    NotRefused (tree.makeDirectory steps).2 := by
  unfold makeDirectory
  split
  next fault hpath => exact notRefused_error (notRefused_checkPath steps fault hpath)
  next =>
    split
    next => exact notRefused_error rfl
    next => exact notRefused_makeFrom tree false [] steps

/-- Reading a file is not refused either. -/
theorem notRefused_readFile (tree : FileTree) (steps : List String) :
    NotRefused (tree.readFile steps) := by
  refine (notRefused_walk tree steps).bind fun location => ?_
  split
  next => exact notRefused_ok _
  next => exact notRefused_error rfl
  next => exact notRefused_error rfl
  next => exact notRefused_error rfl

/-- Nor is writing one. -/
theorem notRefused_writeFile (tree : FileTree) (steps : List String) (text : String) :
    NotRefused (tree.writeFile steps text) := by
  refine (notRefused_walk tree steps).bind fun location => ?_
  split
  next => exact notRefused_error rfl
  next => exact notRefused_ok _

theorem notRefused_removeEntry (tree : FileTree) (steps : List String) :
    NotRefused (tree.removeEntry steps) := by
  refine (notRefused_find? tree steps).bind fun found => ?_
  split
  next => exact notRefused_ok _
  next => exact (notRefused_guardThat rfl).bind fun _ => notRefused_ok _
  next => exact notRefused_ok _

theorem notRefused_removeDirectory (tree : FileTree) (steps : List String) :
    NotRefused (tree.removeDirectory steps) := by
  refine (notRefused_walk tree steps).bind fun location => ?_
  split
  next => exact notRefused_error rfl
  next => exact (notRefused_guardThat rfl).bind fun _ => notRefused_ok _
  next => exact notRefused_error rfl

/-- Removing entries may fault, but not by a usage error. -/
theorem notRefused_removeEntries (tree : FileTree) (paths : List (List String)) :
    NotRefused (tree.removeEntries paths).2 := by
  induction paths generalizing tree with
  | nil => exact notRefused_ok ()
  | cons steps rest ih =>
    unfold removeEntries
    split
    next => exact ih _
    next fault hremove => exact notRefused_error (notRefused_removeEntry tree steps fault hremove)

/-- Nor is removing what is below a directory. -/
theorem notRefused_removeTree (tree : FileTree) (steps : List String) :
    NotRefused (tree.removeTree steps).2 := by
  have hentries := notRefused_removeEntries tree (tree.pathsBelow steps)
  unfold removeTree
  split
  next fault hbelow =>
    rw [hbelow] at hentries
    exact notRefused_error (hentries fault rfl)
  next left hbelow =>
    split
    next => exact notRefused_ok ()
    next fault hremove => exact notRefused_error (notRefused_removeDirectory left steps fault hremove)

end FileTree

namespace Workspace

open Checked

variable {w : Workspace}

theorem notRefused_withDirectory (w : Workspace) (steps : List String) :
    NotRefused (w.withDirectory steps) :=
  (FileTree.notRefused_makeDirectory w.tree steps).map _

theorem notRefused_activate (w : Workspace) (active : Json) : NotRefused (w.activate active) :=
  (notRefused_withDirectory w _).bind fun w =>
    (FileTree.notRefused_writeFile w.tree _ _).bind fun _ => notRefused_ok _

theorem notRefused_activeProject (w : Workspace) : NotRefused w.activeProject := by
  refine (FileTree.notRefused_find? w.tree _).bind fun found => ?_
  split
  next => exact notRefused_ok _
  next =>
    refine ((FileTree.notRefused_readFile w.tree _).bind fun _ => notRefused_ok _).bind fun text => ?_
    split
    next state _ => cases state <;> first | exact notRefused_error rfl | exact notRefused_ok _
    next => exact notRefused_ok _
    next unread _ _ => cases unread <;> exact notRefused_error rfl

/-- A project is not found before anything is changed; what goes wrong later is no usage error. -/
theorem deleteProject_cases (w : Workspace) (name : String) :
    NotRefused (w.deleteProject name).2 ∧
      ((w.deleteProject name).2 = .ok false → (w.deleteProject name).1 = w) := by
  unfold deleteProject
  dsimp only
  split
  next fault hfind =>
    exact ⟨notRefused_error (FileTree.notRefused_find? w.tree _ fault hfind), fun h => nomatch h⟩
  next => exact ⟨notRefused_ok false, fun _ => rfl⟩
  next =>
    refine ⟨(FileTree.notRefused_removeTree w.tree _).map _, fun h => ?_⟩
    obtain ⟨_, -, hfalse⟩ := Checked.map_eq_ok.mp h
    cases hfalse

end Workspace

namespace CommandLine

open Workspace FileTree Checked

variable {α : Type} {w w' : Workspace}

/-! ## Safe answers -/

/-- The sound stores of a workspace stay sound, and if the answer is a usage error the rows of every
store are what they were. -/
structure Response.IsSafe (w : Workspace) (response : Response) : Prop where
  follows : Follows w response.workspace
  refused : ∀ fault, response.ending = .error fault → fault.isUsage = true →
    SameRows w.tree response.workspace.tree

namespace Response

/-- A command that fails is safe if it changed no row. -/
theorem isSafe_failed (hfollows : Follows w w') (hrows : SameRows w.tree w'.tree) (fault : Fault) :
    IsSafe w (failed w' fault) := ⟨hfollows, fun _ _ _ => hrows⟩

/-- A command that ends well only has to keep stores sound. -/
theorem isSafe_of_ok {response : Response} {code : Nat} (hfollows : Follows w response.workspace)
    (h : response.ending = .ok code) : IsSafe w response := by
  refine ⟨hfollows, fun fault hfault => ?_⟩
  rw [h] at hfault
  cases hfault

/-- Nothing changed up to a place where a command may stop. -/
theorem isSafe_andThen {result : Checked α} {next : α → Response} (hfollows : Follows w w')
    (hrows : SameRows w.tree w'.tree) (hnext : ∀ a, result = .ok a → IsSafe w (next a)) :
    IsSafe w (andThen w' result next) := by
  unfold andThen
  split
  next a => exact hnext a rfl
  next fault => exact isSafe_failed hfollows hrows fault

/-- Where a command may stop, but not with a usage error, something may have changed. -/
theorem isSafe_andThen_of_notRefused {result : Checked α} {next : α → Response}
    (hfollows : Follows w w') (hresult : NotRefused result)
    (hnext : ∀ a, result = .ok a → IsSafe w (next a)) : IsSafe w (andThen w' result next) := by
  unfold andThen
  split
  next a => exact hnext a rfl
  next fault =>
    refine ⟨hfollows, fun other hother husage => ?_⟩
    cases hother
    rw [hresult fault rfl] at husage
    cases husage

/-- What is safe in a later workspace is safe in the one before. -/
theorem IsSafe.before {response : Response} (h : IsSafe w' response) (hfollows : Follows w w')
    (hrows : SameRows w.tree w'.tree) : IsSafe w response :=
  ⟨hfollows.trans h.follows, fun fault hfault husage => hrows.trans (h.refused fault hfault husage)⟩

/-- What is computed without changing anything may refuse. -/
theorem isSafe_andThen_self {result : Checked α} {next : α → Response}
    (hnext : ∀ a, result = .ok a → IsSafe w (next a)) : IsSafe w (andThen w result next) :=
  isSafe_andThen (.refl w) (.refl w.tree) hnext

end Response

open Response

/-! ## Projects -/

namespace Projects

/-- Making the home directory first is safe. -/
theorem atHome_isSafe {next : Workspace → Response} (hnext : ∀ w, IsSafe w (next w)) :
    IsSafe w (atHome w next) :=
  isSafe_andThen_self fun w' hhome =>
    have ⟨hfollows, hrows⟩ := withDirectory_eq_ok hhome
    (hnext w').before hfollows hrows

/-- Making a project is safe. -/
theorem create_isSafe (w : Workspace) (name : String) : IsSafe w (create w name) := by
  refine atHome_isSafe fun w => ?_
  have hfollows := makeDirectory_follows w (w.projectPath name)
  have hrows := makeDirectory_sameRows w.tree (w.projectPath name)
  refine isSafe_andThen hfollows hrows fun _ _ => ?_
  exact isSafe_andThen hfollows hrows fun _ hactive =>
    isSafe_of_ok (hfollows.trans (activate_follows hactive)) rfl

theorem list_isSafe (w : Workspace) : IsSafe w (list w) := by
  refine atHome_isSafe fun w => isSafe_andThen_self fun _ _ => ?_
  split
  next => exact isSafe_of_ok (.refl w) rfl
  next => exact isSafe_of_ok (.refl w) rfl

/-- Loading one is. -/
theorem load_isSafe (w : Workspace) (name : String) : IsSafe w (load w name) := by
  refine atHome_isSafe fun w => ?_
  split
  next =>
    exact isSafe_andThen_self fun _ hactive => isSafe_of_ok (activate_follows hactive) rfl
  next => exact isSafe_failed (.refl w) (.refl w.tree) _

/-- Unloading is. -/
theorem unload_isSafe (w : Workspace) : IsSafe w (unload w) :=
  atHome_isSafe fun _ => isSafe_andThen_self fun _ hactive =>
    isSafe_of_ok (activate_follows hactive) rfl

/-- Deleting a project is safe: it takes stores away, but refuses before it does. -/
theorem delete_isSafe (w : Workspace) (name : String) : IsSafe w (delete w name) := by
  refine atHome_isSafe fun w => ?_
  obtain ⟨hresult, hmissing⟩ := deleteProject_cases w name
  have hfollows := deleteProject_follows w name
  dsimp only
  generalize w.deleteProject name = done at hresult hmissing hfollows
  obtain ⟨left, deleted⟩ := done
  refine isSafe_andThen_of_notRefused hfollows hresult fun found hfound => ?_
  cases found with
  | false =>
    obtain rfl : left = w := hmissing hfound
    exact isSafe_failed (.refl left) (.refl left.tree) _
  | true =>
    refine isSafe_andThen_of_notRefused hfollows (notRefused_activeProject left) fun active _ => ?_
    show IsSafe w (andThen left (if active = .str name then left.deactivate else .ok left) _)
    split
    next =>
      exact isSafe_andThen_of_notRefused hfollows (notRefused_activate left .null) fun _ hunloaded =>
        isSafe_of_ok (hfollows.trans (activate_follows hunloaded)) rfl
    next => exact isSafe_of_ok hfollows rfl

end Projects

/-! ## Settings -/

namespace SettingCommands

/-- Saying whether something was saved changes nothing. -/
theorem saySaved_isSafe (h : Follows w w') (text : String) (saved : Bool) :
    IsSafe w (saySaved w' text saved) := by
  unfold saySaved
  split
  next => exact isSafe_of_ok h rfl
  next => exact isSafe_of_ok h rfl

variable [Toml.Package]

theorem list_isSafe (w : Workspace) (group : Option String) : IsSafe w (list w group) :=
  isSafe_andThen_self fun _ _ => isSafe_of_ok (.refl w) rfl

/-- A value that cannot be written is found out when the file was emptied. -/
theorem set_isSafe (hw : IsSettled w) (name value : String) : IsSafe w (set w name value) := by
  refine isSafe_andThen_self fun given _ => ?_
  have hfollows := changeSettings_follows w (do
    let value ← Settings.coerceGiven (.str given.1) (.str given.2) (.ofJson (.str value))
    Settings.assign (← w.settings) given.1 given.2 value)
  have hrows := hw.changeSettings_sameRows (do
    let value ← Settings.coerceGiven (.str given.1) (.str given.2) (.ofJson (.str value))
    Settings.assign (← w.settings) given.1 given.2 value)
  exact isSafe_andThen hfollows hrows fun _ _ => saySaved_isSafe hfollows _ _

/-- Resetting settings is safe, because the configuration is no store. -/
theorem reset_isSafe (hw : IsSettled w) (name : String) : IsSafe w (reset w name) := by
  refine isSafe_andThen_self fun _ _ => ?_
  exact isSafe_andThen (changeSettings_follows w _) (hw.changeSettings_sameRows _) fun _ _ =>
    saySaved_isSafe (changeSettings_follows w _) _ _

end SettingCommands

/-! ## References -/

namespace References

theorem showAll_isOk (w : Workspace) (asJson : Bool) (refs : List Reference) (title nothing : String) :
    (showAll w asJson refs title nothing).workspace = w ∧
      ∃ code, (showAll w asJson refs title nothing).ending = .ok code := by
  unfold showAll
  split
  next => exact ⟨rfl, 0, rfl⟩
  next =>
    split
    next => exact ⟨rfl, 0, rfl⟩
    next => exact ⟨rfl, 0, rfl⟩

theorem sayRemoved_isOk (label : String) (w : Workspace) (removed : Bool) :
    (sayRemoved label w removed).workspace = w ∧ ∃ code, (sayRemoved label w removed).ending = .ok code := by
  unfold sayRemoved
  split
  next => exact ⟨rfl, 0, rfl⟩
  next => exact ⟨rfl, 1, rfl⟩

variable [Toml.Package]

/-- A careful use of the active project's store keeps stores sound, and changes no row if it faults. -/
theorem useActive_isSafe {use : Store → Store × Checked α} (huse : Store.IsCareful use) :
    Follows w (useActive w use).1 ∧ ∀ fault, (useActive w use).2 = .error fault →
      SameRows w.tree (useActive w use).1.tree := by
  unfold useActive
  split
  next => exact ⟨.refl w, fun _ _ => .refl w.tree⟩
  next w' hhome =>
    obtain ⟨hfollows, hrows⟩ := withDirectory_eq_ok hhome
    split
    next => exact ⟨hfollows, fun _ _ => hrows⟩
    next =>
      exact ⟨hfollows.trans (useStore_follows huse), fun fault hfault =>
        hrows.trans (useStore_sameRows huse hfault)⟩

/-- Saying what came of such a use leaves it as safe as it was. -/
theorem answer_isSafe {use : Store → Store × Checked α} (huse : Store.IsCareful use)
    {next : Workspace → α → Response}
    (hnext : ∀ w a, (next w a).workspace = w ∧ ∃ code, (next w a).ending = .ok code) :
    IsSafe w (answer w use next) := by
  obtain ⟨hfollows, hrows⟩ := useActive_isSafe (w := w) huse
  unfold answer
  dsimp only
  cases hresult : (useActive w use).2 with
  | error fault => exact isSafe_failed hfollows (hrows fault hresult) fault
  | ok a =>
    obtain ⟨hworkspace, code, hcode⟩ := hnext (useActive w use).1 a
    exact isSafe_of_ok (hworkspace.symm ▸ hfollows) hcode

/-- Linking two entities is safe. -/
theorem link_isSafe [IdSource] (w : Workspace) (source target relationship : String) (metadata : List String)
    (creator : Option String) : IsSafe w (link w source target relationship metadata creator) := by
  refine isSafe_andThen_self fun request hrequest => ?_
  obtain ⟨source, -, h⟩ := Checked.bind_eq_ok.mp hrequest
  obtain ⟨target, -, h⟩ := Checked.bind_eq_ok.mp h
  obtain ⟨metadata, -, h⟩ := Checked.bind_eq_ok.mp h
  have hchecked : NewReference.checked ⟨source, target, relationship⟩ metadata
      (Json.ofOption Json.str creator) = .ok request := by
    revert h
    cases NewReference.checked ⟨source, target, relationship⟩ metadata
      (Json.ofOption Json.str creator) with
    | error fault => exact fun h => nomatch h
    | ok checked => exact id
  obtain ⟨hproper, hlink⟩ := NewReference.isProper_of_checked hchecked
  exact answer_isSafe (Store.isCareful_create hlink hproper) fun _ _ => ⟨rfl, 0, rfl⟩

/-- So is unlinking them. -/
theorem unlink_isSafe (w : Workspace) (source target : Option String) (relationship : String)
    (id : Option String) : IsSafe w (unlink w source target relationship id) := by
  unfold unlink
  dsimp only
  split
  next => exact answer_isSafe (Store.isCareful_delete _) (sayRemoved_isOk _)
  next =>
    refine isSafe_andThen_self fun w' hhome => ?_
    obtain ⟨hfollows, hrows⟩ := withDirectory_eq_ok hhome
    split
    next => exact isSafe_failed hfollows hrows _
    next =>
      refine IsSafe.before ?_ hfollows hrows
      exact isSafe_andThen_self fun _ _ =>
        answer_isSafe (Store.isCareful_deleteByLink _ _ _ _ _) (sayRemoved_isOk _)

theorem list_isSafe (w : Workspace) (request : ListRequest) : IsSafe w (list w request) :=
  isSafe_andThen_self fun _ _ => answer_isSafe (Store.isCareful_look _) fun w _ => showAll_isOk w _ _ _ _

/-- So is asking for what is related. -/
theorem related_isSafe (w : Workspace) (entity : String) (depth : Int) (asJson : Bool) :
    IsSafe w (related w entity depth asJson) :=
  isSafe_andThen_self fun _ _ => answer_isSafe (Store.isCareful_look _) fun w _ => showAll_isOk w _ _ _ _

/-- So is linking mentions. -/
theorem mentions_isSafe [IdSource] (w : Workspace) (entity : String) (text file creator : Option String) :
    IsSafe w (mentions w entity text file creator) :=
  isSafe_andThen_self fun given _ =>
    answer_isSafe (Store.isCareful_linkMentions given.1 given.2 creator) fun _ _ => ⟨rfl, 0, rfl⟩

end References

/-! ## Any command line -/

/-- An analysis reads; only its diagram is written, after which nothing goes wrong. -/
theorem AnalysisRequest.run_isSafe [Toml.Package] (w : Workspace) (request : AnalysisRequest) :
    IsSafe w (request.run w) := by
  refine isSafe_andThen_self fun report _ => ?_
  split
  next => exact ⟨.refl w, fun _ _ _ => .refl w.tree⟩
  next =>
    split
    next w' _ hdraw =>
      -- of the four outcomes only a drawn diagram writes a file
      refine isSafe_of_ok ?_ rfl
      show Follows w w'
      unfold draw at hdraw
      split at hdraw
      next =>
        cases hdraw
        exact .refl w
      next =>
        obtain ⟨⟨text, name⟩, -, hdraw⟩ := Checked.bind_eq_ok.mp hdraw
        dsimp only at hdraw
        split at hdraw
        next =>
          cases hdraw
          exact .refl w
        next =>
          obtain ⟨_, hwrite, hdraw⟩ := Checked.bind_eq_ok.mp hdraw
          cases hdraw
          exact writeFile_follows hwrite
    next => exact ⟨.refl w, fun _ _ _ => .refl w.tree⟩

/-- **One command.** Whatever a command does is safe. -/
theorem Command.run_isSafe [IdSource] [Toml.Package] (hw : IsSettled w) (command : Command) :
    IsSafe w (command.run w) := by
  cases command with
  | analyze request => exact request.run_isSafe w
  | link source target relationship metadata creator =>
    exact References.link_isSafe w source target relationship metadata creator
  | unlink source target relationship id =>
    exact References.unlink_isSafe w source target relationship id
  | listReferences request => exact References.list_isSafe w request
  | related entity depth asJson => exact References.related_isSafe w entity depth asJson
  | mentions entity text file creator => exact References.mentions_isSafe w entity text file creator
  | createProject name => exact Projects.create_isSafe w name
  | listProjects => exact Projects.list_isSafe w
  | loadProject name => exact Projects.load_isSafe w name
  | unloadProject => exact Projects.unload_isSafe w
  | deleteProject name => exact Projects.delete_isSafe w name
  | showSettings group => exact SettingCommands.list_isSafe w group
  | setSetting key value => exact SettingCommands.set_isSafe hw key value
  | resetSettings group => exact SettingCommands.reset_isSafe hw group

/-- **Any words.** What a command line does is safe, whether or not it asks for a command. -/
theorem run_isSafe [IdSource] [Toml.Package] [Parser] (hw : IsSettled w) (words : List String) :
    IsSafe w (run w words) := by
  unfold run
  split
  next => exact isSafe_failed (.refl w) (.refl w.tree) _
  next => exact isSafe_of_ok (.refl w) rfl
  next => exact isSafe_of_ok (.refl w) rfl
  next command _ => exact command.run_isSafe hw

/-! ## Sessions -/

/-- The workspace at another time. -/
def atTime (w : Workspace) (time : Int) : Workspace :=
  { w with issuer := w.issuer.atTime time }

/-- The answer to the words of a command line at a time. -/
def answerAt [IdSource] [Toml.Package] [Parser] (w : Workspace) (call : Int × List String) : Response :=
  run (atTime w call.1) call.2

/-- The workspace after some command lines, each at its time. -/
def session [IdSource] [Toml.Package] [Parser] (w : Workspace) (calls : List (Int × List String)) :
    Workspace :=
  calls.foldl (fun w call => (answerAt w call).workspace) w

/-- The time of a command line makes no difference to that. -/
theorem answerAt_isSafe [IdSource] [Toml.Package] [Parser] (hw : IsSettled w) (call : Int × List String) :
    IsSafe w (answerAt w call) := by
  have hlater : IsSettled (atTime w call.1) := ⟨⟨hw.steps, hw.path⟩, hw.configuration⟩
  exact (run_isSafe hlater call.2).before (FewerStores.follows (.refl w.tree) rfl) (.refl w.tree)

/-- **A session.** After any command lines every store is as sound as it was. -/
theorem session_follows [IdSource] [Toml.Package] [Parser] (hw : IsSettled w)
    (calls : List (Int × List String)) : Follows w (session w calls) := by
  induction calls generalizing w with
  | nil => exact .refl w
  | cons call rest ih =>
    have hfirst := (answerAt_isSafe hw call).follows
    exact hfirst.trans (ih (hfirst.isSettled hw))

/-- There is no store in an empty home. -/
theorem HasEmptyHome.not_hasStore (h : HasEmptyHome w) {way : List String} (hway : way ≠ []) :
    ¬ w.tree.HasStore (w.home ++ way) := not_hasStore_of_eq (h.empty way hway) (by simp)

/-- **Stores stay sound.** From an empty home, after any session every store in the home directory is
sound, and so is every store elsewhere that was sound or not there before, and every store that is
opened for a project: its rows have links that are in order, no two of them one link. A command line
that then ends with a usage error changes no row of any store. -/
theorem session_keepsStoresSound [IdSource] [Toml.Package] [Parser] (hempty : HasEmptyHome w)
    (calls : List (Int × List String)) :
    (∀ way ≠ [], (session w calls).tree.SoundAt (w.home ++ way)) ∧
      (∀ location, w.tree.SoundAt location → (session w calls).tree.SoundAt location) ∧
      (∀ name location table,
        openTable (session w calls).tree ((session w calls).projectPath name) = .ok (location, table) →
        w.tree.SoundAt location → table.IsSound) ∧
      ∀ call fault, (answerAt (session w calls) call).ending = .error fault → fault.isUsage = true →
        ∀ location, (answerAt (session w calls) call).workspace.tree.rowsAt location =
          (session w calls).tree.rowsAt location := by
  have hsettled : IsSettled w := ⟨hempty.toHasHome, hempty.not_hasStore (List.cons_ne_nil _ _)⟩
  have hfollows := session_follows hsettled calls
  refine ⟨fun way hway => ?_, hfollows.sound, fun name location table hopen hsound => ?_,
    fun call fault hfault husage => ?_⟩
  · exact hfollows.sound _ (soundAt_of_not_hasStore (hempty.not_hasStore hway))
  · exact soundTable_of_openTable hopen (hfollows.sound location hsound)
  · exact (answerAt_isSafe (hfollows.isSettled hsettled) call).refused fault hfault husage

/-- A project whose references are linked and mentioned, each of them also in vain. -/
def desk : List (Int × List String) :=
  [(1000, ["project", "create", "a"]), (1001, ["refs", "link", "task:1", "session:s"]),
    (1002, ["refs", "link", "task:1", "robot:x"]), (1003, ["refs", "link", "task:1", "session:s"]),
    (1004, ["refs", "mentions", "task:1", "see [[skill:k]], [[robot:x]] and [[skill:k]]"])]

/-- A command line that takes an entity without an id. -/
def refusedCall : Int × List String := (1005, ["refs", "link", "task:1", "session"])

theorem session_keepsStoresSound_desk :
    HasEmptyHome shelf ∧
      ((session shelf desk).tree.rowsAt ["home", "sg", "memory", "a", "references.db"]).map Row.link =
        [⟨⟨"task", "1"⟩, ⟨"session", "s"⟩, "related_to"⟩, ⟨⟨"task", "1"⟩, ⟨"skill", "k"⟩, "mentions"⟩] ∧
      (session shelf desk).tree.SoundAt ["home", "sg", "memory", "a", "references.db"] ∧
      (answerAt (session shelf desk) refusedCall).ending =
        .error (invalid "Expected TYPE:ID, got 'session'.") ∧
      ∀ location, (answerAt (session shelf desk) refusedCall).workspace.tree.rowsAt location =
        (session shelf desk).tree.rowsAt location := by
  obtain ⟨hhome, -, -, hrefused⟩ := session_keepsStoresSound hasEmptyHome_shelf desk
  have hending : (answerAt (session shelf desk) refusedCall).ending =
      .error (invalid "Expected TYPE:ID, got 'session'.") := by decide +kernel
  exact ⟨hasEmptyHome_shelf, by decide +kernel, hhome ["memory", "a", "references.db"] (by decide),
    hending, hrefused refusedCall _ hending rfl⟩

end CommandLine

end ChangeImpact
