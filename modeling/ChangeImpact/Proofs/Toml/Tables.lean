import ChangeImpact.Proofs.Checked
import ChangeImpact.Proofs.Json.Fields
import ChangeImpact.Text.Lines
import ChangeImpact.Toml.Package

/-!
# The tables that are read

Entries, headers and inline tables all add to a table by setting a field of it, which takes the place of
the one with its key. So no table that is read has a key twice, however deep it lies:

> `isProper_of_read`: what is read from a text is a table without a key twice, and so is every table
> inside it.

A line changes the document at the place that the last header opened. What is put there is proper
because it is made of proper parts; the values of entries are proper by induction on the room that is
left for reading them. That no key comes twice is half of what the settings rely on of a package
(`IsLawful`), so that the one which the program runs with is lawful (`isLawful_standard`).
-/

namespace ChangeImpact.Toml

namespace Value

/-- No table, neither the value itself nor one inside it, has a key twice. -/
inductive IsProper : Value → Prop
  | intro {value : Value} (items : ∀ items, value = .list items → ∀ item ∈ items, IsProper item)
      (names : ∀ fields, value = .table fields → (fields.map Prod.fst).Nodup)
      (fields : ∀ fields, value = .table fields → ∀ field ∈ fields, IsProper field.2) : IsProper value

variable {value item new : Value} {items : List Value} {fields : List (String × Value)}
  {name : String} {steps : List Step}

/-- A list of proper values is proper. -/
theorem isProper_list (h : ∀ item ∈ items, item.IsProper) : IsProper (.list items) :=
  .intro (fun _ heq => Value.list.inj heq ▸ h) nofun nofun

/-- So is a table of them in which no name comes twice. -/
theorem isProper_table (hnames : (fields.map Prod.fst).Nodup) (h : ∀ field ∈ fields, field.2.IsProper) :
    IsProper (.table fields) :=
  .intro nofun (fun _ heq => Value.table.inj heq ▸ hnames) fun _ heq => Value.table.inj heq ▸ h

theorem IsProper.of_mem_items (h : IsProper (.list items)) : ∀ item ∈ items, item.IsProper := by
  cases h with
  | intro hitems _ _ => exact hitems items rfl

theorem IsProper.nodup (h : IsProper (.table fields)) : (fields.map Prod.fst).Nodup := by
  cases h with
  | intro _ hnames _ => exact hnames fields rfl

theorem IsProper.of_mem_fields (h : IsProper (.table fields)) : ∀ field ∈ fields, field.2.IsProper := by
  cases h with
  | intro _ _ hfields => exact hfields fields rfl

/-- What has no parts is proper. -/
theorem isProper_plain (hlist : ∀ items, value ≠ .list items) (htable : ∀ fields, value ≠ .table fields) :
    value.IsProper :=
  .intro (fun items h => absurd h (hlist items)) (fun fields h => absurd h (htable fields))
    fun fields h => absurd h (htable fields)

theorem isProper_null : IsProper .null := isProper_plain nofun nofun

theorem isProper_empty : IsProper (.table []) :=
  isProper_table List.nodup_nil fun _ h => absurd h List.not_mem_nil

/-! ## Changing tables -/

/-- What is found in a proper table is proper. -/
theorem IsProper.getD_lookup (h : IsProper (.table fields)) {fallback : Value}
    (hfallback : fallback.IsProper) (name : String) :
    ((Json.lookup name fields).getD fallback).IsProper := by
  cases hfound : Json.lookup name fields with
  | none => exact hfallback
  | some value => exact h.of_mem_fields _ (Json.mem_of_lookup hfound)

/-- A proper table stays so when a field is set. -/
theorem IsProper.setField (h : IsProper (.table fields)) (hvalue : value.IsProper) (name : String) :
    IsProper (.table (Json.setField name value fields)) := by
  refine isProper_table (Json.nodup_setField name value h.nodup) fun field hfield => ?_
  rcases Json.mem_setField hfield with rfl | hfield
  · exact hvalue
  · exact h.of_mem_fields field hfield

/-- Any value stays proper when an entry is put into it. -/
theorem IsProper.withEntry (h : value.IsProper) (hnew : new.IsProper) (name : String) :
    (withEntry name new value).IsProper := by
  unfold Toml.withEntry
  split
  next => exact h.setField hnew name
  next => exact h

/-- The last item of a proper list is proper. -/
theorem IsProper.last (h : value.IsProper) (hlast : value.last? = .ok item) : item.IsProper := by
  unfold last? at hlast
  split at hlast
  next items =>
    split at hlast
    next found hfound =>
      cases hlast
      exact h.of_mem_items _ (List.mem_of_getLast? hfound)
    next => cases hlast
  next =>
    split at hlast
    next => cases hlast; exact isProper_plain nofun nofun
    next => cases hlast
  next => cases hlast

/-- Another proper item may take its place. -/
theorem isProper_replaceLast (h : IsProper (.list items)) (hnew : new.IsProper) :
    IsProper (.list (items.dropLast ++ [new])) := by
  refine isProper_list fun item hitem => ?_
  rcases List.mem_append.mp hitem with hitem | hitem
  · exact h.of_mem_items item (List.dropLast_subset _ hitem)
  · exact List.mem_singleton.mp hitem ▸ hnew

/-- That also goes for what is no list. -/
theorem IsProper.withLast (h : value.IsProper) (hnew : new.IsProper) : (withLast new value).IsProper := by
  unfold Toml.withLast
  split
  next => exact isProper_replaceLast h hnew
  next => exact h

/-- Whatever is found along some steps is proper. -/
theorem isProper_follow (steps : List Step) (h : value.IsProper) : (value.follow steps).IsProper := by
  fun_induction follow steps value with
  | case1 value => exact h
  | case2 name steps fields ih => exact ih (h.getD_lookup isProper_null name)
  | case3 steps value item hlast ih => exact ih (h.last hlast)
  | case4 => exact isProper_plain nofun nofun
  | case5 => exact isProper_plain nofun nofun

/-- So is a value into which a proper one is put along some steps. -/
theorem isProper_putAt (hnew : new.IsProper) (steps : List Step) (h : value.IsProper) :
    (putAt new steps value).IsProper := by
  fun_induction putAt new steps value with
  | case1 => exact hnew
  | case2 name steps fields ih =>
    exact h.setField (ih (h.getD_lookup isProper_null name)) name
  | case3 steps items item hlast ih =>
    exact isProper_replaceLast h (ih (h.of_mem_items item (List.mem_of_getLast? hlast)))
  | case4 => exact h
  | case5 => exact h

end Value

open Value

/-! ## Headers -/

/-- Opening a further table of a list adds an empty one. -/
theorem isProper_withTable {value changed : Value} (h : value.IsProper)
    (hchanged : withTable value = .ok changed) : changed.IsProper := by
  unfold withTable at hchanged
  split at hchanged
  next items =>
    cases hchanged
    refine isProper_list fun item hitem => ?_
    rcases List.mem_append.mp hitem with hitem | hitem
    · exact h.of_mem_items item hitem
    · exact List.mem_singleton.mp hitem ▸ isProper_empty
  next => cases hchanged

/-- What a header makes is an empty table or a list of one. -/
theorem isProper_made (asList : Bool) : (if asList then Value.list [.table []] else .table []).IsProper := by
  cases asList with
  | true => exact isProper_list fun item hitem => List.mem_singleton.mp hitem ▸ isProper_empty
  | false => exact isProper_empty

/-- Opening a name finds a proper value or makes an empty one. -/
theorem isProper_openName {inList isLast : Bool} {name : String} {implied : List String}
    {fields : List (String × Value)} {opened : Value × List String} (h : (Value.table fields).IsProper)
    (hopened : openName inList isLast name implied fields = .ok opened) : opened.1.IsProper := by
  unfold openName at hopened
  split at hopened
  next value hfound =>
    have hvalue : value.IsProper := h.of_mem_fields _ (Json.mem_of_lookup hfound)
    split at hopened
    · cases hopened; exact hvalue
    · split at hopened
      · split at hopened
        · cases hopened
        · cases hopened; exact hvalue
      · split at hopened
        · obtain ⟨changed, hchanged, rfl⟩ := Checked.map_eq_ok.mp hopened
          exact isProper_withTable hvalue hchanged
        · cases hopened
  next =>
    cases hopened
    exact isProper_made _

/-- Opens the table under some names in what a header found or made under the name before them. -/
def enter (inList : Bool) (names implied : List String) (inner : Value) : Checked Opened :=
  match inList, inner with
  | false, _ | true, .table _ => openTable inList names implied inner
  | true, inner => do
    let opened ← openTable inList names implied (← inner.last?)
    return ⟨withLast opened.value inner, .last :: opened.steps, opened.implied⟩

/-- How the tables of a header are opened name by name. -/
theorem openTable_cons (inList : Bool) (name : String) (names implied : List String) (value : Value) :
    openTable inList (name :: names) implied value = (do
      guardThat (name ≠ "") .malformedSettings
      match value with
      | .table fields =>
        let found ← openName inList names.isEmpty name implied fields
        let opened ← enter inList names found.2 found.1
        return ⟨.table (Json.setField name opened.value fields), .key name :: opened.steps, opened.implied⟩
      | value =>
        match ← value.last? with
        | .table fields =>
          let opened ← enter inList names implied (openInLast inList names.isEmpty name fields)
          return ⟨withLast (.table (Json.setField name opened.value fields)) value,
            .last :: .key name :: opened.steps, opened.implied⟩
        | _ => throw .wrongType) := rfl

/-- **Headers.** What a header opens leaves the whole document proper. -/
theorem isProper_openTable {inList : Bool} {names implied : List String} {value : Value} {opened : Opened}
    (h : value.IsProper) (hopened : openTable inList names implied value = .ok opened) :
    opened.value.IsProper := by
  induction names generalizing implied value opened with
  | nil => cases hopened; exact h
  | cons name names ih =>
    -- the rest of the names lead on from what is under the first, in a list from its last item
    have henter : ∀ {implied inner inside}, inner.IsProper → enter inList names implied inner = .ok inside →
        inside.value.IsProper := by
      intro implied inner inside hinner hinside
      unfold enter at hinside
      split at hinside
      next => exact ih hinner hinside
      next => exact ih hinner hinside
      next =>
        obtain ⟨item, hitem, hinside⟩ := Checked.bind_eq_ok.mp hinside
        obtain ⟨deeper, hdeeper, hinside⟩ := Checked.bind_eq_ok.mp hinside
        cases hinside
        exact hinner.withLast (ih (hinner.last hitem) hdeeper)
    rw [openTable_cons] at hopened
    obtain ⟨-, -, hopened⟩ := Checked.bind_eq_ok.mp hopened
    split at hopened
    next fields =>
      obtain ⟨found, hfound, hopened⟩ := Checked.bind_eq_ok.mp hopened
      obtain ⟨inside, hinside, hopened⟩ := Checked.bind_eq_ok.mp hopened
      cases hopened
      exact h.setField (henter (isProper_openName h hfound) hinside) name
    next =>
      obtain ⟨item, hitem, hopened⟩ := Checked.bind_eq_ok.mp hopened
      split at hopened
      next fields =>
        obtain ⟨inside, hinside, hopened⟩ := Checked.bind_eq_ok.mp hopened
        cases hopened
        have htable := h.last hitem
        have hfound : (openInLast inList names.isEmpty name fields).IsProper :=
          htable.getD_lookup (isProper_made _) name
        exact h.withLast (htable.setField (henter hfound hinside) name)
      next => cases hopened

/-! ## Entries -/

/-- A change inside some tables keeps a value proper if it keeps what it changes so. -/
theorem isProper_within {α : Type} {change : Value → Checked (Value × α)} {names : List String}
    {value : Value} {result : Value × α}
    (hchange : ∀ value result, value.IsProper → change value = .ok result → result.1.IsProper)
    (h : value.IsProper) (hresult : within change names value = .ok result) : result.1.IsProper := by
  induction names generalizing value result with
  | nil => exact hchange value result h hresult
  | cons name names ih =>
    cases value with
    | table fields =>
      rw [within] at hresult
      obtain ⟨inner, hinner, hresult⟩ := Checked.bind_eq_ok.mp hresult
      cases hresult
      exact h.setField (ih (h.getD_lookup isProper_empty name) hinner) name
    | null | truth | whole | number | text | moment | list => cases hresult

/-- Numbers have no fields. -/
theorem isProper_numberValue {cs : List Char} {found : Value × Kind}
    (h : numberValue? cs = some found) : found.1.IsProper := by
  unfold numberValue? at h
  split at h
  next negative body hsigned =>
    extract_lets body name hasExponent number at h
    have hnumber : ∀ allowed, number allowed = some found → found.1.IsProper := by
      intro allowed hfound
      simp only [number] at hfound
      split at hfound
      next => cases hfound; exact isProper_plain nofun nofun
      next => cases hfound
    split at h
    next => exact hnumber _ h
    next =>
      split at h
      next => exact hnumber _ h
      next =>
        obtain ⟨n, -, rfl⟩ := Option.map_eq_some_iff.mp h
        exact isProper_plain nofun nofun

/-- Neither have values without brackets. -/
theorem isProper_bareValue {cs : List Char} {strict : Bool} {found : Value × Kind}
    (h : bareValue cs strict = .ok found) : found.1.IsProper := by
  unfold bareValue at h
  split at h
  next =>
    split at h
    next => cases h; exact isProper_plain nofun nofun
    next => cases h
  next =>
    obtain ⟨moment, -, h⟩ := Checked.bind_eq_ok.mp h
    split at h
    next => cases h; exact isProper_plain nofun nofun
    next =>
      obtain ⟨-, -, h⟩ := Checked.bind_eq_ok.mp h
      split at h
      next number hnumber =>
        cases h
        exact isProper_numberValue hnumber
      next => cases h

/-- The values of texts, the items of lists, and what inline tables and entries make of proper values are
proper, with this much room. -/
structure ReadsProper (room : Nat) : Prop where
  value : ∀ cs strict found, readValue room cs strict = .ok found → found.1.IsProper
  list : ∀ cs items, readList room cs = .ok items → ∀ item ∈ items, item.IsProper
  inline : ∀ cs value result, value.IsProper → readInline room cs value = .ok result → result.IsProper
  entry : ∀ line value result, value.IsProper → readEntry room line value = .ok result → result.1.IsProper

/-- Without room nothing is read. -/
theorem readsProper_zero : ReadsProper 0 where
  value := by intro cs strict found h; cases h
  list := by intro cs items h; cases h
  inline := by intro cs value result _ h; cases h
  entry := by intro line value result _ h; cases h

section Room

variable {room : Nat} (ih : ReadsProper room)

include ih

/-- Values in one more bracket are proper if those inside are. -/
theorem isProper_readValue {cs : List Char} {strict : Bool} {found : Value × Kind}
    (h : readValue (room + 1) cs strict = .ok found) : found.1.IsProper := by
  unfold readValue at h
  split at h
  next => cases h
  next first rest =>
    dsimp only at h
    -- a truth value, a text, a list and an inline table, of which the last two are read with less room
    split at h
    · obtain ⟨-, -, h⟩ := Checked.bind_eq_ok.mp h
      cases h
      exact isProper_plain nofun nofun
    split at h
    · obtain ⟨text, -, h⟩ := Checked.bind_eq_ok.mp h
      cases h
      exact isProper_plain nofun nofun
    split at h
    · obtain ⟨items, hitems, h⟩ := Checked.bind_eq_ok.mp h
      cases h
      exact isProper_list (ih.list _ _ hitems)
    split at h
    · obtain ⟨table, htable, h⟩ := Checked.bind_eq_ok.mp h
      cases h
      exact ih.inline _ _ _ isProper_empty htable
    exact isProper_bareValue h

/-- So are the items of a list. -/
theorem isProper_readList {cs : List Char} {items : List Value}
    (h : readList (room + 1) cs = .ok items) : ∀ item ∈ items, item.IsProper := by
  unfold readList at h
  obtain ⟨pieces, -, h⟩ := Checked.bind_eq_ok.mp h
  dsimp only at h
  obtain ⟨⟨found, kind⟩, hfound, h⟩ := Checked.bind_eq_ok.mp h
  cases h
  have hall := Checked.foldlM_keeps (p := fun items => ∀ item ∈ items.1, item.IsProper) ?_
    (fun _ h => absurd h List.not_mem_nil) hfound
  · exact fun item hitem => hall item (List.mem_reverse.mp hitem)
  · intro piece _ known next hknown hnext
    obtain ⟨value, hvalue, hnext⟩ := Checked.bind_eq_ok.mp hnext
    obtain ⟨-, -, hnext⟩ := Checked.bind_eq_ok.mp hnext
    cases hnext
    exact List.forall_mem_cons.mpr ⟨ih.value _ _ _ hvalue, hknown⟩

/-- Entries of an inline table are put into it one by one. -/
theorem isProper_readInline {cs : List Char} {value result : Value} (hvalue : value.IsProper)
    (h : readInline (room + 1) cs value = .ok result) : result.IsProper := by
  unfold readInline at h
  obtain ⟨lines, -, h⟩ := Checked.bind_eq_ok.mp h
  obtain ⟨⟨last, stopped⟩, hlast, h⟩ := Checked.bind_eq_ok.mp h
  cases h
  refine Checked.foldlM_keeps (p := fun known => known.1.IsProper) ?_ hvalue hlast
  rintro line - ⟨known, stopped⟩ next hknown hnext
  dsimp only at hnext
  split at hnext
  next => cases hnext; exact hknown
  next =>
    obtain ⟨⟨changed, opened⟩, hchanged, hnext⟩ := Checked.bind_eq_ok.mp hnext
    cases hnext
    exact ih.entry _ _ _ hknown hchanged

/-- So is an entry put into the value that holds it. -/
theorem isProper_readEntry {line : List Char} {value : Value} {result : Value × Option OpenText}
    (hvalue : value.IsProper) (h : readEntry (room + 1) line value = .ok result) : result.1.IsProper := by
  unfold readEntry at h
  obtain ⟨⟨key, text, strict⟩, -, h⟩ := Checked.bind_eq_ok.mp h
  obtain ⟨⟨around, name⟩, -, h⟩ := Checked.bind_eq_ok.mp h
  refine isProper_within (fun table changed htable hchanged => ?_) hvalue h
  -- a text that goes on in the next line is not entered yet
  obtain ⟨opens, -, hchanged⟩ := Checked.bind_eq_ok.mp hchanged
  split at hchanged
  next =>
    obtain ⟨-, -, hchanged⟩ := Checked.bind_eq_ok.mp hchanged
    obtain ⟨-, -, hchanged⟩ := Checked.bind_eq_ok.mp hchanged
    cases hchanged
    exact htable
  next =>
    obtain ⟨⟨entry, kind⟩, hentry, hchanged⟩ := Checked.bind_eq_ok.mp hchanged
    obtain ⟨-, -, hchanged⟩ := Checked.bind_eq_ok.mp hchanged
    cases hchanged
    exact htable.withEntry (ih.value _ _ _ hentry) name

end Room

/-- **Entries.** Whatever is read is proper, by induction on the room for brackets. -/
theorem readsProper (room : Nat) : ReadsProper room := by
  induction room with
  | zero => exact readsProper_zero
  | succ room ih =>
    exact ⟨fun _ _ _ => isProper_readValue ih, fun _ _ => isProper_readList ih,
      fun _ _ _ => isProper_readInline ih, fun _ _ _ => isProper_readEntry ih⟩

/-! ## Lines -/

variable {progress next : Progress} {line : List Char}

/-- A value put where entries go to keeps the document proper. -/
theorem isProper_withTarget {value : Value} (h : progress.document.IsProper) (hvalue : value.IsProper) :
    (progress.withTarget value).document.IsProper := isProper_putAt hvalue progress.steps h

/-- A text that goes on over lines is put where it was begun. -/
theorem isProper_readOpen {opened : OpenText} (h : progress.document.IsProper)
    (hnext : progress.readOpen opened line = .ok next) : next.document.IsProper := by
  have htarget : progress.target.IsProper := isProper_follow progress.steps h
  unfold Progress.readOpen at hnext
  extract_lets shown text at hnext
  split at hnext
  next => cases hnext; exact h
  next =>
    obtain ⟨closed, -, hnext⟩ := Checked.bind_eq_ok.mp hnext
    split at hnext
    next =>
      obtain ⟨⟨value, kind⟩, hvalue, hnext⟩ := Checked.bind_eq_ok.mp hnext
      cases hnext
      exact isProper_withTarget h (htarget.withEntry ((readsProper maxRoom).value _ _ _ hvalue) opened.key)
    next => cases hnext; exact h

/-- A header line leaves the document proper. -/
theorem isProper_readHeaderLine {cs : List Char} (h : progress.document.IsProper)
    (hnext : progress.readHeaderLine cs = .ok next) : next.document.IsProper := by
  unfold Progress.readHeaderLine at hnext
  extract_lets open' at hnext
  have hopen : ∀ header, open' header = .ok next → next.document.IsProper := by
    intro header hheader
    obtain ⟨opened, hopened, hheader⟩ := Checked.bind_eq_ok.mp hheader
    cases hheader
    exact isProper_openTable h hopened
  split at hnext
  next => cases hnext
  next =>
    obtain ⟨names, -, hnext⟩ := Checked.bind_eq_ok.mp hnext
    rw [pure_bind] at hnext
    exact hopen (true, names) hnext
  next =>
    obtain ⟨names, -, hnext⟩ := Checked.bind_eq_ok.mp hnext
    rw [pure_bind] at hnext
    exact hopen (false, names) hnext

/-- A line keeps the document proper. -/
theorem isProper_readLine (h : progress.document.IsProper) (hnext : progress.readLine line = .ok next) :
    next.document.IsProper := by
  have htarget : progress.target.IsProper := isProper_follow progress.steps h
  unfold Progress.readLine at hnext
  split at hnext
  next opened hopened => exact isProper_readOpen h hnext
  next =>
    split at hnext
    next => cases hnext; exact h
    next => exact isProper_readHeaderLine h hnext
    next =>
      obtain ⟨-, -, hnext⟩ := Checked.bind_eq_ok.mp hnext
      obtain ⟨table, htable, hnext⟩ := Checked.bind_eq_ok.mp hnext
      cases hnext
      exact isProper_withTarget h ((readsProper maxRoom).inline _ _ _ htarget htable)
    next =>
      split at hnext
      next =>
        obtain ⟨⟨value, opened⟩, hvalue, hnext⟩ := Checked.bind_eq_ok.mp hnext
        cases hnext
        exact isProper_withTarget h ((readsProper maxRoom).entry _ _ _ htarget hvalue)
      next => cases hnext; exact h

/-- **No key twice.** What is read from a text is a table without a key twice, and so are the tables
inside it. -/
theorem isProper_of_read {text : List Char} {fields : List (String × Value)} (h : read text = .ok fields) :
    (Value.table fields).IsProper := by
  unfold read at h
  obtain ⟨lines, -, h⟩ := Checked.bind_eq_ok.mp h
  obtain ⟨progress, hprogress, h⟩ := Checked.bind_eq_ok.mp h
  have hproper : progress.document.IsProper :=
    Checked.foldlM_keeps (p := fun progress => progress.document.IsProper)
      (fun _ _ _ _ => isProper_readLine) isProper_empty hprogress
  split at h
  next known hknown =>
    cases h
    rwa [hknown] at hproper
  next => cases h; exact isProper_empty

/-! ## What is relied on -/

/-- What the settings rely on of the package: a table that is read has no key twice, nor has one inside
it, and nothing is in an empty file. -/
structure IsLawful [Package] : Prop where
  proper : ∀ {text : List Char} {fields : List (String × Value)}, Package.read text = .ok fields →
    (Value.table fields).IsProper
  empty : Package.read (Text.withLineFeeds "".toList) = .ok []

/-- The package that the program runs with is lawful. -/
theorem isLawful_standard : @IsLawful standard where
  proper := isProper_of_read
  empty := by cbv

end ChangeImpact.Toml
