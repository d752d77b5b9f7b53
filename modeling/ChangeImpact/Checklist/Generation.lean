import ChangeImpact.Checklist.Sections

/-!
# Making a checklist

The sections are put together, and entries that say the same are merged: those of one
category whose titles agree in their small letters and digits once lower-cased.  Of merged
entries the first with the longest description stays, and it blocks if one of them does.
What is left is numbered.

`generate` is the operation of that name, and `deduplicate` is `_deduplicate`.
-/

namespace ChangeImpact.Checklist

/-- A title without regard to letter case and to anything but ASCII letters and digits. -/
def plainTitle (title : String) : List Char :=
  (Text.lowerChars title.toList).filter fun c =>
    Text.isAsciiLower c || ('0' ≤ c && c ≤ '9')

/-- What entries are merged by. -/
def mergeKey (item : CheckItem) : CheckCategory × List Char := (item.category, plainTitle item.title)

/-- Two entries as one. -/
def merge (old new : CheckItem) : CheckItem :=
  let kept := if old.description.length < new.description.length then new else old
  { kept with isBlocking := old.isBlocking.orElse new.isBlocking }

/-- Adds an entry: merged with the one of its key if there is one, as the last one
otherwise. -/
def addItem (item : CheckItem) : List CheckItem → List CheckItem
  | [] => [item]
  | other :: rest =>
    if mergeKey other = mergeKey item then merge other item :: rest else other :: addItem item rest

/-- The entries with those that say the same merged, in the order of first occurrence. -/
def deduplicate (items : List CheckItem) : List CheckItem :=
  items.foldl (fun kept item => addItem item kept) []

/-- The entries of all sections that take part. -/
def sections (settings : CheckSettings) (scope : Scope) (flows : List ImpactFlow)
    (risks : List Risk) : List CheckItem :=
  riskItems settings risks ++ (if settings.moduleTests then moduleItems settings scope else []) ++
    (if settings.flowChecks then flowItems flows else []) ++
    if settings.apiChecks then apiItems settings scope else []

/-- The checklist for a scope with its flows and risks. -/
def generate (settings : CheckSettings) (scope : Scope) (flows : List ImpactFlow)
    (risks : List Risk) : List CheckItem :=
  (deduplicate (sections settings scope flows risks)).zipIdx.map fun (item, i) =>
    { item with id := s!"val-{i}" }

/-- Faults on records of a scope and of flows, if a section in use cannot read them. -/
def check (settings : CheckSettings) (scope : Json) (flows : List Json) : Checked Unit := do
  if settings.moduleTests then checkModules scope
  if settings.flowChecks then checkFlows flows
  if settings.apiChecks then checkApi scope

/-- The checklist for the scope and the flows of some records, and for some risks; faults on
parts that a section in use cannot read. -/
def ofRecords (settings : CheckSettings) (scope : Json) (flows : List Json) (risks : List Risk) :
    Checked (List CheckItem) := do
  check settings scope flows
  return generate settings (.ofRecord scope) (flows.map .ofRecord) risks

end ChangeImpact.Checklist
