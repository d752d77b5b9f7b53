import ChangeImpact.Fault

/-!
# What is given as metadata

Metadata may be anything when it is given.  It is kept as the text of a document, so that what no document
can be written of is refused when it is to be stored: a value of a kind that documents have no place for, a
whole number of too many digits, or lists and objects that are nested too deeply.
-/

namespace ChangeImpact

namespace Json

mutual

/-- Faults unless a document can be written of the value, with room for so many levels. -/
def needWritable (room : Nat) : Json → Checked Unit
  | .int n => guardThat ((Nat.toDigits 10 n.natAbs).length ≤ maxDigits) .tooLongToWrite
  | .arr items => do
    guardThat (0 < room) .tooDeep
    needWritableItems (room - 1) items
  | .obj fields => do
    guardThat (0 < room) .tooDeep
    needWritableFields (room - 1) fields
  | .null | .bool _ | .float _ | .str _ => .ok ()

/-- Faults unless documents can be written of the items of a list; the first fault counts. -/
def needWritableItems (room : Nat) : List Json → Checked Unit
  | [] => .ok ()
  | item :: rest => do
    needWritable room item
    needWritableItems room rest

/-- Faults unless documents can be written of the fields of an object. -/
def needWritableFields (room : Nat) : List (String × Json) → Checked Unit
  | [] => .ok ()
  | (_, value) :: rest => do
    needWritable room value
    needWritableFields room rest

end

end Json

/-- What is given as metadata: a value that is written as a document, or something else, with the fault that
writing it ends in. -/
inductive Payload where
  | document (value : Json)
  | unwritable (fault : Fault)
deriving DecidableEq

namespace Payload

/-- Nothing. -/
def null : Payload := document .null

/-- A value as metadata. -/
def of (value : Json) : Payload :=
  match value.needWritable Json.maxNesting with
  | .ok () => document value
  | .error fault => unwritable fault

/-- The value that is kept of some metadata; null stands in for empty values, and for what is not kept. -/
def kept : Payload → Json
  | document value => if value.truthy then value else .null
  | unwritable _ => .null

/-- Faults unless a document is written of the metadata. -/
def needDocument : Payload → Checked Unit
  | document _ => .ok ()
  | unwritable fault => .error fault

end Payload

end ChangeImpact
