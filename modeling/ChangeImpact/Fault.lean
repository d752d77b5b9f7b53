import ChangeImpact.Json.Display
import ChangeImpact.Json.Reader

/-!
# Faults

Everything that can go wrong is a `Fault`: the cause, with the values that its message
names.  `Fault.message?` is the wording; the causes that say no more than that a value has
the wrong shape have none.
-/

namespace ChangeImpact

/-- Why an operation did not give a result. -/
inductive Fault where
  /-- A value of a kind that the operation is not defined for, or a record with a field
  too many or too few. -/
  | wrongType
  /-- A value that is not the text or the object that was needed. -/
  | noSuchPart
  /-- A key that is not there. -/
  | missingKey
  /-- A value outside the words it has to be one of. -/
  | invalidChoice (what : String) (given : Json) (choices : List String)
  /-- A value outside a set that the message does not list. -/
  | invalidMember (what : String) (given : Json)
  /-- Project knowledge that is no object. -/
  | knowledgeNotObject
  /-- A reference without an id on one of its sides. -/
  | incompleteReference
  /-- A text that is no document. -/
  | malformed (place : Json.Malformed)
  /-- A rule condition that failed on purpose. -/
  | ruleFailed (message : String)
  /-- A setting that does not exist. -/
  | unknownSetting (group key : String)
  /-- A setting that needs a truth value. -/
  | notBoolean (group key raw : String)
  /-- A text that is no whole number. -/
  | notInteger (raw : String)
  /-- A text that is no number. -/
  | notNumber (raw : String)
  /-- A whole number of more digits than are converted. -/
  | tooManyDigits (count : Nat)
  /-- NaN where a whole number is needed. -/
  | nanToInteger
  /-- An infinity where a whole number is needed. -/
  | infinityToInteger
  /-- An entry that is no pair of a key and a value. -/
  | notPair (position length : Nat)
  /-- A value that the database does not store. -/
  | unstorable (parameter : Nat) (kind : String)
  /-- An integer beyond the sixty-four bits that the database stores. -/
  | integerTooLarge
  /-- A row limit that is no integer. -/
  | datatypeMismatch
  /-- A database that has been closed. -/
  | closedDatabase
  /-- A database whose directory is missing. -/
  | cannotOpenDatabase
  /-- A file that is no database. -/
  | notDatabase
  /-- A file name with a null character. -/
  | nullInName
  /-- A file name of more bytes than are allowed. -/
  | nameTooLong
  /-- A place in a text or a list that it does not have. -/
  | noSuchPlace
  /-- A value that is asked for before there is one. -/
  | noValueYet
  /-- A whole number of more digits than are written. -/
  | tooLongToWrite
  /-- A value of a kind that documents have no place for. -/
  | unwritable (kind : String)
  /-- A character code beyond thirty-two bits. -/
  | codeTooLarge
  /-- A document that is nested too deeply. -/
  | tooDeep
  /-- A configuration file that breaks the rules of its format. -/
  | malformedSettings
  /-- An integer beyond the largest finite number. -/
  | integerBeyondNumbers
  /-- A cell of a table that is no text. -/
  | notShowable
  /-- A file where a directory is to be made. -/
  | fileExists
  /-- A file where a directory is needed. -/
  | notDirectory
  /-- A directory where a file is needed. -/
  | isDirectory
  /-- A path that leads nowhere. -/
  | noSuchFile
  /-- A directory that still holds something. -/
  | notEmpty
  /-- An argument that a command does not accept. -/
  | badArgument (message : String)
  /-- An argument or option that a command lacks. -/
  | missingArgument (message : String)
  /-- An option that a command does not have. -/
  | noSuchOption (message : String)
  /-- An option used with a value too many or too few. -/
  | badOptionUse (message : String)
  /-- A command line that does not fit together. -/
  | usage (message : String)
deriving DecidableEq

namespace Fault

/-- A list of words for a message. -/
def listed (words : List String) : String := ", ".intercalate words

/-- The first characters of a text, at most so many. -/
def shortened (count : Nat) (text : String) : String := String.ofList (text.toList.take count)

/-- The wording of a fault, where it has one. -/
def message? : Fault → Option String
  | invalidChoice what given choices =>
    some s!"Invalid {what} {given.quotation}; expected one of: {listed choices}"
  | invalidMember what given => some s!"Invalid {what} {given.quotation}"
  | knowledgeNotObject => some "Project knowledge must be a JSON object"
  | incompleteReference => some "Entity references need both a source id and a target id"
  | malformed place => some place.message
  | ruleFailed message => some message
  | unknownSetting group key => some s!"Unknown config key: {group}.{key}"
  | notBoolean group key raw =>
    some s!"Expected a boolean for {group}.{key}, got {Text.quoted raw}"
  | notInteger raw => some s!"invalid literal for int() with base 10: {shortened 200 (Text.quoted raw)}"
  | notNumber raw => some s!"could not convert string to float: {Text.quoted raw}"
  | tooManyDigits count =>
    some s!"Exceeds the limit (4300 digits) for integer string conversion: value has {count} digits; use sys.set_int_max_str_digits() to increase the limit"
  | tooLongToWrite =>
    some "Exceeds the limit (4300 digits) for integer string conversion; use sys.set_int_max_str_digits() to increase the limit"
  | unwritable kind => some s!"Object of type {kind} is not JSON serializable"
  | codeTooLarge => some "Python int too large to convert to C int"
  | malformedSettings => some "Malformed configuration"
  | nanToInteger => some "cannot convert float NaN to integer"
  | infinityToInteger => some "cannot convert float infinity to integer"
  | notPair position length =>
    some s!"dictionary update sequence element #{position} has length {length}; 2 is required"
  | unstorable parameter kind =>
    some s!"Error binding parameter {parameter}: type '{kind}' is not supported"
  | integerTooLarge => some "Python int too large to convert to SQLite INTEGER"
  | datatypeMismatch => some "datatype mismatch"
  | closedDatabase => some "Cannot operate on a closed database."
  | cannotOpenDatabase => some "unable to open database file"
  | notDatabase => some "file is not a database"
  | nullInName => some "embedded null byte"
  | integerBeyondNumbers => some "int too large to convert to float"
  | badArgument message | missingArgument message | noSuchOption message | badOptionUse message
  | usage message => some message
  | wrongType | noSuchPart | missingKey | fileExists | notDirectory | isDirectory | noSuchFile
  | notEmpty | nameTooLong | noSuchPlace | noValueYet | tooDeep | notShowable => none

/-- Whether a fault is about a value that is not accepted for what it says, and has a wording. -/
def isAboutValue : Fault → Bool
  | invalidChoice .. | invalidMember .. | knowledgeNotObject | incompleteReference | malformed _
  | unknownSetting .. | notBoolean .. | notInteger _ | notNumber _ | tooManyDigits _
  | tooLongToWrite | nanToInteger | notPair .. | nullInName | malformedSettings => true
  | _ => false

/-- The fault of a text that is not read as a document. -/
def ofUnread : Json.Unread → Fault
  | .malformed place => malformed place
  | .tooManyDigits count => tooManyDigits count
  | .tooDeep => tooDeep

end Fault

/-- A computation that may end in a fault. -/
abbrev Checked (α : Type) := Except Fault α

/-- Goes on if the condition holds and faults otherwise. -/
def guardThat (condition : Bool) (fault : Fault) : Checked Unit :=
  if condition then .ok () else .error fault

namespace Json

/-- The text that a value has to be. -/
def needText (value : Json) : Checked String :=
  match value with
  | .str s => .ok s
  | _ => .error .noSuchPart

/-- Faults unless a value is a number; truth values count as ones. -/
def needNumber (value : Json) : Checked Unit :=
  match value with
  | .int _ | .bool _ | .float _ => .ok ()
  | _ => .error .wrongType

/-- What a value yields one by one: the items of a list, the characters of a text, the
field names of an object. -/
def elements : Json → Checked (List Json)
  | .arr items => .ok items
  | .str s => .ok (s.toList.map fun c => .str (String.singleton c))
  | .obj fields => .ok (fields.map fun field => .str field.1)
  | _ => .error .wrongType

/-- The field of an object, or the value to use if it has none; only objects have
fields. -/
def part (value : Json) (key : String) (fallback : Json) : Checked Json :=
  match value with
  | .obj fields => .ok ((lookup key fields).getD fallback)
  | _ => .error .noSuchPart

end Json

end ChangeImpact
