import ChangeImpact.Reference.Table
import ChangeImpact.Text.Search

/-!
# Conditions on rows

What is looked for is told by conditions with question marks, each of which stands for a parameter.  The
parameters are given in a list of their own, and belong to the question marks in the order in which these
are written.
-/

namespace ChangeImpact

/-- A column that is looked at. -/
inductive Column where
  | sourceType
  | sourceId
  | targetType
  | targetId
  | relationship
deriving DecidableEq

namespace Column

/-- The name of a column. -/
def name : Column → String
  | sourceType => "source_type"
  | sourceId => "source_id"
  | targetType => "target_type"
  | targetId => "target_id"
  | relationship => "relationship"

/-- What a row has in a column. -/
def textIn (row : Row) : Column → String
  | sourceType => row.link.source.type
  | sourceId => row.link.source.id
  | targetType => row.link.target.type
  | targetId => row.link.target.id
  | relationship => row.link.relationship

end Column

/-- A condition on a row. -/
inductive Condition where
  | equals (column : Column)
  | among (column : Column) (count : Nat)
  | both (first second : Condition)
  | either (first second : Condition)
deriving DecidableEq

namespace Condition

/-- How a condition is written. -/
def text : Condition → String
  | equals column => column.name ++ " = ?"
  | among column count =>
    column.name ++ " IN (" ++ String.ofList (Text.joinWith [','] (List.replicate count ['?'])) ++ ")"
  | both first second => "(" ++ first.text ++ " AND " ++ second.text ++ ")"
  | either first second => "(" ++ first.text ++ " OR " ++ second.text ++ ")"

/-- The number of parameters of a condition. -/
def arity : Condition → Nat
  | equals _ => 1
  | among _ count => count
  | both first second | either first second => first.arity + second.arity

/-- Whether a row meets a condition, whose parameters are the first of some; nothing equals a parameter that
is null. -/
def holds (row : Row) : Condition → List (Option String) → Bool
  | equals column, parameters => parameters.head? = some (some (column.textIn row))
  | among column count, parameters => (parameters.take count).contains (some (column.textIn row))
  | both first second, parameters =>
    first.holds row parameters && second.holds row (parameters.drop first.arity)
  | either first second, parameters =>
    first.holds row parameters || second.holds row (parameters.drop first.arity)

/-- The entity is the source. -/
def atSource : Condition := both (equals .sourceType) (equals .sourceId)

/-- The entity is the target. -/
def atTarget : Condition := both (equals .targetType) (equals .targetId)

/-- The entity is on the side of a direction. -/
def onSide : Direction → Condition
  | .forward => atSource
  | .reverse => atTarget
  | .both => either atSource atTarget

end Condition

/-- What rows have to meet: some conditions, each with what its question marks stand for. -/
structure Clause where
  terms : List (Condition × List Json)

namespace Clause

/-- How a clause is written; without a condition it is left out. -/
def text (clause : Clause) : String :=
  if clause.terms.isEmpty then ""
  else
    "WHERE " ++
      String.ofList (Text.joinWith " AND ".toList (clause.terms.map fun term => term.1.text.toList))

/-- The parameters of a clause. -/
def parameters (clause : Clause) : List Json := clause.terms.flatMap Prod.snd

end Clause

/-- Which rows are looked for: those that meet all conditions, each with its share of the parameters. -/
structure Filter where
  conditions : List Condition
  parameters : List (Option String)

namespace Filter

/-- Whether a row meets some conditions. -/
def meetsAll (row : Row) : List Condition → List (Option String) → Bool
  | [], _ => true
  | condition :: rest, parameters =>
    condition.holds row parameters && meetsAll row rest (parameters.drop condition.arity)

/-- Whether a row is looked for. -/
def accepts (filter : Filter) (row : Row) : Bool := meetsAll row filter.conditions filter.parameters

/-- The rows at an entity, on the side of a direction. -/
def touching (key : EntityKey) (direction : Direction) : Filter where
  conditions := [.onSide direction]
  parameters :=
    match direction with
    | .forward | .reverse => [some key.type, some key.id]
    | .both => [some key.type, some key.id, some key.type, some key.id]

end Filter

namespace Clause

/-- The texts of some parameters, of which the first has the given position. -/
def bindAll : Nat → List Json → Checked (List (Option String))
  | _, [] => .ok []
  | position, value :: rest => do
    let text ← value.cell position
    return text :: (← bindAll (position + 1) rest)

/-- The clause with its parameters as texts. -/
def bind (clause : Clause) : Checked Filter := do
  return ⟨clause.terms.map Prod.fst, ← bindAll 1 clause.parameters⟩

end Clause

end ChangeImpact
