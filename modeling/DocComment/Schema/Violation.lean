import DocComment.Json.Display
import DocComment.Schema.Shape

/-!
# Violations of a shape

A document is compared with the shape of block lists place by place, and every rule that a place
breaks is a violation.
-/

namespace DocComment.Schema

open DocComment

/-- A step down into a document. -/
inductive Step where
  | index (i : Nat)
  | field (name : String)
deriving DecidableEq, Repr

/-- The rule that is broken. -/
inductive Rule where
  | wrongKind (expected : Kind)
  | missing (name : String)
  | belowZero
  | unexpected (names : List (List CodePoint))
deriving DecidableEq, Repr

/-- A broken rule, what breaks it and where that stands. -/
structure Violation where
  path : List Step
  value : Json
  rule : Rule
  /-- Whether the value is of the kind that its shape asks for. -/
  ofKind : Bool
deriving Repr

/-- The violation one step further up. -/
def Violation.below (step : Step) (violation : Violation) : Violation :=
  { violation with path := step :: violation.path }

/-- Whether a value is a number less than zero. -/
def isBelowZero : Json → Bool
  | .int n => n < 0
  | .real x => x.isNegative
  | _ => false

/-- The rules on a value that say nothing of what is in it. -/
def ownViolations (shape : Shape) (value : Json) : List Violation :=
  let ofKind := shape.kind.admits value
  (if ofKind then [] else [⟨[], value, .wrongKind shape.kind, false⟩]) ++
    (if shape.isNonnegative && isBelowZero value then [⟨[], value, .belowZero, ofKind⟩] else [])

/-- The required fields that an object lacks. -/
def missingFields (shape : Shape) (fields : List (List CodePoint × Json)) : List Violation :=
  let missing := shape.fields.filter fun field =>
    (Record.get? fields (CodePoint.listOf field.1)).isNone
  missing.map fun field =>
    ⟨[], .object fields, .missing field.1, shape.kind.admits (.object fields)⟩

/-- The fields of an object that a closed shape does not have. -/
def unexpectedFields (shape : Shape) (fields : List (List CodePoint × Json)) : List Violation :=
  let names := (fields.map (·.1)).filter fun name => (shape.field? name).isNone
  if shape.isClosed && !names.isEmpty then
    [⟨[], .object fields, .unexpected (names.mergeSort CodePoint.inOrder),
      shape.kind.admits (.object fields)⟩]
  else []

mutual

/-- The violations in a value and in what it holds: first its own kind, then missing fields, then
what is in its fields in the order of the shape, then fields too many; or its items in order. -/
def violations (shape : Shape) : Json → List Violation
  | .array items =>
    ownViolations shape (.array items) ++
      match shape.item? with
      | some item => itemViolations item 0 items
      | none => []
  | .object fields =>
    let inFields := fieldViolations shape fields
    ownViolations shape (.object fields) ++ missingFields shape fields ++
      shape.fields.flatMap (fun field => (inFields.lookup field.1).getD []) ++
      unexpectedFields shape fields
  | other => ownViolations shape other

/-- The violations in the items of an array, the first of them at `index`. -/
def itemViolations (shape : Shape) (index : Nat) : List Json → List Violation
  | [] => []
  | item :: rest =>
    (violations shape item).map (Violation.below (.index index)) ++
      itemViolations shape (index + 1) rest

/-- The violations in each field of an object that the shape knows. -/
def fieldViolations (shape : Shape) :
    List (List CodePoint × Json) → List (String × List Violation)
  | [] => []
  | (name, value) :: rest =>
    match shape.field? name with
    | some (known, inner) =>
      (known, (violations inner value).map (Violation.below (.field known))) ::
        fieldViolations shape rest
    | none => fieldViolations shape rest

end

/-! ## How it is reported -/

/-- The keyword of a rule. -/
def Rule.keyword : Rule → String
  | .wrongKind _ => "type"
  | .missing _ => "required"
  | .belowZero => "minimum"
  | .unexpected _ => "additionalProperties"

/-- What is wrong. -/
def Violation.message (violation : Violation) : String :=
  let shown := String.ofList violation.value.display
  match violation.rule with
  | .wrongKind expected => shown ++ s!" is not of type '{expected.label}'"
  | .missing name => String.ofList (Text.quoted name.toList) ++ " is a required property"
  | .belowZero => shown ++ " is less than the minimum of 0"
  | .unexpected names =>
    let quotedNames := names.map Text.quotedCodes
    let verb := if names.length = 1 then "was" else "were"
    "Additional properties are not allowed (" ++
      String.ofList (Value.commaSeparated quotedNames) ++ s!" {verb} unexpected)"

/-- A step as part of a written path. -/
def Step.label : Step → String
  | .index i => toString i
  | .field name => name

/-- Where the violation is: the steps from the root, separated by slashes. -/
def Violation.location (violation : Violation) : String :=
  String.intercalate "/" (violation.path.map Step.label)

end DocComment.Schema
