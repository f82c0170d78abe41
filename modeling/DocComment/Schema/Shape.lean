import DocComment.Json.Basic

/-!
# The shapes of block lists

A list of blocks that was written out as a document has a fixed shape: which kind of value stands
where, which fields a block and a tag have, and that a block has no others while a tag may.  The
shapes form a small grammar, recursive because tags nest.
-/

namespace DocComment.Schema

open DocComment

/-- The kinds of document that a shape asks for. -/
inductive Kind where
  | array
  | object
  | string
  | boolean
  | integer
deriving DecidableEq, Repr

/-- The name of a kind. -/
def Kind.label : Kind → String
  | .array => "array"
  | .object => "object"
  | .string => "string"
  | .boolean => "boolean"
  | .integer => "integer"

/-- Whether a document is of a kind.  A number with a fraction part of zero is an integer, a flag is
not. -/
def Kind.admits : Kind → Json → Bool
  | .array, .array _ => true
  | .object, .object _ => true
  | .string, .string _ => true
  | .boolean, .bool _ => true
  | .integer, .int _ => true
  | .integer, .real x => x.isWhole
  | _, _ => false

/-- What may stand at a place of a document. -/
inductive Shape where
  | blocks
  | block
  | tags
  | tag
  | text
  | flag
  | lineNumber
  | messages
deriving DecidableEq, Repr

namespace Shape

/-- The kind of document that a shape asks for. -/
def kind : Shape → Kind
  | .blocks | .tags | .messages => .array
  | .block | .tag => .object
  | .text => .string
  | .flag => .boolean
  | .lineNumber => .integer

/-- The fields that a shape requires, with their shapes. -/
def fields : Shape → List (String × Shape)
  | .block =>
    [("line", .lineNumber), ("description", .text), ("source", .text), ("tags", .tags)]
  | .tag =>
    [("tag", .text), ("type", .text), ("name", .text), ("description", .text), ("optional", .flag),
      ("line", .lineNumber), ("source", .text), ("tags", .tags), ("errors", .messages)]
  | _ => []

/-- The field that a shape has under a name, with its shape. -/
def field? (shape : Shape) (name : List CodePoint) : Option (String × Shape) :=
  shape.fields.find? fun field => CodePoint.listOf field.1 == name

/-- Whether no other fields may be present. -/
def isClosed : Shape → Bool
  | .block => true
  | _ => false

/-- The shape of the items of a list. -/
def item? : Shape → Option Shape
  | .blocks => some .block
  | .tags => some .tag
  | .messages => some .text
  | _ => none

/-- Whether a number has to be zero or more. -/
def isNonnegative : Shape → Bool
  | .lineNumber => true
  | _ => false

end Shape

end DocComment.Schema
