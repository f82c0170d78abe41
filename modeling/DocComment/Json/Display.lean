import DocComment.Json.Basic
import DocComment.Value.Display

/-!
# JSON documents in messages

Messages show a document as they show a value, each half of a surrogate pair by its escape.
-/

namespace DocComment.Json

open DocComment

mutual

/-- The text that stands for a document in a message. -/
def display : Json → Text
  | .null => Value.display .null
  | .bool flag => Value.display (.bool flag)
  | .int n => Value.display (.int n)
  | .real x => Value.display (.real x)
  | .string codes => Text.quotedCodes codes
  | .array items => '[' :: Value.commaSeparated (displayItems items) ++ [']']
  | .object fields => '{' :: Value.commaSeparated (displayFields fields) ++ ['}']

/-- The texts of several documents. -/
def displayItems : List Json → List Text
  | [] => []
  | item :: rest => display item :: displayItems rest

/-- The texts of fields: the quoted name, a colon and what it stands for. -/
def displayFields : List (List CodePoint × Json) → List Text
  | [] => []
  | (name, item) :: rest =>
    (Text.quotedCodes name ++ ':' :: ' ' :: display item) :: displayFields rest

end

end DocComment.Json
