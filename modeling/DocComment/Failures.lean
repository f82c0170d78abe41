import DocComment.Fault
import DocComment.Value.Record

/-!
# Failures recorded in tags

A tag tree read from anywhere is searched for tags that carry errors.  A tag comes before the tags
nested under it, and these before the next tag.  Whatever the tree holds, the search looks only at
the errors, the line, the keyword and the nested tags of each node.
-/

namespace DocComment

/-- What is told of a tag with errors. -/
def failureEntry (fields : Record) : List Value :=
  match Record.get? fields "errors" with
  | some errors =>
    if errors.isTruthy then
      [.record [("line", Record.getD fields "line" .null), ("tag", Record.getD fields "tag" .null),
        ("errors", errors)]]
    else []
  | none => []

/-- The fault of going through a value that holds no tags: it has no items, or its first item is no
record. -/
def notTags (value : Value) : Fault :=
  match value.items? with
  | some (first :: _) => .notRecord first
  | _ => .notIterable value

mutual

/-- The failures in a tag and below it. -/
def tagFailures : Value → Except Fault (List Value)
  | .record fields => do
    let below ← nestedFailures fields
    return failureEntry fields ++ below
  | other => .error (.notRecord other)

/-- The failures in tags one after the other. -/
def listFailures : List Value → Except Fault (List Value)
  | [] => .ok []
  | node :: rest => do
    let here ← tagFailures node
    let others ← listFailures rest
    return here ++ others

/-- The failures in the tags nested under a tag with these fields. -/
def nestedFailures : List (String × Value) → Except Fault (List Value)
  | [] => .ok []
  | (name, value) :: rest => if name = "tags" then branchFailures value else nestedFailures rest

/-- The failures in what stands where nested tags are due; nothing may stand there as well. -/
def branchFailures : Value → Except Fault (List Value)
  | .list items => listFailures items
  | .tuple items => listFailures items
  | other => if other.isTruthy then .error (notTags other) else .ok []

end

/-- The failures in a value that has to be gone through as a list of tags. -/
def failures (tags : Value) : Except Fault (List Value) :=
  match tags with
  | .list items | .tuple items => listFailures items
  | other =>
    match other.items? with
    | some [] => .ok []
    | _ => .error (notTags other)

end DocComment
