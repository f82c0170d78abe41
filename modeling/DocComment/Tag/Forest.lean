import DocComment.Report
import DocComment.Tag.Node

/-!
# Nesting dotted names

A tag whose name has dots stands below the tags that the parts of the name call for: `a.b` is `b`
below `a`.  A parent is the last tag among its neighbours that has the same keyword and the name
called for; where there is none yet, one is implied.  Only the tags in front of a tag count, so a
parent that comes later is a tag of its own.
-/

namespace DocComment

variable {ν : Type}

/-- Changes the last item that has a property, if one has it. -/
def updateLast? {α : Type} (has : α → Bool) (change : α → α) : List α → Option (List α)
  | [] => none
  | item :: rest =>
    match updateLast? has change rest with
    | some rest => some (item :: rest)
    | none => if has item then some (change item :: rest) else none

/-- Whether a tag is the parent called for by a keyword and a part of a name. -/
def TagNode.isCalled (tag : Value) (part : Text) (node : TagNode ν) : Bool :=
  node.tag.equals tag && node.name.equals (.text part)

/-- The tags with `node` placed below the parents that `path` calls for. -/
def attach (node : TagNode ν) : (path : List Text) → List (TagNode ν) → List (TagNode ν)
  | [], tags => tags ++ [node]
  | part :: path, tags =>
    match updateLast? (TagNode.isCalled node.tag part)
        (fun parent => parent.withTags (attach node path parent.tags)) tags with
    | some tags => tags
    | none => tags ++ [.implied node.tag part node.line (attach node path [])]

/-- The parts of a name between its dots, if it has any. -/
def dottedParts? (name : Value) : Except Fault (Option (List Text)) :=
  match name with
  | .text characters =>
    .ok (if characters.contains '.' then some (Text.pieces '.' characters) else none)
  | .list items | .tuple items =>
    if items.any (Value.equals (.text ['.'])) then .error (.notSplittable name) else .ok none
  | .record fields =>
    if (Record.get? fields ".").isSome then .error (.notSplittable name) else .ok none
  | other => .error (.noMembership other)

/-- The tags with one more, placed by its name if dots in names nest and at the end if not. -/
def addTag (dottedNames : Bool) (tags : List (TagNode ν)) (node : TagNode ν) :
    Except Fault (List (TagNode ν)) :=
  if dottedNames then do
    match ← dottedParts? node.name with
    | none => return tags ++ [node]
    | some parts =>
      return attach (node.withName (parts.getLast?.getD [])) parts.dropLast tags
  else .ok (tags ++ [node])

end DocComment
