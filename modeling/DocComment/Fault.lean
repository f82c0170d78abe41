import DocComment.Value.Display

/-!
# Faults

What can go wrong on the way from a source text to its blocks, apart from the failures of single
tag parsers, which are recorded in the tag.  Most faults are refusals of an input, with a message
of their own.  The others arise where an operation cannot work with a value; of those only their
category is told.  A refusal whose message would have to show a value that cannot be shown is no
refusal but one of the others.
-/

namespace DocComment

/-- Why no result is given. -/
inductive Fault where
  /-- The source to read is a value of another kind than a text. -/
  | sourceNotText (source : Value)
  /-- The source of a tag is a value of another kind than a text. -/
  | tagSourceNotText (source : Value)
  /-- A tag parser returned something that neither declines nor is a pair. -/
  | malformedReply (parser : String) (reply : Value)
  /-- Options of these names do not exist. -/
  | unknownOptions (names : List String)
  /-- The value given for the tag parsers cannot be iterated, or is a text. -/
  | parsersNotSequence
  /-- An item of the tag parsers is no parser. -/
  | notCallable (item : Value)
  /-- The options are neither options nor a mapping. -/
  | optionsNotMapping (options : Value)
  /-- Options were constructed with a name that does not exist. -/
  | unknownKeyword (name : String)
  /-- A value that has no items was to be gone through. -/
  | notIterable (value : Value)
  /-- A value that can hold no part was asked for one. -/
  | noMembership (value : Value)
  /-- A list or record with a dot among its items was to be split at the dots. -/
  | notSplittable (value : Value)
  /-- A line is a value of another kind than a text. -/
  | lineNotText (line : Value)
  /-- A line is a value that has no ends to look at. -/
  | lineWithoutEnds (line : Value)
  /-- An entry of a mapping is no pair. -/
  | notPair (entry : Value)
  /-- The name in an entry of a mapping is no text. -/
  | nameNotText (name : Value)
  /-- A tag is a value of another kind than a record. -/
  | notRecord (node : Value)
deriving Repr

/-- The categories that a caller can tell faults by. -/
inductive Fault.Category where
  /-- The input is refused, for the reason in the message. -/
  | invalidInput
  /-- A value is of a kind that the operation does not take. -/
  | wrongKind
  /-- A value lacks the operation that it is asked for. -/
  | missingOperation
  /-- A value is of the right kind, but this one has no meaning here or cannot be shown. -/
  | badValue
deriving DecidableEq, Repr

namespace Fault

/-- The category of a fault, where messages have so much room for a value. -/
def category (fault : Fault) (room : Nat := Value.usualRoom) : Category :=
  match fault with
  | .malformedReply _ value | .notCallable value =>
    if value.isShowable room then .invalidInput else .badValue
  | .sourceNotText _ | .tagSourceNotText _ | .unknownOptions _ | .parsersNotSequence
  | .optionsNotMapping _ => .invalidInput
  | .unknownKeyword _ | .notIterable _ | .noMembership _ | .lineNotText _ | .nameNotText _ =>
    .wrongKind
  | .notSplittable _ | .lineWithoutEnds _ | .notRecord _ => .missingOperation
  | .notPair _ => .badValue

/-- The message of a value that cannot be shown. -/
def unshownMessage (value : Value) : String := s!"a value of kind {value.kindName} cannot be shown"

/-- The message of a fault, where messages have so much room for a value. -/
def message (fault : Fault) (room : Nat := Value.usualRoom) : String :=
  match fault with
  | .sourceNotText source => s!"Source must be a string, got {source.kindName}"
  | .tagSourceNotText source => s!"Tag source must be a string, got {source.kindName}"
  | .malformedReply parser reply =>
    if reply.isShowable room then
      s!"Parser {parser} must return None or a (consumed, data) pair, got "
        ++ String.ofList reply.display
    else unshownMessage reply
  | .unknownOptions names => "Unknown parse options: " ++ String.intercalate ", " names
  | .parsersNotSequence => "parsers must be a sequence of callables"
  | .notCallable item =>
    if item.isShowable room then "Parser " ++ String.ofList item.display ++ " is not callable"
    else unshownMessage item
  | .optionsNotMapping options =>
    s!"Options must be ParseOptions or a mapping, got {options.kindName}"
  | .unknownKeyword name => s!"there is no option {name}"
  | .notIterable value => s!"a value of kind {value.kindName} has no items"
  | .noMembership value => s!"a value of kind {value.kindName} has no parts"
  | .notSplittable value => s!"a value of kind {value.kindName} cannot be split"
  | .lineNotText line => s!"a line must be a text, got {line.kindName}"
  | .lineWithoutEnds line => s!"a line must be a text, got {line.kindName}"
  | .notPair _ => "an entry of a mapping must be a pair"
  | .nameNotText name => s!"a name must be a text, got {name.kindName}"
  | .notRecord node => s!"a tag must be a record, got {node.kindName}"

end Fault

end DocComment
