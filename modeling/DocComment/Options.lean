import DocComment.Report
import DocComment.Tag.Builtin

/-!
# Options

Options say whether texts are trimmed, whether dots in names nest, and which tag parsers run.  They
are given as a mapping from names to settings, any part of which may be left out.  A mapping is
checked for unknown names first and for its parsers next; the two switches may be set to any value,
which counts by its truth.
-/

namespace DocComment

/-- The options as operations use them. -/
structure Options where
  trim : Bool
  dottedNames : Bool
  parsers : List TagParser

/-- The options as they were set. -/
structure Settings where
  trim : Value
  dottedNames : Value
  parsers : List TagParser

/-- The settings that are in force where nothing is set. -/
def Settings.default : Settings := ⟨.bool true, .bool false, Builtin.parsers⟩

/-- What settings amount to. -/
def Settings.toOptions (settings : Settings) : Options :=
  ⟨settings.trim.isTruthy, settings.dottedNames.isTruthy, settings.parsers⟩

/-- The options that are in force where nothing is set. -/
def Options.default : Options := Settings.default.toOptions

/-- An item where a tag parser is due. -/
inductive ParserItem where
  | parser (p : TagParser)
  | value (v : Value)

/-- What is given where tag parsers in a row are due. -/
inductive ParserList where
  | items (items : List ParserItem)
  | value (v : Value)

/-- What a name is set to. -/
inductive Setting where
  | parsers (list : ParserList)
  | value (v : Value)

namespace ParserItem

/-- The parser that an item is, if it is one. -/
def parser? : ParserItem → Except Fault TagParser
  | .parser p => .ok p
  | .value v => .error (.notCallable v)

/-- The parser that an item is, or one whose calls fail. -/
def toParser : ParserItem → TagParser
  | .parser p => p
  | .value v => .uncallable v

end ParserItem

namespace ParserList

/-- The items, if there are any to go through. -/
def items? : ParserList → Except Fault (List ParserItem)
  | .items given => .ok given
  | .value v =>
    match v.items? with
    | some found => .ok (found.map .value)
    | none => .error (.notIterable v)

/-- The parsers of options: neither a text nor something without items will do, and every item has
to be a parser. -/
def parsers? (list : ParserList) : Except Fault (List TagParser) :=
  match list with
  | .value (.text _) | .value (.bytes _) => .error .parsersNotSequence
  | _ =>
    match list.items? with
    | .error _ => .error .parsersNotSequence
    | .ok found => found.mapM ParserItem.parser?

end ParserList

namespace Setting

/-- A setting as the value of a switch; a row of parsers is true unless it is empty. -/
def toValue : Setting → Value
  | .value v => v
  | .parsers (.value v) => v
  | .parsers (.items given) => .bool !given.isEmpty

/-- A setting as a row of parsers. -/
def toParsers : Setting → ParserList
  | .value v => .value v
  | .parsers list => list

end Setting

/-- A mapping from names to settings; of entries with one name the last counts. -/
abbrev Mapping := List (String × Setting)

namespace Mapping

/-- The names that options have. -/
def known : List String := ["trim", "dotted_names", "parsers"]

/-- What a name is set to. -/
def get? (mapping : Mapping) (name : String) : Option Setting := mapping.reverse.lookup name

/-- The names that no option has, each once and in alphabetical order. -/
def unknown (mapping : Mapping) : List String :=
  ((mapping.map (·.1)).filter (!known.contains ·)).eraseDups.mergeSort (fun a b => decide (a ≤ b))

/-- The settings of a mapping without unknown names. -/
def settings (mapping : Mapping) : Except Fault Settings := do
  let standard := Settings.default
  return {
    trim := ((mapping.get? "trim").map Setting.toValue).getD standard.trim
    dottedNames := ((mapping.get? "dotted_names").map Setting.toValue).getD standard.dottedNames
    parsers := ← match mapping.get? "parsers" with
      | some setting => setting.toParsers.parsers?
      | none => .ok standard.parsers }

/-- The settings of a mapping. -/
def read (mapping : Mapping) : Except Fault Settings :=
  match mapping.unknown with
  | [] => mapping.settings
  | names => .error (.unknownOptions names)

/-- The settings that are constructed from named arguments. -/
def construct (mapping : Mapping) : Except Fault Settings :=
  match mapping.unknown with
  | [] => mapping.settings
  | name :: _ => .error (.unknownKeyword name)

/-- The entry that an item of a list of pairs makes. -/
def entryOf (item : Value) : Except Fault (Value × Value) :=
  match item.items? with
  | none => .error (.notIterable item)
  | some [.list name, _] => .error (.nameNotText (.list name))
  | some [.record name, _] => .error (.nameNotText (.record name))
  | some [name, value] => .ok (name, value)
  | some _ => .error (.notPair item)

/-- The mapping that a value is: a record, or a list of pairs of a text and a value.  A value that
does not count as true is an empty one. -/
def ofValue (value : Value) : Except Fault Mapping := do
  if !value.isTruthy then return []
  match value with
  | .record fields => return fields.map fun (name, setting) => (name, .value setting)
  | _ =>
    match value.items? with
    | none => .error (.notIterable value)
    | some items =>
      let entries ← items.mapM entryOf
      entries.mapM fun (name, setting) =>
        match name with
        | .text characters => .ok (String.ofList characters, .value setting)
        | other => .error (.nameNotText other)

end Mapping

/-- What is given where options are due. -/
inductive OptionsInput where
  | absent
  | mapping (mapping : Mapping)
  | settings (settings : Settings)
  | value (v : Value)

/-- The options that an input stands for. -/
def OptionsInput.read : OptionsInput → Except Fault Options
  | .absent => .ok Options.default
  | .mapping given => given.read.map Settings.toOptions
  | .settings given => .ok given.toOptions
  | .value v => .error (.optionsNotMapping v)

end DocComment
