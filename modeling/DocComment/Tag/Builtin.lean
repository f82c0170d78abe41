import DocComment.Tag.Parser
import DocComment.Text.Blank

/-!
# The standard tag parsers

A tag reads `@keyword {type} name description`.  Four parsers take it apart from the front.  The
type, in braces, and the name may be absent.  A name in square brackets is optional, and may have a
default after an equals sign.  Once a parser has failed, the later ones decline.
-/

namespace DocComment.Builtin

open DocComment Text

/-- The blanks that are skipped in front of a type or a name. -/
def isPad (c : Char) : Bool := c == ' ' || c == '\t'

/-- Whether a parser has failed on this tag before. -/
def hasFailed (record : Record) : Bool :=
  match Record.get? record "errors" with
  | some errors => errors.isTruthy
  | none => false

/-! ## Keyword -/

/-- Reads `@` and the keyword after it; blanks may stand in front. -/
def readKeyword (source : Text) : Reply :=
  match source.dropWhile isBlank with
  | '@' :: rest =>
    match rest.takeWhile (!isBlank ·) with
    | [] => .failed "Invalid `@tag`, missing @ symbol"
    | keyword =>
      .consuming (source.takeWhile isBlank ++ '@' :: keyword) [("tag", .text keyword)]
  | _ => .failed "Invalid `@tag`, missing @ symbol"

/-! ## Type -/

/-- The shortest beginning of a text after which the braces opened before and in it are closed. -/
def bracedText? : (depth : Nat) → Text → Option Text
  | _, [] => none
  | depth, c :: rest =>
    let depth := if c = '{' then depth + 1 else if c = '}' then depth - 1 else depth
    if depth = 0 then some [c] else (bracedText? depth rest).map (c :: ·)

/-- Reads a type in braces, which may hold braces in pairs. -/
def readType (source : Text) (record : Record) : Reply :=
  if hasFailed record then .declining
  else
    match source.dropWhile isPad with
    | '{' :: rest =>
      match bracedText? 0 ('{' :: rest) with
      | some braced =>
        .consuming (source.takeWhile isPad ++ braced) [("type", .text (braced.drop 1).dropLast)]
      | none => .failed "Invalid `\x7btype\x7d`, unpaired curlies"
    | _ => .declining

/-! ## Name -/

/-- Whether a text begins with a blank. -/
def startsBlank : Text → Bool
  | c :: _ => isBlank c
  | [] => false

/-- The shortest beginning of a text, of one character at least, that ends before a blank or at the
end of the text and where the brackets counted from `depth` on cancel out. -/
def nameToken? : (depth : Int) → Text → Option Text
  | depth, [] => if depth = 0 then some [] else none
  | depth, c :: rest =>
    let depth := if c = '[' then depth + 1 else if c = ']' then depth - 1 else depth
    if depth = 0 && startsBlank rest then some [c] else (nameToken? depth rest).map (c :: ·)

/-- Whether a text can stand between quotes that are taken off: it is not empty and has no
newline. -/
def isQuotable (text : Text) : Bool := !text.isEmpty && !text.contains '\n'

/-- A text without the quotes around it.  A newline after the closing quote stays. -/
def unquoted (text : Text) : Text :=
  match text with
  | [] => []
  | quote :: rest =>
    if quote = '"' || quote = '\'' then
      match dropEnding? [quote] rest, dropEnding? [quote, '\n'] rest with
      | some body, _ => if isQuotable body then body else text
      | none, some body => if isQuotable body then body ++ ['\n'] else text
      | none, none => text
    else text

/-- What a name token without brackets or with them contributes. -/
def nameFields (token : Text) : Record :=
  match token with
  | '[' :: rest =>
    match dropEnding? [']'] rest with
    | some inner =>
      if inner.contains '=' then
        [("name", .text (inner.takeWhile (· != '='))), ("optional", .bool true),
          ("default", .text (unquoted ((inner.dropWhile (· != '=')).drop 1)))]
      else [("name", .text inner), ("optional", .bool true)]
    | none => [("name", .text token), ("optional", .bool false)]
  | _ => [("name", .text token), ("optional", .bool false)]

/-- Reads a name, unless the line ends here. -/
def readName (source : Text) (record : Record) : Reply :=
  if hasFailed record then .declining
  else
    match source.dropWhile isPad with
    | [] => .declining
    | c :: rest =>
      if c = '\r' || c = '\n' then .declining
      else
        match nameToken? 0 (c :: rest) with
        | some token => .consuming (source.takeWhile isPad ++ token) (nameFields token)
        | none => .failed "Invalid `name`, unpaired brackets"

/-! ## Description -/

/-- Takes all that is left as the description, if a blank separates it. -/
def readDescription (source : Text) (record : Record) : Reply :=
  if hasFailed record then .declining
  else if startsBlank source then .consuming source [("description", .text (trimStart source))]
  else .declining

/-! ## The four of them -/

/-- The parser of the keyword. -/
def keyword : TagParser := ⟨"parse_tag", fun source _ => ([], readKeyword source)⟩

/-- The parser of the type. -/
def type : TagParser := ⟨"parse_type", fun source record => ([], readType source record)⟩

/-- The parser of the name. -/
def name : TagParser := ⟨"parse_name", fun source record => ([], readName source record)⟩

/-- The parser of the description. -/
def description : TagParser :=
  ⟨"parse_description", fun source record => ([], readDescription source record)⟩

/-- The standard parsers, in their order. -/
def parsers : List TagParser := [keyword, type, name, description]

end DocComment.Builtin
