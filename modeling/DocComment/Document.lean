import DocComment.Block
import DocComment.Comment.Scan
import DocComment.Files.Path
import DocComment.Text.Stream

/-!
# Documents

A document is read line by line: a scan finds the comments, and each comment is parsed to a block
as soon as it is complete.  What a scan finds does not depend on what parsing a comment comes to, so
the outcome of a line is a function of what the line brings to light.
-/

namespace DocComment

/-- What a finding comes to. -/
def Finding.outcome (options : Options) : Finding → Report Nat (Option (Block Nat))
  | .nothing => pure none
  | .comment lines => parseBlock options lines
  | .abandoned opened given => .noting [.abandonedComment opened given] none

/-- What each line comes to, from a given state of the scan on. -/
def outcomesFrom (options : Options) (scan : Scan) (lines : List Text) :
    List (Report Nat (Option (Block Nat))) :=
  (scan.findings (!options.trim) lines).map (Finding.outcome options)

/-- What each line of a document comes to. -/
def outcomes (options : Options) (lines : List Text) : List (Report Nat (Option (Block Nat))) :=
  outcomesFrom options Scan.start lines

/-- The blocks that lines come to, up to a fault. -/
def gather : List (Report Nat (Option (Block Nat))) → Report Nat (List (Block Nat))
  | [] => pure []
  | report :: rest => do
    let found ← report
    (found.toList ++ ·) <$> gather rest

/-- The blocks of a document given by its lines. -/
def parseLines (options : Options) (lines : List Text) : Report Nat (List (Block Nat)) :=
  gather (outcomes options lines)

/-- The blocks of a document given by its text.  A newline at the end opens one more, empty
line. -/
def parse (options : Options) (source : Text) : Report Nat (List (Block Nat)) :=
  parseLines options (Text.pieces '\n' source)

/-- The blocks of a source that may be of any kind, with options as they were given. -/
def parseValue (source : Value) (options : OptionsInput) : Report Nat (List (Block Nat)) :=
  match source with
  | .text characters => do parse (← .ofExcept options.read) characters
  | other => .failing [] (.sourceNotText other)

/-- The record of a tag whose text and parsers may be of any kind. -/
def parseTagValue {ν : Type} (source : Value) (parsers : ParserList) :
    Report ν (Option Record) :=
  match source with
  | .text ('@' :: rest) => do
    let items ← .ofExcept parsers.items?
    parseTag ('@' :: rest) (items.map ParserItem.toParser)
  | .text _ => pure none
  | other => .failing [] (.tagSourceNotText other)

/-! ## Line by line -/

/-- A reader that takes lines one at a time. -/
structure Extractor where
  options : Options
  scan : Scan

namespace Extractor

/-- A reader before its first line. -/
def start (options : Options) : Extractor := ⟨options, Scan.start⟩

/-- Takes a line: the reader after it, and what the line comes to. -/
def feed (extractor : Extractor) (line : Text) : Extractor × Report Nat (Option (Block Nat)) :=
  let (scan, finding) := extractor.scan.step (!extractor.options.trim) line
  (⟨extractor.options, scan⟩, finding.outcome extractor.options)

/-- Takes a value where a line is due; another value than a text changes nothing. -/
def feedValue (extractor : Extractor) (line : Value) :
    Extractor × Report Nat (Option (Block Nat)) :=
  match line with
  | .text characters => extractor.feed characters
  | other => (extractor, .failing [] (.lineNotText other))

end Extractor

/-- The blocks of a stream of lines, each with the number of lines taken when it was complete, and
the fault that ended the stream, if one did, with the number of lines taken by then. -/
structure Harvest where
  notes : List (Note Nat)
  blocks : List (Nat × Block Nat)
  stop : Option (Nat × Fault)

/-- The line in a value, without the newline at its end. -/
def streamLine (line : Value) : Except Fault Text :=
  match line with
  | .text characters => .ok (Text.dropNewline characters)
  | .bytes octets => .error (.lineNotText (.bytes octets))
  | other => .error (.lineWithoutEnds other)

/-- Harvests lines after `taken` others. -/
def harvestFrom (extractor : Extractor) (taken : Nat) : List Value → Harvest
  | [] => ⟨[], [], none⟩
  | line :: rest =>
    match streamLine line with
    | .error fault => ⟨[], [], some (taken + 1, fault)⟩
    | .ok line =>
      let (extractor, report) := extractor.feed line
      match report.outcome with
      | .error fault => ⟨report.notes, [], some (taken + 1, fault)⟩
      | .ok found =>
        let more := harvestFrom extractor (taken + 1) rest
        ⟨report.notes ++ more.notes, found.toList.map ((taken + 1, ·)) ++ more.blocks, more.stop⟩

/-- Harvests a stream of lines with options as they were given. -/
def harvest (options : OptionsInput) (lines : List Value) : Harvest :=
  match options.read with
  | .error fault => ⟨[], [], some (0, fault)⟩
  | .ok options => harvestFrom (Extractor.start options) 0 lines

/-! ## Octets and files -/

/-- Why a stream of octets gives no blocks. -/
inductive StreamFault where
  /-- The octets are not UTF-8. -/
  | encoding (cause : Utf8.Fault)
  /-- The text has a fault. -/
  | fault (cause : Fault)
deriving Repr

/-- Why a file gives no blocks. -/
inductive FileFault where
  /-- The file cannot be read. -/
  | refused (reason : Refusal)
  /-- The options have a fault. -/
  | options (cause : Fault)
  /-- What is in the file gives none. -/
  | stream (cause : StreamFault)
deriving Repr

/-- The blocks of a stream, or why there are none, with the notes on the way. -/
structure StreamReport (ε : Type) where
  notes : List (Note Nat)
  outcome : Except ε (List (Block Nat))

/-- The blocks of the lines that a stream delivers.  The lines before a fault in the encoding have
been read by the time it shows. -/
def parseDelivery (options : Options) (delivery : Utf8.Delivery) : StreamReport StreamFault :=
  let report := parseLines options delivery.lines
  ⟨report.notes, match report.outcome, delivery.fault with
    | .error cause, _ => .error (.fault cause)
    | .ok _, some cause => .error (.encoding cause)
    | .ok blocks, none => .ok blocks⟩

/-- The blocks of a stream of octets. -/
def parseStream (options : Options) (octets : List UInt8) : StreamReport StreamFault :=
  parseDelivery options (Utf8.deliver octets)

/-- The blocks of a file, with options as they were given.  The file is opened before the options
are looked at. -/
def parseFile (state : FileState) (options : OptionsInput) : StreamReport FileFault :=
  match state.read, options.read with
  | .error reason, _ => ⟨[], .error (.refused reason)⟩
  | .ok _, .error cause => ⟨[], .error (.options cause)⟩
  | .ok octets, .ok options =>
    let read := parseStream options octets
    ⟨read.notes, read.outcome.mapError .stream⟩

end DocComment
