import DocComment.Text.Basic

/-!
# Lines of a text

`Text.pieces '\n'` cuts a text at every newline, so a text that ends in a newline has an empty last
piece.  A stream delivers lines instead: the piece after the last newline is a line only if it is
not empty.  Before either, a reader of files turns the three usual line ends into newlines.
-/

namespace DocComment.Text

/-- Every carriage return, alone or before a newline, becomes a newline together with it. -/
def unifyLineEnds : Text → Text
  | [] => []
  | '\r' :: '\n' :: rest => '\n' :: unifyLineEnds rest
  | '\r' :: rest => '\n' :: unifyLineEnds rest
  | c :: rest => c :: unifyLineEnds rest

/-- The lines that a stream with this content delivers, each without its newline. -/
def deliveredLines (text : Text) : List Text :=
  match (pieces '\n' text).getLast? with
  | some [] => (pieces '\n' text).dropLast
  | _ => pieces '\n' text

/-- The lines of `text` that a newline closes: all that a stream can deliver while it does not know
whether more is to come. -/
def closedLines (text : Text) : List Text := (pieces '\n' text).dropLast

/-- A line without the newline at its end, if it has one. -/
def dropNewline (line : Text) : Text := (dropEnding? ['\n'] line).getD line

end DocComment.Text
