import DocComment.Text.Blank

/-!
# Lines of documentation comments

A documentation comment opens with a line `/**`, goes on with lines that begin with `*` and a blank
or with `*` alone, and closes with a line `*/`; or it stands on one line as `/** … */`.  Blanks
around the markers do not matter.  The kinds of line exclude each other: a line that opens and
closes a comment at once has more after `/**` than blanks, and a closing line has `/` after its
`*`, where an interior line has a blank or nothing.
-/

namespace DocComment

open Text

/-- A line of a comment without its markers, and its number. -/
structure Line (ν : Type) where
  text : Text
  number : ν
deriving DecidableEq, Repr

/-- What stands between the markers of a comment that opens and closes on one line.  Blanks after
the opening marker are skipped, those before the closing one are kept, and the text ends at a
newline, after which only blanks may stand. -/
def oneLineText? (line : Text) : Option Text :=
  match trimStart line with
  | '/' :: '*' :: '*' :: rest =>
    match dropEnding? ['*', '/'] (trimEnd (trimStart rest)) with
    | some body =>
      if (body.dropWhile (· != '\n')).all isBlank then some (body.takeWhile (· != '\n')) else none
    | none => none
  | _ => none

/-- Whether a line opens a comment. -/
def isOpening (line : Text) : Bool := trim line == ['/', '*', '*']

/-- Whether a line closes a comment. -/
def isClosing (line : Text) : Bool := trim line == ['*', '/']

/-- What stands on an interior line after the marker and the one blank that separates it from the
content; further blanks in front of the content are padding. -/
def interiorText? (keepPadding : Bool) (line : Text) : Option Text :=
  match trimStart line with
  | ['*'] => some []
  | '*' :: c :: rest =>
    if isBlank c then some (if keepPadding then rest else trimStart rest) else none
  | _ => none

/-- What a line is for the comment syntax, with the content where it has some. -/
inductive LineKind where
  | oneLine (text : Text)
  | opening
  | interior (text : Text)
  | closing
  | other
deriving DecidableEq, Repr

/-- The kind of a line. -/
def LineKind.of (keepPadding : Bool) (line : Text) : LineKind :=
  match oneLineText? line with
  | some text => .oneLine text
  | none =>
    if isOpening line then .opening
    else match interiorText? keepPadding line with
      | some text => .interior text
      | none => if isClosing line then .closing else .other

end DocComment
