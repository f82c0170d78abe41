import DocComment.Fault
import DocComment.Schema.Checker
import DocComment.Text.Stream

/-!
# Machines

How a run ends is settled by its arguments, its files and its input, up to four things that depend
on the machine that it is on: how deeply nested a document may be to be read, how documents are
checked, which documents there is room to print, and what characters the octets of the standard
input stand for.  A `Machine` settles them.  Whatever is said of runs is said of runs on every
machine.
-/

namespace DocComment.CommandLine

open DocComment

/-- A reason for which a run breaks down. -/
inductive Breakdown where
  /-- The standard input cannot be decoded. -/
  | encoding (fault : Utf8.Fault)
  /-- The path holds a null character. -/
  | nullCharacter
  /-- A whole number in a document has too many digits. -/
  | overlongInteger
  /-- A document is nested too deeply to be read, checked or printed. -/
  | tooDeep
  /-- The indentation is beyond the signed numbers of 64 bits. -/
  | indentationOutOfRange
  /-- The indentation takes more blanks than there is room for. -/
  | indentationTooWide
  /-- The parser refused its input. -/
  | fault (fault : Fault)
deriving Repr

/-- What a run leaves to the machine that it is on. -/
structure Machine where
  /-- How many levels of arrays and objects a document may have that is read. -/
  readingLevels : Nat
  checker : Schema.Checker
  /-- Why a document cannot be printed with an indentation, if it cannot. -/
  obstacle? : Option Int → Json → Option Breakdown
  /-- The lines that the octets of the standard input deliver. -/
  deliver : List UInt8 → Utf8.Delivery

namespace Machine

/-- The standard input of the machine is UTF-8.  Nothing is said of octets that are not UTF-8. -/
def ReadsUtf8 (machine : Machine) : Prop :=
  ∀ text, machine.deliver (Utf8.encode text) = Utf8.deliver (Utf8.encode text)

/-- An indentation has to be a signed number of 64 bits. -/
def outOfRange? : Option Int → Option Breakdown
  | none => none
  | some width =>
    if width < -0x8000000000000000 || 0x8000000000000000 ≤ width then some .indentationOutOfRange
    else none

/-- The machine that is used where no other is given.  It takes no octets but UTF-8, and no limit of
memory.  What is said of machines does not depend on its number of levels. -/
def standard : Machine where
  readingLevels := 1000
  checker := .standard
  obstacle? indentation _ := outOfRange? indentation
  deliver := Utf8.deliver

theorem readsUtf8_standard : standard.ReadsUtf8 := fun _ => rfl

end Machine

end DocComment.CommandLine
