import DocComment.Comment.Line

/-!
# Scanning for comments

A scan reads a source text line by line.  While a comment is open it collects the interior lines; a
closing line completes the comment, another opening line starts afresh, and any line that does not
belong to a comment abandons it.

Lines are numbered from zero.  A comment that stands on one line is numbered with the next number
and does not use it up, whether another comment is open around it or not, so all lines after it are
numbered one lower than their index.
-/

namespace DocComment

/-- A comment that has been opened and not yet closed. -/
structure Pending where
  /-- The number of the opening line. -/
  opened : Nat
  /-- The interior lines, the last one first. -/
  interior : List (Line Nat)
deriving DecidableEq, Repr

/-- The lines of a pending comment once it is closed by line `closed`: the opening and the closing
line count as empty ones. -/
def Pending.close (pending : Pending) (closed : Nat) : List (Line Nat) :=
  ⟨[], pending.opened⟩ :: pending.interior.reverse ++ [⟨[], closed⟩]

/-- Where a scan stands. -/
structure Scan where
  /-- The number of the next line. -/
  next : Nat
  pending : Option Pending
deriving DecidableEq, Repr

/-- What a line brings to light. -/
inductive Finding where
  | nothing
  /-- The lines of a complete comment. -/
  | comment (lines : List (Line Nat))
  /-- A comment opened at one line and given up at another. -/
  | abandoned (opened given : Nat)
deriving DecidableEq, Repr

namespace Scan

/-- A scan before its first line. -/
def start : Scan := ⟨0, none⟩

/-- Whether a comment is open. -/
def isCollecting (scan : Scan) : Bool := scan.pending.isSome

/-- Takes in a line. -/
def step (keepPadding : Bool) (scan : Scan) (line : Text) : Scan × Finding :=
  match LineKind.of keepPadding line, scan.pending with
  | .oneLine text, _ => (scan, .comment [⟨text, scan.next⟩])
  | .opening, _ => (⟨scan.next + 1, some ⟨scan.next, []⟩⟩, .nothing)
  | _, none => (⟨scan.next + 1, none⟩, .nothing)
  | .interior text, some pending =>
    (⟨scan.next + 1, some ⟨pending.opened, ⟨text, scan.next⟩ :: pending.interior⟩⟩, .nothing)
  | .closing, some pending => (⟨scan.next + 1, none⟩, .comment (pending.close scan.next))
  | .other, some pending => (⟨scan.next + 1, none⟩, .abandoned pending.opened scan.next)

/-- Where a scan stands after some lines. -/
def after (keepPadding : Bool) (scan : Scan) (lines : List Text) : Scan :=
  lines.foldl (fun scan line => (scan.step keepPadding line).1) scan

/-- What each of some lines brings to light. -/
def findings (keepPadding : Bool) : Scan → List Text → List Finding
  | _, [] => []
  | scan, line :: rest =>
    (scan.step keepPadding line).2 :: findings keepPadding (scan.step keepPadding line).1 rest

@[simp] theorem after_nil (keepPadding : Bool) (scan : Scan) :
    scan.after keepPadding [] = scan := rfl

@[simp] theorem after_cons (keepPadding : Bool) (scan : Scan) (line : Text) (rest : List Text) :
    scan.after keepPadding (line :: rest) = (scan.step keepPadding line).1.after keepPadding rest :=
  rfl

theorem after_append (keepPadding : Bool) (scan : Scan) (lines more : List Text) :
    scan.after keepPadding (lines ++ more) =
      (scan.after keepPadding lines).after keepPadding more :=
  List.foldl_append

@[simp] theorem length_findings (keepPadding : Bool) (scan : Scan) (lines : List Text) :
    (scan.findings keepPadding lines).length = lines.length := by
  induction lines generalizing scan with
  | nil => rfl
  | cons line rest ih => simp [findings, ih]

theorem findings_append (keepPadding : Bool) (scan : Scan) (lines more : List Text) :
    scan.findings keepPadding (lines ++ more) =
      scan.findings keepPadding lines ++
        (scan.after keepPadding lines).findings keepPadding more := by
  induction lines generalizing scan with
  | nil => rfl
  | cons line rest ih => simp [findings, ih]

end Scan

end DocComment
