import DocComment.Text.Lines
import DocComment.Text.Utf8

/-!
# Lines from a stream of octets

A file or the standard input is read in portions; the lines that a portion closes are handed on
before the next portion is decoded.  So the lines of the portions before a fault have been
delivered when the fault shows, and the fault counts its position from where decoding was resumed:
the first octet of the faulty portion, or of the character that straddles the cut before it.
-/

namespace DocComment.Utf8

open DocComment DocComment.Text

/-- The number of octets in a portion of a stream. -/
def portionSize : Nat := 8192

/-- The lines that a stream hands on, and the fault that ends it early, if one does. -/
structure Delivery where
  lines : List Text
  fault : Option Fault
deriving DecidableEq, Repr

/-- Whether two octets begin the three of a surrogate, which is no character. -/
def beginsSurrogate (first second : UInt8) : Bool :=
  first == 0xed && 0xa0 ≤ second && second ≤ 0xbf

/-- Whether a fault lies in the last two octets of a portion and these begin a surrogate.  Such a
pair is taken for a character that the next portion completes. -/
def isDeferred (octets : List UInt8) (fault : Fault) : Bool :=
  let following := fault.position + 2
  match octets.drop fault.position with
  | first :: second :: _ =>
    beginsSurrogate first second && (following % portionSize == 0 || following == octets.length)
  | _ => false

/-- The octet that brings a fault to light; there is none where only the end of the stream does. -/
def revealedAt? (octets : List UInt8) (fault : Fault) : Option Nat :=
  match fault.reason with
  | .invalidStart => some fault.position
  | .invalidContinuation =>
    if isDeferred octets fault then
      if fault.position + 2 < octets.length then some (fault.position + 2) else none
    else some (fault.position + fault.octets.length)
  | .truncated => none

/-- Where decoding was resumed for the portion in which `fault` shows. -/
def resumedAt (octets : List UInt8) (fault : Fault) : Nat :=
  match revealedAt? octets fault with
  | none => fault.position
  | some revealing =>
    let portion := revealing / portionSize * portionSize
    match decode (octets.take portion) with
    | .ok _ => portion
    | .error cut => cut.position

/-- A carriage return at the end of what was decoded waits for the next portion, which may begin
with the newline that belongs to it. -/
def dropPendingReturn (text : Text) : Text := (dropEnding? ['\r'] text).getD text

/-- The lines of a stream with the given octets. -/
def deliver (octets : List UInt8) : Delivery :=
  match decode octets with
  | .ok text => ⟨deliveredLines (unifyLineEnds text), none⟩
  | .error fault =>
    let resumed := resumedAt octets fault
    let decoded := (decode (octets.take resumed)).toOption.getD []
    ⟨closedLines (unifyLineEnds (dropPendingReturn decoded)),
      some { fault with position := fault.position - resumed }⟩

theorem deliver_of_decode {octets : List UInt8} {text : Text} (h : decode octets = .ok text) :
    deliver octets = ⟨deliveredLines (unifyLineEnds text), none⟩ := by
  simp [deliver, h]

end DocComment.Utf8
