import DocComment.Text.Quoted

/-!
# UTF-8

Octets are read one at a time.  Between characters any octet that can begin one is welcome; after a
first octet the following ones must lie in a range that the first one fixes, which rules out
overlong forms, surrogates and codes beyond the last plane.  A fault names the octets that had been
taken for the broken character: the longest beginning that some character has.
-/

namespace DocComment.Utf8

open DocComment

/-- Why octets are not UTF-8. -/
inductive Reason where
  /-- No character begins with this octet. -/
  | invalidStart
  /-- The octet after the taken ones does not continue the character. -/
  | invalidContinuation
  /-- The octets end inside a character. -/
  | truncated
deriving DecidableEq, Repr

/-- A fault: its reason, where the broken character begins, and the octets taken for it. -/
structure Fault where
  reason : Reason
  position : Nat
  octets : List UInt8
deriving DecidableEq, Repr

/-- What a reason is called. -/
def Reason.label : Reason → String
  | .invalidStart => "invalid start byte"
  | .invalidContinuation => "invalid continuation byte"
  | .truncated => "unexpected end of data"

/-- The message of a fault: a single octet is shown, of several only the positions. -/
def Fault.message (fault : Fault) : String :=
  match fault.octets with
  | [octet] =>
    s!"'utf-8' codec can't decode byte 0x{String.ofList (Text.hex 2 octet.toNat)} in position " ++
      s!"{fault.position}: {fault.reason.label}"
  | octets =>
    s!"'utf-8' codec can't decode bytes in position {fault.position}-" ++
      s!"{fault.position + octets.length - 1}: {fault.reason.label}"

/-- A character of which some octets have been taken and at least one is still owed. -/
structure Begun where
  /-- How many octets are owed after the next one. -/
  more : Nat
  /-- The least octet that may come next. -/
  low : UInt8
  /-- The greatest octet that may come next. -/
  high : UInt8
  /-- The bits of the code collected so far. -/
  code : Nat
  /-- The octets taken so far. -/
  taken : List UInt8
deriving DecidableEq, Repr

/-- What a first octet announces. -/
inductive Lead where
  | complete (c : Char)
  | begun (character : Begun)
  | refused
deriving DecidableEq, Repr

/-- Reads the first octet of a character. -/
def lead (octet : UInt8) : Lead :=
  if octet < 0x80 then .complete (Char.ofNat octet.toNat)
  else if octet < 0xc2 then .refused
  else if octet < 0xe0 then .begun ⟨0, 0x80, 0xbf, octet.toNat - 0xc0, [octet]⟩
  else if octet < 0xf0 then
    .begun ⟨1, if octet = 0xe0 then 0xa0 else 0x80, if octet = 0xed then 0x9f else 0xbf,
      octet.toNat - 0xe0, [octet]⟩
  else if octet < 0xf5 then
    .begun ⟨2, if octet = 0xf0 then 0x90 else 0x80, if octet = 0xf4 then 0x8f else 0xbf,
      octet.toNat - 0xf0, [octet]⟩
  else .refused

/-- Reads octets from `position` on; a begun character stands in front of them. -/
def decodeFrom (position : Nat) : Option Begun → List UInt8 → Except Fault Text
  | none, [] => .ok []
  | some begun, [] => .error ⟨.truncated, position, begun.taken⟩
  | none, octet :: rest =>
    match lead octet with
    | .complete c => (decodeFrom (position + 1) none rest).map (c :: ·)
    | .begun begun => decodeFrom position (some begun) rest
    | .refused => .error ⟨.invalidStart, position, [octet]⟩
  | some begun, octet :: rest =>
    if octet < begun.low || begun.high < octet then
      .error ⟨.invalidContinuation, position, begun.taken⟩
    else
      let code := begun.code * 64 + (octet.toNat - 0x80)
      match begun.more with
      | 0 =>
        (decodeFrom (position + begun.taken.length + 1) none rest).map (Char.ofNat code :: ·)
      | more + 1 =>
        decodeFrom position (some ⟨more, 0x80, 0xbf, code, begun.taken ++ [octet]⟩) rest

/-- The text that the octets spell, or the first fault in them. -/
def decode (octets : List UInt8) : Except Fault Text := decodeFrom 0 none octets

/-- The octets of one character. -/
def encodeChar (c : Char) : List UInt8 :=
  let code := c.toNat
  if code < 0x80 then [UInt8.ofNat code]
  else if code < 0x800 then [UInt8.ofNat (0xc0 + code / 64), UInt8.ofNat (0x80 + code % 64)]
  else if code < 0x10000 then
    [UInt8.ofNat (0xe0 + code / 4096), UInt8.ofNat (0x80 + code / 64 % 64),
      UInt8.ofNat (0x80 + code % 64)]
  else
    [UInt8.ofNat (0xf0 + code / 262144), UInt8.ofNat (0x80 + code / 4096 % 64),
      UInt8.ofNat (0x80 + code / 64 % 64), UInt8.ofNat (0x80 + code % 64)]

/-- The octets of a text. -/
def encode (text : Text) : List UInt8 := text.flatMap encodeChar

@[simp] theorem encode_nil : encode [] = [] := rfl

theorem encode_cons (c : Char) (text : Text) : encode (c :: text) = encodeChar c ++ encode text :=
  rfl

end DocComment.Utf8
