import CommitLens.Text.Quoted

/-!
# Text from bytes

UTF-8 is decoded strictly.  The first fault is reported with the bytes that it
concerns: those that begin a character without completing it.
-/

namespace CommitLens.Text

inductive Utf8Reason where
  | start
  | continuation
  | ending
  deriving Repr, BEq, DecidableEq

def Utf8Reason.text : Utf8Reason → String
  | start => "invalid start byte"
  | continuation => "invalid continuation byte"
  | ending => "unexpected end of data"

/-- Bytes that are no character: `count` of them from `position` on. -/
structure Utf8Fault where
  position : Nat
  count : Nat
  firstByte : Nat
  reason : Utf8Reason
  deriving Repr, BEq, DecidableEq

def Utf8Fault.message (fault : Utf8Fault) : String :=
  let place :=
    if fault.count == 1 then
      "byte 0x" ++ String.ofList (hexDigits 2 fault.firstByte) ++ " in position " ++
        toString fault.position
    else
      "bytes in position " ++ toString fault.position ++ "-" ++
        toString (fault.position + fault.count - 1)
  "'utf-8' codec can't decode " ++ place ++ ": " ++ fault.reason.text

/-- What a byte may be followed by: how many bytes complete its character, and
the range of the first one of them. -/
structure Utf8Lead where
  more : Nat
  low : Nat
  high : Nat
  bits : Nat

def utf8Lead? (byte : Nat) : Option Utf8Lead :=
  if byte < 0x80 then some ⟨0, 0, 0, byte⟩
  else if byte < 0xc2 then none
  else if byte < 0xe0 then some ⟨1, 0x80, 0xbf, byte % 0x20⟩
  else if byte < 0xf0 then
    some ⟨2, if byte == 0xe0 then 0xa0 else 0x80, if byte == 0xed then 0x9f else 0xbf, byte % 0x10⟩
  else if byte < 0xf5 then
    some ⟨3, if byte == 0xf0 then 0x90 else 0x80, if byte == 0xf4 then 0x8f else 0xbf, byte % 8⟩
  else none

/-- Read the bytes that complete a character: its code, or the number of bytes
that fit and why the next one does not. -/
def utf8Rest : Nat → Nat → Nat → Nat → List Nat → Except (Nat × Utf8Reason) (Nat × List Nat)
  | 0, _, _, code, bytes => .ok (code, bytes)
  | _ + 1, _, _, _, [] => .error (0, .ending)
  | more + 1, low, high, code, byte :: bytes =>
      if low ≤ byte && byte ≤ high then
        match utf8Rest more 0x80 0xbf (64 * code + byte % 64) bytes with
        | .ok found => .ok found
        | .error (fitting, reason) => .error (fitting + 1, reason)
      else .error (0, .continuation)

/-- Decode from a position on; `chars` holds what has been read, last one
first.  The fuel is the number of bytes. -/
def decodeFrom : Nat → Nat → List Char → List Nat → Except Utf8Fault (List Char)
  | _, _, chars, [] => .ok chars.reverse
  | 0, _, chars, _ => .ok chars.reverse
  | fuel + 1, position, chars, byte :: bytes =>
      match utf8Lead? byte with
      | none => .error ⟨position, 1, byte, .start⟩
      | some lead =>
          match utf8Rest lead.more lead.low lead.high lead.bits bytes with
          | .ok (code, rest) =>
              decodeFrom fuel (position + lead.more + 1) (Char.ofNat code :: chars) rest
          | .error (fitting, reason) => .error ⟨position, fitting + 1, byte, reason⟩

def decodeUtf8 (bytes : List UInt8) : Except Utf8Fault String :=
  (decodeFrom bytes.length 0 [] (bytes.map UInt8.toNat)).map String.ofList

end CommitLens.Text
