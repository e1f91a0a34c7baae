import QueryLayout.Text.Quoted

namespace QueryLayout

/-- A sequence of bytes that is no UTF-8: where it starts, its first byte, how
many bytes it has, and what is wrong with it. -/
structure Utf8Error where
  start : Nat
  lead : Nat
  size : Nat
  reason : String
deriving DecidableEq, Repr

def Utf8Error.message (error : Utf8Error) : String :=
  if error.size = 1 then
    "\x27utf-8\x27 codec can\x27t decode byte 0x" ++ String.ofList (hexDigits 2 error.lead) ++
      " in position " ++ toString error.start ++ ": " ++ error.reason
  else
    "\x27utf-8\x27 codec can\x27t decode bytes in position " ++ toString error.start ++ "-" ++
      toString (error.start + error.size - 1) ++ ": " ++ error.reason

/-- A character of which some bytes have been read. The next byte must lie
between `low` and `high`, and `missing` bytes are left to read. -/
structure Utf8Partial where
  lead : Nat
  size : Nat
  missing : Nat
  low : Nat
  high : Nat
  code : Nat
deriving DecidableEq, Repr

/-- What a byte above the ASCII range can begin. The bounds on the second byte
leave out overlong forms, surrogates and codes past the last plane. -/
def Utf8Partial.ofLead? (byte : Nat) : Option Utf8Partial :=
  if 0xc2 ≤ byte ∧ byte ≤ 0xdf then some ⟨byte, 1, 1, 0x80, 0xbf, byte - 0xc0⟩
  else if 0xe0 ≤ byte ∧ byte ≤ 0xef then
    let low := if byte = 0xe0 then 0xa0 else 0x80
    let high := if byte = 0xed then 0x9f else 0xbf
    some ⟨byte, 1, 2, low, high, byte - 0xe0⟩
  else if 0xf0 ≤ byte ∧ byte ≤ 0xf4 then
    let low := if byte = 0xf0 then 0x90 else 0x80
    let high := if byte = 0xf4 then 0x8f else 0xbf
    some ⟨byte, 1, 3, low, high, byte - 0xf0⟩
  else none

def Utf8Partial.add (started : Utf8Partial) (byte : Nat) : Utf8Partial where
  lead := started.lead
  size := started.size + 1
  missing := started.missing - 1
  low := 0x80
  high := 0xbf
  code := started.code * 0x40 + (byte - 0x80)

/-- Reads bytes one after another, from the given position on. -/
def decodeUtf8From : Nat → Option Utf8Partial → List UInt8 → Except Utf8Error (List Char)
  | _, none, [] => .ok []
  | position, some started, [] =>
    .error ⟨position - started.size, started.lead, started.size, "unexpected end of data"⟩
  | position, none, byte :: rest =>
    if byte.toNat < 0x80 then
      (decodeUtf8From (position + 1) none rest).map (Char.ofNat byte.toNat :: ·)
    else
      match Utf8Partial.ofLead? byte.toNat with
      | none => .error ⟨position, byte.toNat, 1, "invalid start byte"⟩
      | some started => decodeUtf8From (position + 1) (some started) rest
  | position, some started, byte :: rest =>
    if started.low ≤ byte.toNat ∧ byte.toNat ≤ started.high then
      let longer := started.add byte.toNat
      if longer.missing = 0 then
        (decodeUtf8From (position + 1) none rest).map (Char.ofNat longer.code :: ·)
      else decodeUtf8From (position + 1) (some longer) rest
    else
      .error ⟨position - started.size, started.lead, started.size, "invalid continuation byte"⟩

/-- The text that bytes encode. The first sequence that is no UTF-8 is an
error. -/
def decodeUtf8 (bytes : List UInt8) : Except Utf8Error (List Char) :=
  decodeUtf8From 0 none bytes

end QueryLayout
