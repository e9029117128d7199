import Palette.Text.Quoted

/-!
# Reading UTF-8

Bytes become characters by an automaton that remembers, inside a sequence, the
range that the next byte must lie in.  The range is narrower than `80`–`BF` after
some first bytes, which rules out overlong forms, surrogates and code points
past the last one.  A bad byte is reported together with the valid start of the
sequence it breaks, and a sequence cut off by the end of the input as a whole.

A text file is then read with its line ends unified (`lineFeeds`).
-/

namespace Palette.Text

/-- What is wrong with a sequence of bytes. -/
inductive Utf8Flaw where
  | invalidStart
  | invalidContinuation
  | unexpectedEnd
  deriving DecidableEq, Repr

/-- The wording of a flaw. -/
def Utf8Flaw.reason : Utf8Flaw → String
  | .invalidStart => "invalid start byte"
  | .invalidContinuation => "invalid continuation byte"
  | .unexpectedEnd => "unexpected end of data"

/-- The place of a flaw: the bytes from `start` up to but not including `stop`,
of which `first` is the first. -/
structure Utf8Fault where
  first : UInt8
  start : Nat
  stop : Nat
  flaw : Utf8Flaw
  deriving DecidableEq, Repr

/-- The message for bytes from `start` up to `stop` that `encoding` does not
read; `single?` is the byte itself if there is just one. -/
def undecodable (encoding : String) (single? : Option UInt8) (start stop : Int)
    (reason : String) : String :=
  match single? with
  | some byte =>
    "'" ++ encoding ++ "' codec can't decode byte 0x" ++
      String.ofList (hexDigits 2 byte.toNat) ++ " in position " ++ toString start ++ ": " ++ reason
  | none =>
    "'" ++ encoding ++ "' codec can't decode bytes in position " ++ toString start ++ "-" ++
      toString (stop - 1) ++ ": " ++ reason

/-- The message of a fault. -/
def Utf8Fault.message (fault : Utf8Fault) : String :=
  undecodable "utf-8" (if fault.stop = fault.start + 1 then some fault.first else none)
    fault.start fault.stop fault.flaw.reason

/-- A sequence that is being read: where it starts, its first byte, the bits read
so far, how many bytes are missing, and the range of the next one. -/
structure Utf8Pending where
  start : Nat
  first : UInt8
  bits : Nat
  missing : Nat
  low : UInt8
  high : UInt8

/-- What a first byte announces: a whole character, a longer sequence, or nothing
valid. -/
def startSequence (position : Nat) (byte : UInt8) : Option (Char ⊕ Utf8Pending) :=
  if byte < 0x80 then some (.inl (Char.ofNat byte.toNat))
  else if byte < 0xC2 then none
  else if byte < 0xE0 then some (.inr ⟨position, byte, byte.toNat - 0xC0, 1, 0x80, 0xBF⟩)
  else if byte < 0xF0 then
    let low := if byte = 0xE0 then 0xA0 else 0x80
    let high := if byte = 0xED then 0x9F else 0xBF
    some (.inr ⟨position, byte, byte.toNat - 0xE0, 2, low, high⟩)
  else if byte < 0xF5 then
    let low := if byte = 0xF0 then 0x90 else 0x80
    let high := if byte = 0xF4 then 0x8F else 0xBF
    some (.inr ⟨position, byte, byte.toNat - 0xF0, 3, low, high⟩)
  else none

/-- Reads the bytes from `position` on; `done` holds the characters read so far,
the latest first. -/
def decodeFrom (position : Nat) (pending : Option Utf8Pending) (done : List Char) :
    List UInt8 → Except Utf8Fault (List Char)
  | [] =>
    match pending with
    | none => .ok done.reverse
    | some sequence => .error ⟨sequence.first, sequence.start, position, .unexpectedEnd⟩
  | byte :: rest =>
    match pending with
    | none =>
      match startSequence position byte with
      | none => .error ⟨byte, position, position + 1, .invalidStart⟩
      | some (.inl character) => decodeFrom (position + 1) none (character :: done) rest
      | some (.inr sequence) => decodeFrom (position + 1) (some sequence) done rest
    | some sequence =>
      if sequence.low ≤ byte ∧ byte ≤ sequence.high then
        let bits := sequence.bits * 64 + (byte.toNat - 0x80)
        if sequence.missing ≤ 1 then
          decodeFrom (position + 1) none (Char.ofNat bits :: done) rest
        else
          decodeFrom (position + 1)
            (some ⟨sequence.start, sequence.first, bits, sequence.missing - 1, 0x80, 0xBF⟩)
            done rest
      else .error ⟨sequence.first, sequence.start, position, .invalidContinuation⟩

/-- The characters that the bytes stand for. -/
def decodeUtf8 (bytes : List UInt8) : Except Utf8Fault (List Char) :=
  decodeFrom 0 none [] bytes

/-- The text with every carriage return, alone or before a line feed, as one line
feed. -/
def lineFeeds (characters : List Char) : List Char :=
  (characters.zip (none :: characters.map some)).filterMap fun (character, before) =>
    if character = '\n' ∧ before = some '\r' then none
    else some (if character = '\r' then '\n' else character)

end Palette.Text
