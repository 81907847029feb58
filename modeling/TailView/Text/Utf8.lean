/-!
# UTF-8

Decoding never fails: each maximal invalid part of the input becomes one replacement character.
The decoder is a machine that reads one byte at a time, so that decoding a concatenation is
decoding the parts with the state carried over.  Encoding writes each character with the fewest
bytes.
-/

namespace TailView
namespace Text
namespace Utf8

/-- What stands for a part that is not valid UTF-8. -/
def replacement : Char := '\uFFFD'

/-- Between characters, or inside one that still needs `missing` bytes, of which the next must lie
between `low` and `high`. -/
inductive State
  | idle
  | inside (missing : Nat) (low high : Nat) (value : Nat)
deriving DecidableEq, Repr

/-- The state after a first byte that is not ASCII, if a character can start with it.  The bounds
on the second byte exclude long forms, surrogates and values above the last code point. -/
def stateAfterLead (byte : Nat) : Option State :=
  if 0xC2 ≤ byte && byte ≤ 0xDF then some (.inside 1 0x80 0xBF (byte - 0xC0))
  else if byte = 0xE0 then some (.inside 2 0xA0 0xBF (byte - 0xE0))
  else if byte = 0xED then some (.inside 2 0x80 0x9F (byte - 0xE0))
  else if 0xE1 ≤ byte && byte ≤ 0xEF then some (.inside 2 0x80 0xBF (byte - 0xE0))
  else if byte = 0xF0 then some (.inside 3 0x90 0xBF (byte - 0xF0))
  else if 0xF1 ≤ byte && byte ≤ 0xF3 then some (.inside 3 0x80 0xBF (byte - 0xF0))
  else if byte = 0xF4 then some (.inside 3 0x80 0x8F (byte - 0xF0))
  else none

/-- One byte read between characters. -/
def start (byte : UInt8) : List Char × State :=
  if byte < 0x80 then ([Char.ofNat byte.toNat], .idle)
  else
    match stateAfterLead byte.toNat with
    | some state => ([], state)
    | none => ([replacement], .idle)

/-- One byte read in any state: the characters it completes and the state after it. -/
def step (state : State) (byte : UInt8) : List Char × State :=
  match state with
  | .idle => start byte
  | .inside missing low high value =>
      if low ≤ byte.toNat && byte.toNat ≤ high then
        let value := value * 64 + (byte.toNat - 0x80)
        if missing ≤ 1 then ([Char.ofNat value], .idle)
        else ([], .inside (missing - 1) 0x80 0xBF value)
      else
        let (cs, next) := start byte
        (replacement :: cs, next)

/-- What the end of the input adds. -/
def finish : State → List Char
  | .idle => []
  | .inside _ _ _ _ => [replacement]

/-- Decodes from a state up to the end of the input. -/
def decodeFrom (state : State) : List UInt8 → List Char
  | [] => finish state
  | byte :: rest =>
      let (cs, next) := step state byte
      cs ++ decodeFrom next rest

/-- The characters of a list of bytes, with replacement characters for what is not valid. -/
def decode (bytes : List UInt8) : List Char := decodeFrom .idle bytes

/-- The text of a list of bytes, with replacement characters for what is not valid. -/
def decodeString (bytes : List UInt8) : String := String.ofList (decode bytes)

/-- The bytes of one character. -/
def encodeChar (c : Char) : List UInt8 :=
  let n := c.toNat
  let tail (shift : Nat) : UInt8 := (0x80 + n / Nat.pow 2 shift % 64).toUInt8
  if n < 0x80 then [n.toUInt8]
  else if n < 0x800 then [(0xC0 + n / 64).toUInt8, tail 0]
  else if n < 0x10000 then [(0xE0 + n / 4096).toUInt8, tail 6, tail 0]
  else [(0xF0 + n / 262144).toUInt8, tail 12, tail 6, tail 0]

/-- The bytes of a text. -/
def encode (cs : List Char) : List UInt8 := cs.flatMap encodeChar

/-- The bytes of a text. -/
def encodeString (s : String) : List UInt8 := encode s.toList

/-- The text of a list of bytes if they are valid UTF-8. -/
def decodeString? (bytes : List UInt8) : Option String :=
  let cs := decode bytes
  if encode cs = bytes then some (String.ofList cs) else none

@[simp]
theorem decode_nil : decode [] = [] := rfl

@[simp]
theorem encode_append (first second : List Char) :
    encode (first ++ second) = encode first ++ encode second := by
  simp [encode]

end Utf8
end Text
end TailView
