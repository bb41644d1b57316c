import ContentFilter.Text.Basic
/-!
UTF-8. Bytes are read one at a time by a machine that knows which bytes may come next. A character
that the next byte cannot go on with is given up there, and that byte is read anew; so an invalid
part is as long as it can be while it is still the beginning of some character.
-/
namespace ContentFilter.Utf8

/-- A character that has begun: its bits so far, how many bytes follow the next one, and the bounds
of the next one. -/
structure Pending where
  bits : Nat
  later : Nat
  low : Nat := 0x80
  high : Nat := 0xBF
  deriving DecidableEq, Repr

abbrev State := Option Pending

/-- What the first byte of a character tells. Overlong forms, surrogates and code points that are
too large are kept out by the bounds of the second byte. -/
def begin (b : Nat) : List (Option Char) × State :=
  if b < 0x80 then ([some (Char.ofNat b)], none)
  else if b < 0xC2 then ([none], none)
  else if b < 0xE0 then ([], some { bits := b - 0xC0, later := 0 })
  else if b < 0xF0 then
    ([], some
      { bits := b - 0xE0, later := 1, low := if b = 0xE0 then 0xA0 else 0x80
        high := if b = 0xED then 0x9F else 0xBF })
  else if b < 0xF5 then
    ([], some
      { bits := b - 0xF0, later := 2, low := if b = 0xF0 then 0x90 else 0x80
        high := if b = 0xF4 then 0x8F else 0xBF })
  else ([none], none)

def Pending.next (p : Pending) (b : Nat) : List (Option Char) × State :=
  let bits := p.bits * 64 + (b - 0x80)
  match p.later with
  | 0 => ([some (Char.ofNat bits)], none)
  | later + 1 => ([], some { bits, later })

def step (state : State) (byte : UInt8) : List (Option Char) × State :=
  let b := byte.toNat
  match state with
  | none => begin b
  | some p =>
    if p.low ≤ b ∧ b ≤ p.high then p.next b
    else (none :: (begin b).1, (begin b).2)

def decodeFrom (state : State) : List UInt8 → List (Option Char)
  | [] => if state.isSome then [none] else []
  | byte :: rest => (step state byte).1 ++ decodeFrom (step state byte).2 rest

def decode (bytes : List UInt8) : List (Option Char) := decodeFrom none bytes

/-- The text of some bytes, with the replacement character for each invalid part. -/
def decodeLossy (bytes : List UInt8) : Text := (decode bytes).map (·.getD '\uFFFD')

def decode? (bytes : List UInt8) : Option Text := (decode bytes).mapM id

def continuation (n : Nat) : UInt8 := UInt8.ofNat (0x80 + n % 64)

def encodeChar (c : Char) : List UInt8 :=
  let n := c.toNat
  if n < 0x80 then [UInt8.ofNat n]
  else if n < 0x800 then [UInt8.ofNat (0xC0 + n / 64), continuation n]
  else if n < 0x10000 then
    [UInt8.ofNat (0xE0 + n / 4096), continuation (n / 64), continuation n]
  else
    [UInt8.ofNat (0xF0 + n / 262144), continuation (n / 4096), continuation (n / 64),
      continuation n]

def encode (s : Text) : List UInt8 := s.flatMap encodeChar

end ContentFilter.Utf8
