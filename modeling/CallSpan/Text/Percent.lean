import CallSpan.Text.Hex

/-!
# Percent coding

Baggage travels with the octets that would break its syntax written as a
percent sign and two hexadecimal digits. Writing escapes controls, octets
beyond ASCII, and the characters space, quotation mark, semicolon, comma and
equals sign. Reading replaces each well-formed escape and leaves a percent sign
without two digits as it stands.
-/

namespace CallSpan.Text.Percent

def sign : UInt8 := 0x25

/-- Octets that writing escapes. -/
def isReserved (b : UInt8) : Bool :=
  b < 0x20 || 0x7F ≤ b || b == 0x20 || b == 0x22 || b == 0x3B || b == 0x2C || b == 0x3D

/-- The escape of an octet. -/
def escape (b : UInt8) : List UInt8 :=
  [sign, UInt8.ofNat (Hex.upperDigit (b.toNat / 16)).toNat,
    UInt8.ofNat (Hex.upperDigit (b.toNat % 16)).toNat]

/-- The written form, in which reserved octets are escaped. -/
def encode (bytes : List UInt8) : List UInt8 :=
  bytes.flatMap fun b => if isReserved b then escape b else [b]

/-- The octet that two characters denote behind a percent sign. -/
def escaped? (h l : UInt8) : Option UInt8 := do
  let hi ← Hex.digit? (Char.ofNat h.toNat)
  let lo ← Hex.digit? (Char.ofNat l.toNat)
  some (UInt8.ofNat (hi * 16 + lo))

/-- The octets that a written form denotes. A percent sign without two digits
behind it stands for itself. -/
def decode : List UInt8 → List UInt8
  | [] => []
  | [b] => [b]
  | [b, c] => [b, c]
  | b :: h :: l :: rest =>
    match if b = sign then escaped? h l else none with
    | some d => d :: decode rest
    | none => b :: decode (h :: l :: rest)

end CallSpan.Text.Percent
