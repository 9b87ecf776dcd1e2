/-!
# Bytes as text

A byte string is text exactly when it is well-formed UTF-8; a reader that must go on regardless
puts U+FFFD for each maximal part that is not. Both are one pass, `decodeStep`, which takes either
a character or the longest start of one that went wrong.
-/

namespace SessionHub.Text

/-- Whether `b` may stand at place `i` (from 1) after the lead byte `lead`. The second byte is
narrower after some leads: this is what keeps out overlong forms, surrogates and numbers beyond
the last character. -/
def continues (lead : Nat) (i : Nat) (b : Nat) : Bool :=
  if i == 1 then
    if lead == 0xE0 then 0xA0 ≤ b && b ≤ 0xBF
    else if lead == 0xED then 0x80 ≤ b && b ≤ 0x9F
    else if lead == 0xF0 then 0x90 ≤ b && b ≤ 0xBF
    else if lead == 0xF4 then 0x80 ≤ b && b ≤ 0x8F
    else 0x80 ≤ b && b ≤ 0xBF
  else 0x80 ≤ b && b ≤ 0xBF

/-- How many bytes follow a lead byte, and the bits it brings; `none` for a byte that leads
nothing. -/
def leadOf (b : Nat) : Option (Nat × Nat) :=
  if b < 0x80 then some (0, b)
  else if 0xC2 ≤ b && b ≤ 0xDF then some (1, b - 0xC0)
  else if 0xE0 ≤ b && b ≤ 0xEF then some (2, b - 0xE0)
  else if 0xF0 ≤ b && b ≤ 0xF4 then some (3, b - 0xF0)
  else none

/-- Takes `n` continuation bytes: the code and the rest, or where it went wrong. -/
def decodeTail (lead : Nat) : Nat → Nat → Nat → List UInt8 → Except (List UInt8) (Nat × List UInt8)
  | 0, _, code, rest => .ok (code, rest)
  | _ + 1, _, _, [] => .error []
  | n + 1, i, code, b :: rest =>
    if continues lead i b.toNat then decodeTail lead n (i + 1) (code * 64 + (b.toNat - 0x80)) rest
    else .error (b :: rest)

/-- The characters of a byte string, `none` for each ill-formed part. -/
def decodeParts : Nat → List UInt8 → List (Option Char)
  | 0, _ => []
  | _ + 1, [] => []
  | fuel + 1, b :: rest =>
    match leadOf b.toNat with
    | none => none :: decodeParts fuel rest
    | some (n, bits) =>
      match decodeTail b.toNat n 1 bits rest with
      | .ok (code, rest) => some (Char.ofNat code) :: decodeParts fuel rest
      | .error rest => none :: decodeParts fuel rest

/-- The text that a byte string encodes, if it is well formed. -/
def utf8? (bytes : List UInt8) : Option String :=
  ((decodeParts bytes.length bytes).mapM id).map String.ofList

/-- The text of a byte string, with U+FFFD for what is ill formed. -/
def utf8Lossy (bytes : List UInt8) : String :=
  String.ofList ((decodeParts bytes.length bytes).map (·.getD '\uFFFD'))

/-- The bytes of a text in UTF-8, from its characters. -/
def utf8Bytes (cs : List Char) : List UInt8 := cs.flatMap String.utf8EncodeChar

/-- How many bytes some characters take in UTF-8. -/
def utf8Size : List Char → Nat
  | [] => 0
  | c :: rest => c.utf8Size + utf8Size rest

end SessionHub.Text
