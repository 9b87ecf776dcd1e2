import SessionHub.Json.Failure
import SessionHub.Text.Digits

/-!
# The words of a JSON text

What stands between the brackets: blanks, the three fixed words, strings and numbers. Each reader
takes what is unread and gives its value with what is unread then; a string's reader and a number's
reader are told that the first character has been looked at.

A number keeps its digits in 64 bits as long as they fit. Beyond that, or with a point or an
exponent, it is a double: the digits that fit, times or divided by a power of ten.
-/

namespace SessionHub.Json

/-- The outcome of a reader: a value and what is unread. -/
abbrev Read (α : Type) := Except Failure (α × List Char)

/-- The four blanks between words. -/
def isBlank (c : Char) : Bool := c = ' ' || c = '\n' || c = '\t' || c = '\r'

/-- What is unread behind the blanks. -/
def skipBlanks (s : List Char) : List Char := s.dropWhile isBlank

/-- Reads the rest of a fixed word. -/
def readWord : List Char → List Char → Except Failure (List Char)
  | [], s => .ok s
  | _ :: _, [] => .error (.here .endInValue [])
  | w :: ws, c :: s =>
    if w = c then readWord ws s else .error (.ahead .expectedIdent (c :: s))

/-! ## Strings -/

/-- Four hexadecimal digits, counted in bytes: a text shorter than that ends too early. -/
def readUnit (s : List Char) : Except Failure (Nat × List Char) :=
  if Text.utf8Size s < 4 then .error { cause := .endInString, unread := some 0 }
  else
    let refused : Failure := { cause := .invalidEscape, unread := some (Text.utf8Size s - 4) }
    match s with
    | a :: b :: c :: d :: rest =>
      match Text.hexDigit? a, Text.hexDigit? b, Text.hexDigit? c, Text.hexDigit? d with
      | some a, some b, some c, some d => .ok (((a * 16 + b) * 16 + c) * 16 + d, rest)
      | _, _, _, _ => .error refused
    | _ => .error refused

/-- The character of a surrogate pair. -/
def pairedChar (high low : Nat) : Char :=
  Char.ofNat ((high - 0xD800) * 0x400 + (low - 0xDC00) + 0x10000)

/-- What follows a leading surrogate: a second escape, which has to be its partner. -/
def readPartner (high : Nat) : List Char → Except Failure (Char × List Char)
  | [] => .error (.here .endInString [])
  | '\\' :: [] => .error (.here .endInString [])
  | '\\' :: 'u' :: s => do
    let (low, rest) ← readUnit s
    if 0xDC00 ≤ low ∧ low ≤ 0xDFFF then .ok (pairedChar high low, rest)
    else .error (.here .loneSurrogate rest)
  | '\\' :: s => .error (.ahead .unfinishedEscape s)
  | s => .error (.ahead .unfinishedEscape s)

/-- An escape by number: one unit, or a pair of surrogates. -/
def readNumbered (s : List Char) : Except Failure (Char × List Char) := do
  let (unit, rest) ← readUnit s
  if 0xDC00 ≤ unit ∧ unit ≤ 0xDFFF then .error (.here .loneSurrogate rest)
  else if 0xD800 ≤ unit ∧ unit ≤ 0xDBFF then readPartner unit rest
  else .ok (Char.ofNat unit, rest)

/-- The character of an escape by letter. -/
def lettered? : Char → Option Char
  | '"' => some '"'
  | '\\' => some '\\'
  | '/' => some '/'
  | 'b' => some '\x08'
  | 'f' => some '\x0c'
  | 'n' => some '\n'
  | 'r' => some '\r'
  | 't' => some '\t'
  | _ => none

/-- An escape, behind its backslash. -/
def readEscape : List Char → Read Char
  | [] => .error (.here .endInString [])
  | 'u' :: s => readNumbered s
  | c :: s =>
    match lettered? c with
    | some e => .ok (e, s)
    | none => .error (.ahead .invalidEscape (c :: s))

/-- A string, behind its opening quote, up to its closing one. The fuel is any number that is not
below the length of the text. -/
def readStringWith (fuel : Nat) (taken : List Char) : List Char → Read String
  | [] => .error (.here .endInString [])
  | c :: s =>
    match fuel with
    | 0 => .error (.here .endInString [])
    | fuel + 1 =>
      if c = '"' then .ok (String.ofList taken.reverse, s)
      else if c = '\\' then
        match readEscape s with
        | .ok (e, rest) => readStringWith fuel (e :: taken) rest
        | .error f => .error f
      else if c.toNat < 0x20 then .error (.ahead .controlCharacter (c :: s))
      else readStringWith fuel (c :: taken) s

/-- A string, behind its opening quote. -/
def readString (s : List Char) : Read String := readStringWith (s.length + 1) [] s

/-- Passes over a string that nobody asked for. Its escapes by number need only be four digits:
surrogates may stand alone in what is not kept. -/
def skipStringWith : Nat → List Char → Except Failure (List Char)
  | _, [] => .error (.here .endInString [])
  | 0, _ => .error (.here .endInString [])
  | fuel + 1, c :: s =>
    if c = '"' then .ok s
    else if c = '\\' then
      match s with
      | [] => .error (.here .endInString [])
      | 'u' :: rest =>
        match readUnit rest with
        | .ok (_, rest) => skipStringWith fuel rest
        | .error f => .error f
      | e :: rest =>
        if (lettered? e).isSome then skipStringWith fuel rest
        else .error (.ahead .invalidEscape (e :: rest))
    else if c.toNat < 0x20 then .error (.here .controlCharacter (c :: s))
    else skipStringWith fuel s

/-- Passes over a string, behind its opening quote. -/
def skipString (s : List Char) : Except Failure (List Char) := skipStringWith (s.length + 1) s

/-! ## Numbers -/

/-- The power `10 ^ n` as a double, for `n` up to 308. -/
def tenTo (n : Nat) : Float := Float.ofScientific 1 false n

/-- Divides by powers of ten too large for one double. Four steps bring any 64-bit number to
zero. -/
def shrink : Nat → Float → Nat → Float
  | 0, _, _ => 0
  | steps + 1, f, n => if n ≤ 308 then f / tenTo n else shrink steps (f / tenTo 308) (n - 308)

/-- Digits times a power of ten, as a double; refused when it is too large for one. -/
def double (negative : Bool) (digits : Nat) (exponent : Int) (rest : List Char) : Read Number :=
  let f := Float.ofNat digits
  let signed (f : Float) : Read Number := .ok (.double (if negative then -f else f).toBits, rest)
  if digits = 0 then signed 0
  else if exponent < 0 then signed (shrink 4 f exponent.natAbs)
  else if exponent.natAbs ≤ 308 then
    let g := f * tenTo exponent.natAbs
    if g.isInf then .error (.here .numberOutOfRange rest) else signed g
  else .error (.here .numberOutOfRange rest)

/-- Whether what is unread starts with a digit, and its value. -/
def nextDigit? : List Char → Option (Nat × List Char)
  | [] => none
  | c :: s => (Text.digit? c).map (·, s)

/-- The largest number of 64 bits. -/
def maxWord : Nat := twoTo 64 - 1

/-- The largest exponent that is read digit by digit. -/
def maxExponent : Nat := twoTo 31 - 1

/-- The digits of an exponent behind the first. -/
def readExponentDigits (negative : Bool) (digits : Nat) (exponent : Int) (down : Bool) :
    Nat → List Char → Read Number
  | read, s@(c :: rest) =>
    match Text.digit? c with
    | some d =>
      if read * 10 + d > maxExponent then
        if digits ≠ 0 ∧ !down then .error (.here .numberOutOfRange rest)
        else double negative 0 0 (s.dropWhile fun c => (Text.digit? c).isSome)
      else readExponentDigits negative digits exponent down (read * 10 + d) rest
    | none => double negative digits (if down then exponent - read else exponent + read) s
  | read, [] => double negative digits (if down then exponent - read else exponent + read) []

/-- An exponent, behind its letter. -/
def readExponent (negative : Bool) (digits : Nat) (exponent : Int) (s : List Char) : Read Number :=
  let (down, s) := match s with
    | '+' :: rest => (false, rest)
    | '-' :: rest => (true, rest)
    | _ => (false, s)
  match s with
  | [] => .error (.here .endInValue [])
  | c :: rest =>
    match Text.digit? c with
    | some d => readExponentDigits negative digits exponent down d rest
    | none => .error (.ahead .invalidNumber (c :: rest))

/-- What follows the digits of a double: an exponent, or its end. -/
def readDoubleEnd (negative : Bool) (digits : Nat) (exponent : Int) : List Char → Read Number
  | 'e' :: s | 'E' :: s => readExponent negative digits exponent s
  | s => double negative digits exponent s

/-- The digits behind the point, `count` of them so far. Digits that no longer fit are passed
over. -/
def readFraction (negative : Bool) (digits : Nat) (exponent : Int) (count : Nat) :
    List Char → Read Number
  | [] => if count = 0 then .error (.here .endInValue []) else double negative digits (exponent - count) []
  | c :: rest =>
    match Text.digit? c with
    | some d =>
      if digits * 10 + d > maxWord then
        readDoubleEnd negative digits (exponent - count)
          (rest.dropWhile fun c => (Text.digit? c).isSome)
      else readFraction negative (digits * 10 + d) exponent (count + 1) rest
    | none =>
      if count = 0 then .error (.ahead .invalidNumber (c :: rest))
      else readDoubleEnd negative digits (exponent - count) (c :: rest)

/-- Digits before the point that no longer fit: each is worth a power of ten. -/
def readLong (negative : Bool) (digits : Nat) (extra : Nat) : List Char → Read Number
  | [] => double negative digits extra []
  | c :: rest =>
    if (Text.digit? c).isSome then readLong negative digits (extra + 1) rest
    else if c = '.' then readFraction negative digits extra 0 rest
    else readDoubleEnd negative digits extra (c :: rest)

/-- What follows the digits of an integer. A negative integer that does not fit, and negative
zero, are doubles. -/
def readNumberEnd (negative : Bool) (digits : Nat) : List Char → Read Number
  | '.' :: s => readFraction negative digits 0 0 s
  | 'e' :: s | 'E' :: s => readExponent negative digits 0 s
  | s =>
    if !negative then .ok (.int digits, s)
    else if 0 < digits ∧ digits ≤ twoTo 63 then .ok (.int (-(digits : Int)), s)
    else .ok (.double (-(Float.ofNat digits)).toBits, s)

/-- The digits of an integer behind the first. -/
def readDigits (negative : Bool) (digits : Nat) : List Char → Read Number
  | [] => readNumberEnd negative digits []
  | c :: rest =>
    match Text.digit? c with
    | some d =>
      if digits * 10 + d > maxWord then readLong negative digits 0 (c :: rest)
      else readDigits negative (digits * 10 + d) rest
    | none => readNumberEnd negative digits (c :: rest)

/-- A number, behind its sign. A leading zero stands alone before the point. -/
def readNumber (negative : Bool) : List Char → Read Number
  | [] => .error (.here .endInValue [])
  | c :: rest =>
    match Text.digit? c with
    | none => .error (.ahead .invalidNumber (c :: rest))
    | some 0 =>
      if (nextDigit? rest).isSome then .error (.ahead .invalidNumber rest)
      else readNumberEnd negative 0 rest
    | some d => readDigits negative d rest

/-- Passes over digits. -/
def skipDigits (s : List Char) : List Char := s.dropWhile fun c => (Text.digit? c).isSome

/-- Passes over an exponent, behind its letter. -/
def skipExponent (s : List Char) : Except Failure (List Char) :=
  let s := match s with
    | '+' :: rest | '-' :: rest => rest
    | _ => s
  if (nextDigit? s).isSome then .ok (skipDigits s) else .error (.ahead .invalidNumber s)

/-- Passes over a number that nobody asked for, behind its sign. A number that breaks off is
refused as such, also where the text ends. -/
def skipNumber (s : List Char) : Except Failure (List Char) := do
  let s ← match s with
    | '0' :: rest =>
      if (nextDigit? rest).isSome then .error (Failure.ahead .invalidNumber rest) else pure rest
    | _ => if (nextDigit? s).isSome then pure (skipDigits s) else .error (Failure.ahead .invalidNumber s)
  match s with
  | '.' :: rest =>
    if (nextDigit? rest).isSome then
      match skipDigits rest with
      | 'e' :: rest | 'E' :: rest => skipExponent rest
      | rest => .ok rest
    else .error (.ahead .invalidNumber rest)
  | 'e' :: rest | 'E' :: rest => skipExponent rest
  | _ => .ok s

end SessionHub.Json
