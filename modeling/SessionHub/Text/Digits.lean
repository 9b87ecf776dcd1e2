import SessionHub.Number.Power

/-!
# Digits

Decimal and hexadecimal digits, and the reading of a whole text as an unsigned number: an optional
leading `+`, then one or more ASCII digits, leading zeros allowed and nothing else.
-/

namespace SessionHub.Text

/-- The value of a decimal digit. -/
def digit? (c : Char) : Option Nat :=
  if '0' ≤ c ∧ c ≤ '9' then some (c.toNat - '0'.toNat) else none

/-- The value of a hexadecimal digit of either case. -/
def hexDigit? (c : Char) : Option Nat :=
  if '0' ≤ c ∧ c ≤ '9' then some (c.toNat - '0'.toNat)
  else if 'a' ≤ c ∧ c ≤ 'f' then some (c.toNat - 'a'.toNat + 10)
  else if 'A' ≤ c ∧ c ≤ 'F' then some (c.toNat - 'A'.toNat + 10)
  else none

/-- The lower-case hexadecimal digit of a value below sixteen. -/
def hexChar (n : Nat) : Char :=
  if n < 10 then Char.ofNat ('0'.toNat + n) else Char.ofNat ('a'.toNat + (n - 10))

/-- A number in lower-case hexadecimal, without leading zeros. -/
def hexText (n : Nat) : String := String.ofList (Nat.toDigits 16 n)

/-- The number that a run of digits denotes, after those already read. -/
def decimalFrom (read : Nat) : List Char → Option Nat
  | [] => some read
  | c :: rest => (digit? c).bind fun d => decimalFrom (read * 10 + d) rest

/-- A whole text as an unsigned number below `bound`. -/
def unsigned? (bound : Nat) (s : String) : Option Nat :=
  let digits := match s.toList with
    | '+' :: rest => rest
    | all => all
  if digits.isEmpty then none else (decimalFrom 0 digits).filter (· < bound)

/-- A whole text as a signed number of 64 bits: an optional sign, then digits. -/
def signed? (s : String) : Option Int :=
  let read (digits : List Char) : Option Nat := if digits.isEmpty then none else decimalFrom 0 digits
  match s.toList with
  | '-' :: rest => ((read rest).filter (· ≤ twoTo 63)).map fun n => -(n : Int)
  | '+' :: rest => ((read rest).filter (· < twoTo 63)).map Int.ofNat
  | all => ((read all).filter (· < twoTo 63)).map Int.ofNat

/-- Zero or more leading zeros, so that a number fills `width` places. -/
def padded (width n : Nat) : String :=
  let digits := toString n
  String.ofList (List.replicate (width - digits.length) '0') ++ digits

end SessionHub.Text
