import SessionHub.Text.Digits
import SessionHub.Text.Utf8

/-!
# Percent signs

In a URL a percent sign and two hexadecimal digits stand for an octet, and any other character for
its octets. A percent sign without two digits behind it stands for itself.
-/

namespace SessionHub.Text

/-- The octets that some characters of a URL stand for. -/
def percentDecoded : List Char → List UInt8
  | '%' :: a :: b :: rest =>
    match hexDigit? a, hexDigit? b with
    | some high, some low => UInt8.ofNat (high * 16 + low) :: percentDecoded rest
    | _, _ => 37 :: percentDecoded (a :: b :: rest)
  | c :: rest => utf8Bytes [c] ++ percentDecoded rest
  | [] => []

/-- The text that some characters of a URL stand for, if their octets are one. -/
def percentText? (cs : List Char) : Option String := utf8? (percentDecoded cs)

end SessionHub.Text
