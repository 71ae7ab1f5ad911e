import TokenRelay.Text.Digits
import TokenRelay.Text.Utf8

/-!
# Hex payloads

Contract calls and chain events carry text as octets in base sixteen behind `0x`.
Writing never fails; reading is lenient: zeros alone are the empty text, a missing
leading digit is a zero, digits that are none give the empty text, and octets that
are no UTF-8 are replaced.
-/

namespace TokenRelay.Payload

/-- What stands in front of the digits. -/
def marker : List Char := ['0', 'x']

/-- Write a text; the empty text is one zero octet. -/
def encodeList (text : List Char) : List Char :=
  if text.isEmpty then
    marker ++ ['0', '0']
  else
    marker ++ Hex.encode (Utf8.encode text)

/-- The digits behind an optional marker. -/
def digitsOf : List Char → List Char
  | '0' :: 'x' :: digits => digits
  | digits => digits

/-- Read a text. -/
def decodeList (payload : List Char) : List Char :=
  let digits := digitsOf payload
  if digits.all (· = '0') then
    []
  else
    let padded := if digits.length % 2 = 1 then '0' :: digits else digits
    match Hex.decode? padded with
    | some octets => Utf8.decodeLossy octets
    | none => []

/-- A text as a payload; the empty text has a form of its own. -/
def encode (text : String) : String :=
  String.ofList (encodeList text.toList)

/-- Read the text of a payload. -/
def decode (payload : String) : String :=
  String.ofList (decodeList payload.toList)

end TokenRelay.Payload
