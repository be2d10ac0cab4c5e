import Conch.Text.Ascii
import Conch.Text.Utf8

/-!
# Percent encoding

A character that may not stand in a part of an address is written as the octets of its
UTF-8 form, each as `%` and two hexadecimal digits.  Which characters these are depends
on the part; control characters and everything beyond ASCII always are.
-/

namespace Conch.Url

/-- Whether a character is encoded in every part. -/
def isControl (c : Char) : Bool :=
  c.toNat < 0x20 || 0x7E < c.toNat

/-- Whether a character is encoded in a fragment. -/
def encodedInFragment (c : Char) : Bool :=
  isControl c || " \"<>`".toList.contains c

/-- Whether a character is encoded in a path. -/
def encodedInPath (c : Char) : Bool :=
  encodedInFragment c || "#?\x7b\x7d".toList.contains c

/-- Whether a character is encoded in a user name or a password. -/
def encodedInUser (c : Char) : Bool :=
  encodedInPath c || "/:;=@[\\]^|".toList.contains c

/-- Whether a character is encoded in a query. -/
def encodedInQuery (c : Char) : Bool :=
  isControl c || " \"#<>'".toList.contains c

/-- One octet, encoded. -/
def encodeOctet (b : UInt8) : List Char :=
  '%' :: (Text.hexDigits 2 b.toNat).map Text.asciiUpperChar

/-- A text with the characters that `isEncoded` selects encoded. -/
def percentEncode (isEncoded : Char → Bool) (s : List Char) : List Char :=
  s.flatMap fun c =>
    if isEncoded c then (Text.Utf8.encodeChar c).flatMap encodeOctet else [c]

/-- The octets that a text stands for when what is encoded in it is decoded. -/
def percentDecode : List Char → List UInt8
  | [] => []
  | [c] => Text.Utf8.encodeChar c
  | [c, d] => Text.Utf8.encodeChar c ++ Text.Utf8.encodeChar d
  | c :: d :: e :: rest =>
      if c = '%' then
        match Text.hexValue? d, Text.hexValue? e with
        | some high, some low => (16 * high + low).toUInt8 :: percentDecode rest
        | _, _ => Text.Utf8.encodeChar c ++ percentDecode (d :: e :: rest)
      else Text.Utf8.encodeChar c ++ percentDecode (d :: e :: rest)

end Conch.Url
