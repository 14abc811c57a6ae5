import OverclockBuilder.BytePacking
import OverclockBuilder.RadixText

namespace OverclockBuilder

open RadixText BytePacking

/-!
# Bytes as text

The ways in which Python turns bytes into text and back: one character for each
byte, UTF-8, hexadecimal digits, and the `repr` of a bytes object.
-/

/-- A byte of a name. -/
def byteChar (byte : UInt8) : Char :=
  Char.ofNat byte.toNat

/-- The byte that stands for a character of a name. -/
def charByte (character : Char) : UInt8 :=
  UInt8.ofNat character.toNat

/-- The bytes of a name are the characters again. -/
theorem byteChar_charByte
    {character : Char}
    (small : character.toNat < 256) :
    byteChar (charByte character) = character := by
  rw [byteChar, charByte, UInt8.toNat_ofNat', Nat.mod_eq_of_lt small]
  exact Char.ofNat_toNat character

@[simp] theorem toNat_byteChar (byte : UInt8) :
    (byteChar byte).toNat = byte.toNat := by
  have small := byte.toNat_lt
  rw [byteChar, Char.ofNat, dif_pos (Or.inl (by omega))]
  rfl

/-- The characters of a name are its bytes again. -/
@[simp] theorem charByte_byteChar (byte : UInt8) :
    charByte (byteChar byte) = byte := by
  rw [charByte, toNat_byteChar, UInt8.ofNat_toNat]

/-! ## UTF-8 -/

/-- `text.encode('utf-8')` -/
def encodeUtf8 (text : Text) : Bytes :=
  text.flatMap String.utf8EncodeChar

/-- `data.decode('utf-8')` -/
def decodeUtf8 (data : Bytes) : Option Text :=
  data.toByteArray.utf8Decode?.map Array.toList

theorem decodeUtf8_encodeUtf8 (text : Text) :
    decodeUtf8 (encodeUtf8 text) = some text := by
  have decoded := List.utf8Decode?_utf8Encode (l := text)
  rw [List.utf8Encode] at decoded
  rw [decodeUtf8, encodeUtf8, decoded, Option.map_some,
    List.toList_toArray]

theorem encodeUtf8_append (first second : Text) :
    encodeUtf8 (first ++ second) = encodeUtf8 first ++ encodeUtf8 second :=
  List.flatMap_append

/-! ## Hexadecimal -/

/-- `data.hex()` -/
def hexlify (data : Bytes) : Text :=
  data.flatMap fun byte =>
    [Nat.digitChar (byte.toNat / 16), Nat.digitChar (byte.toNat % 16)]

/-- `binascii.unhexlify` -/
def unhexlify : Text → Option Bytes
  | [] =>
      some []
  | [_] =>
      none
  | high :: low :: rest => do
      let upper ← digitBelow 16 high
      let lower ← digitBelow 16 low
      let data ← unhexlify rest
      some (UInt8.ofNat (16 * upper + lower) :: data)

theorem unhexlify_hexlify (data : Bytes) :
    unhexlify (hexlify data) = some data := by
  induction data with
  | nil =>
      rfl
  | cons byte rest inductionHypothesis =>
      have small := byte.toNat_lt
      have upper : digitBelow 16 (Nat.digitChar (byte.toNat / 16)) = _ :=
        digitBelow_digitChar (by omega) (by decide)
      have lower : digitBelow 16 (Nat.digitChar (byte.toNat % 16)) = _ :=
        digitBelow_digitChar (by omega) (by decide)
      have whole : 16 * (byte.toNat / 16) + byte.toNat % 16 = byte.toNat := by
        omega
      have cut :
          hexlify (byte :: rest) =
            Nat.digitChar (byte.toNat / 16) ::
              Nat.digitChar (byte.toNat % 16) :: hexlify rest := rfl
      rw [cut, unhexlify, upper, lower, inductionHypothesis]
      simp only [Option.bind_eq_bind, Option.bind_some, whole,
        UInt8.ofNat_toNat]

/-- The characters of a number in hexadecimal. -/
def hexDigits : Text :=
  "0123456789abcdef".toList

theorem mem_hexDigits_digitChar
    {value : Nat}
    (small : value < 16) :
    Nat.digitChar value ∈ hexDigits := by
  revert value
  decide +kernel

theorem mem_hexlify
    {data : Bytes}
    {digit : Char}
    (member : digit ∈ hexlify data) :
    digit ∈ hexDigits := by
  obtain ⟨byte, -, inByte⟩ := List.mem_flatMap.mp member
  have small := byte.toNat_lt
  rcases List.mem_pair.mp inByte with rfl | rfl
  · exact mem_hexDigits_digitChar (by omega)
  · exact mem_hexDigits_digitChar (by omega)

theorem hexlify_ne_nil
    {data : Bytes}
    (nonempty : data ≠ []) :
    hexlify data ≠ [] := by
  cases data with
  | nil =>
      exact (nonempty rfl).elim
  | cons byte rest =>
      exact List.cons_ne_nil _ _

/-! ## `repr` -/

/-- The apostrophe -/
def singleQuote : Char :=
  '\x27'

/-- The quotation mark -/
def doubleQuote : Char :=
  '\x22'

/-- The quote `repr` chooses. -/
def reprQuote (text : Text) : Char :=
  if singleQuote ∈ text ∧ doubleQuote ∉ text then
    doubleQuote
  else
    singleQuote

/-- One byte between the quotes. -/
def reprByte (quote : Char) (byte : UInt8) : Text :=
  let character := byteChar byte
  if character = quote ∨ character = '\\' then
    ['\\', character]
  else if character = '\t' then
    "\\t".toList
  else if character = '\n' then
    "\\n".toList
  else if character = '\r' then
    "\\r".toList
  else if byte.toNat < 32 ∨ 127 ≤ byte.toNat then
    "\\x".toList ++ hexlify [byte]
  else
    [character]

/-- `repr(data)` without its prefix `b` -/
def bytesLiteral (data : Bytes) : Text :=
  let quote := reprQuote (data.map byteChar)
  quote :: data.flatMap (reprByte quote) ++ [quote]

/-- `repr(text)` of a printable ASCII text -/
def reprAscii (text : Text) : Text :=
  let quote := reprQuote text
  let escaped := text.flatMap fun character =>
    if character = quote ∨ character = '\\' then
      ['\\', character]
    else
      [character]
  quote :: escaped ++ [quote]

end OverclockBuilder
