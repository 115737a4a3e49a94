import SchemaBridge.Xml.CodePage
import SchemaBridge.Xml.Document
import SchemaBridge.Xml.PairPage

/-!
# Encodings of documents

A document given as bytes says by its first bytes, or by its declaration, how they are to be read.
A byte order mark decides; failing that, zero bytes around the first brackets betray the two- and
four-byte encodings; failing that, the declaration is read as ASCII, and without an encoding there
the bytes are UTF-8. Bytes that the encoding does not allow, and encodings that are not known, make
the document malformed.
-/

set_option autoImplicit false

namespace SchemaBridge.Xml

/-- The encodings that are known. -/
inductive Encoding where
  | utf8
  | utf16 (bigEndian : Bool)
  | utf32 (bigEndian : Bool)
  /-- One byte per character. -/
  | bytewise (table : CodePage)
  /-- One or two bytes per character. -/
  | pairwise (table : PairPage)

namespace Encoding

/-- The encoding with a name, among those in which ASCII reads as itself. -/
def ofName? (name : String) : Option Encoding :=
  if ["UTF-8", "UTF8"].contains name.toUpper then some .utf8
  else
    ((CodePage.ofName? name).map .bytewise).orElse fun _ =>
      (PairPage.ofName? name).map .pairwise

/-- A code point as a character; surrogates are none. -/
def char? (code : Nat) : Option Char :=
  if code.isValidChar then some (Char.ofNat code) else none

/-- The numbers written by pairs of bytes. -/
def units16? (bigEndian : Bool) : List Nat → Option (List Nat)
  | [] => some []
  | a :: b :: rest =>
      (units16? bigEndian rest).map ((if bigEndian then a * 256 + b else b * 256 + a) :: ·)
  | [_] => none

/-- The characters written by sixteen-bit units; surrogates must stand in pairs. -/
def chars16? : List Nat → Option (List Char)
  | [] => some []
  | high :: low :: rest =>
      if 0xd800 ≤ high && high < 0xdc00 then
        if 0xdc00 ≤ low && low < 0xe000 then do
          let c ← char? (0x10000 + (high - 0xd800) * 0x400 + (low - 0xdc00))
          return c :: (← chars16? rest)
        else none
      else do return (← char? high) :: (← chars16? (low :: rest))
  | [unit] => (char? unit).map ([·])

/-- The characters written by four bytes each. -/
def chars32? (bigEndian : Bool) : List Nat → Option (List Char)
  | [] => some []
  | a :: b :: c :: d :: rest => do
      let code :=
        if bigEndian then ((a * 256 + b) * 256 + c) * 256 + d
        else ((d * 256 + c) * 256 + b) * 256 + a
      return (← char? code) :: (← chars32? bigEndian rest)
  | _ => none

/-- The characters of bytes in an encoding. -/
def decode? (encoding : Encoding) (bytes : ByteArray) : Option (List Char) :=
  let numbers := bytes.toList.map UInt8.toNat
  match encoding with
  | .utf8 => (String.fromUTF8? bytes).map String.toList
  | .utf16 bigEndian => (units16? bigEndian numbers).bind chars16?
  | .utf32 bigEndian => chars32? bigEndian numbers
  | .bytewise table => table.decode? numbers
  | .pairwise table => table.decode? numbers

/-- The encoding that the first bytes betray. -/
def ofFirstBytes? (bytes : List Nat) : Option Encoding :=
  match bytes with
  | 0x00 :: 0x00 :: 0x00 :: 0x3c :: _ => some (.utf32 true)
  | 0x3c :: 0x00 :: 0x00 :: 0x00 :: _ => some (.utf32 false)
  | 0x00 :: 0x3c :: 0x00 :: 0x3f :: _ => some (.utf16 true)
  | 0x3c :: 0x00 :: 0x3f :: 0x00 :: _ => some (.utf16 false)
  | 0x00 :: 0x00 :: 0xfe :: 0xff :: _ => some (.utf32 true)
  | 0xff :: 0xfe :: 0x00 :: 0x00 :: _ => some (.utf32 false)
  | 0xef :: 0xbb :: 0xbf :: _ => some .utf8
  | 0xfe :: 0xff :: _ => some (.utf16 true)
  | 0xff :: 0xfe :: _ => some (.utf16 false)
  | _ => none

/-- The encoding that the declaration names; UTF-8 without a declaration or without a name in it. -/
def ofDeclaration? (bytes : List Nat) : Option Encoding :=
  let ascii := bytes.map fun b => Char.ofNat (if b < 0x80 then b else 0x3f)
  if hasDeclarationLine ascii then
    match readDeclarationLine? ascii with
    | some (⟨_, some name, _⟩, _) => ofName? name
    | _ => some .utf8
  else some .utf8

/-- The encoding of a document. -/
def ofDocument? (bytes : ByteArray) : Option Encoding :=
  match ofFirstBytes? ((bytes.toList.take 4).map UInt8.toNat) with
  | some encoding => some encoding
  | none => ofDeclaration? ((bytes.toList.take 1024).map UInt8.toNat)

end Encoding

/-- The root element of a document given as bytes. -/
def parseBytes (bytes : ByteArray) : Except Failure Element :=
  match (Encoding.ofDocument? bytes).bind fun encoding => encoding.decode? bytes with
  | some cs => parse (String.ofList cs)
  | none => .error .malformedXml

end SchemaBridge.Xml
