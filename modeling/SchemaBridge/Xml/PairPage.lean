import SchemaBridge.Xml.Grid.Japanese
import SchemaBridge.Xml.Grid.Korean
import SchemaBridge.Xml.Grid.Simplified
import SchemaBridge.Xml.Grid.Traditional

/-!
# Pages of byte pairs

Encodings of East Asia that spend one byte on some characters and a pair of bytes on the others. A
page says which single bytes are characters; the byte after any other byte belongs to a pair with
it. Most pairs are the row and the cell of a character in a grid.
-/

set_option autoImplicit false

namespace SchemaBridge.Xml

/-- An encoding of one or two bytes per character. -/
structure PairPage where
  /-- The names in capital letters. -/
  names : List String
  /-- The character of a single byte. -/
  single? : Nat → Option Char
  /-- The character of a pair of bytes. -/
  pair? : Nat → Nat → Option Char

namespace PairPage

/-- The characters of bytes. -/
def decode? (page : PairPage) : List Nat → Option (List Char)
  | [] => some []
  | [byte] => (page.single? byte).map ([·])
  | first :: second :: rest =>
      match page.single? first with
      | some c => (page.decode? (second :: rest)).map (c :: ·)
      | none => do
          let c ← page.pair? first second
          return c :: (← page.decode? rest)

/-! ## Places in grids -/

/-- The character in a row and a cell of a grid with rows of a width. -/
def inGrid? (grid : Array Char) (width row cell : Nat) : Option Char :=
  if cell < width then (grid[row * width + cell]?).filter (· ≠ ' ') else none

/-- A byte of ASCII. -/
def ascii? (byte : Nat) : Option Char := if byte < 0x80 then some (Char.ofNat byte) else none

/-- The half-width Japanese character of a byte. -/
def halfWidth? (byte : Nat) : Option Char :=
  if 0xa1 ≤ byte && byte ≤ 0xdf then some (Char.ofNat (0xff61 + (byte - 0xa1))) else none

/-- The character of a grid of 94 cells a row, when both bytes count from `0xa1`. -/
def upperPair? (grid : Array Char) (first second : Nat) : Option Char :=
  if 0xa1 ≤ first && 0xa1 ≤ second then inGrid? grid 94 (first - 0xa1) (second - 0xa1) else none

/-- The place of a second byte among those from `0x40` on without `0x7f`. -/
def placeFrom40? (byte : Nat) : Option Nat :=
  if 0x40 ≤ byte && byte < 0x7f then some (byte - 0x40)
  else if 0x7f < byte && byte < 0xff then some (byte - 0x41)
  else none

/-! ## The pages -/

/-- Japanese in pairs of upper bytes; the byte `0x8e` announces a half-width character. -/
def upperJapanese : PairPage where
  names := ["EUC-JP", "EUCJP"]
  single? := ascii?
  pair? first second :=
    if first = 0x8e then halfWidth? second else upperPair? Grid.japanese first second

/-- Japanese in shifted pairs: two rows of the grid share a first byte. Two signs differ from
ASCII. -/
def shiftedJapanese : PairPage where
  names := ["SHIFT_JIS", "SHIFT-JIS", "SJIS", "MS_KANJI", "CSSHIFTJIS"]
  single? byte :=
    if byte = 0x5c then some '¥'
    else if byte = 0x7e then some '‾'
    else (ascii? byte).orElse fun _ => halfWidth? byte
  pair? first second := do
    let place ← placeFrom40? second
    let twin ←
      if 0x81 ≤ first && first ≤ 0x9f then some (first - 0x81)
      else if 0xe0 ≤ first && first ≤ 0xea then some (first - 0xc1)
      else none
    if place < 188 then inGrid? Grid.japanese 94 (2 * twin + place / 94) (place % 94) else none

/-- Korean in pairs of upper bytes. -/
def korean : PairPage where
  names := ["EUC-KR", "EUCKR", "CSEUCKR"]
  single? := ascii?
  pair? := upperPair? Grid.korean

/-- The character of a pair in the extended national code of China. -/
def simplifiedPair? (first second : Nat) : Option Char := do
  let place ← placeFrom40? second
  if 0x81 ≤ first then inGrid? Grid.simplified 190 (first - 0x81) place else none

/-- Simplified Chinese in the extended national code. -/
def extendedSimplified : PairPage where
  names := ["GBK", "CP936", "MS936", "WINDOWS-936", "GB18030"]
  single? := ascii?
  pair? := simplifiedPair?

/-- Simplified Chinese in pairs of upper bytes. Two punctuation marks differ from the extended
code. -/
def simplified : PairPage where
  names := ["GB2312", "EUC-CN", "EUCCN", "CN-GB", "CSGB2312"]
  single? := ascii?
  pair? first second :=
    if first < 0xa1 || 0xf7 < first || second < 0xa1 then none
    else if first = 0xa1 && second = 0xa4 then some '・'
    else if first = 0xa1 && second = 0xaa then some '―'
    else simplifiedPair? first second

/-- Traditional Chinese. -/
def traditional : PairPage where
  names := ["BIG5", "BIG-5", "BIG-FIVE", "BIGFIVE", "CN-BIG5", "CSBIG5"]
  single? := ascii?
  pair? first second :=
    let cell? :=
      if 0x40 ≤ second && second < 0x7f then some (second - 0x40)
      else if 0xa1 ≤ second && second < 0xff then some (second - 0x62)
      else none
    if 0xa1 ≤ first then cell?.bind (inGrid? Grid.traditional 157 (first - 0xa1)) else none

/-- All pages. -/
def all : List PairPage :=
  [upperJapanese, shiftedJapanese, korean, extendedSimplified, simplified, traditional]

/-- The page with a name, in which the case of letters makes no difference. -/
def ofName? (name : String) : Option PairPage :=
  all.find? fun page => page.names.contains name.toUpper

end PairPage

end SchemaBridge.Xml
