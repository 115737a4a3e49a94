/-!
# Blanks

The characters that trimming removes and that separate the items of a list: the white space of
Unicode together with the four information separators `U+001C` to `U+001F`. Zero-width characters
(`U+200B`, `U+FEFF`) are not blanks.

`strip` cuts blanks from both ends of a text, `words` lists the maximal blank-free pieces of it.
-/

set_option autoImplicit false

namespace SchemaBridge.Text

/-- The blank code points, as inclusive ranges. -/
def blankRanges : List (Nat × Nat) :=
  [(0x09, 0x0d), (0x1c, 0x20), (0x85, 0x85), (0xa0, 0xa0), (0x1680, 0x1680), (0x2000, 0x200a),
    (0x2028, 0x2029), (0x202f, 0x202f), (0x205f, 0x205f), (0x3000, 0x3000)]

/-- A code point lies in one of the ranges. -/
def inRanges (ranges : List (Nat × Nat)) (code : Nat) : Bool :=
  ranges.any fun range => range.1 ≤ code && code ≤ range.2

/-- A character that trimming removes. -/
def isBlank (c : Char) : Bool := inRanges blankRanges c.toNat

/-- The characters without the blanks they start with. -/
def stripLeft (cs : List Char) : List Char := cs.dropWhile isBlank

/-- The characters without the blanks they end with. -/
def stripRight (cs : List Char) : List Char := (cs.reverse.dropWhile isBlank).reverse

/-- The characters without the blanks at both ends. -/
def strip (cs : List Char) : List Char := stripRight (stripLeft cs)

/-- Split into the maximal blank-free pieces; `piece` holds the characters of the current one in
reverse. -/
def wordsFrom (piece : List Char) : List Char → List (List Char)
  | [] => if piece.isEmpty then [] else [piece.reverse]
  | c :: rest =>
      if isBlank c then
        if piece.isEmpty then wordsFrom [] rest else piece.reverse :: wordsFrom [] rest
      else wordsFrom (c :: piece) rest

/-- The maximal blank-free pieces, in order. -/
def words (cs : List Char) : List (List Char) := wordsFrom [] cs

example : strip "\u0085 a b\u3000\x1c".toList = "a b".toList := by decide
example : words "a\u2003b \n c".toList = ["a".toList, "b".toList, "c".toList] := by decide
example : isBlank '\u200b' = false ∧ isBlank '\ufeff' = false := by decide

end SchemaBridge.Text
