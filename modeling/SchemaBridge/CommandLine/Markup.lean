import SchemaBridge.Failure
import SchemaBridge.Text.Blank
import SchemaBridge.Text.Columns

/-!
# Markup of printed texts

Texts for the user pass through the markup of the terminal. A tag in square brackets sets a style
and is not shown itself; a tag with a stroke ends the style that it names, or the last one.
Backslashes before a tag are its escape: an odd number of them makes it plain text. A tag starts
with a small letter or one of `#`, `/` and `@`, and holds no opening bracket, so other brackets are
plain text.

`shown` gives what remains of a text; it fails exactly when a tag ends a style that is not set.
`wrapped` breaks a long text at blanks where that is possible.
-/

set_option autoImplicit false

namespace SchemaBridge.CommandLine.Markup

/-- A piece of a text with markup. -/
inductive Piece where
  | plain (text : List Char)
  | opening (style : String)
  /-- The end of a style; the empty text ends the last one. -/
  | closing (style : String)
deriving DecidableEq

/-- A tag at the front: what its brackets hold, and what follows. -/
def takeTag? : List Char → Option (List Char × List Char)
  | '[' :: c :: rest =>
      let starts : Bool := ('a' ≤ c && c ≤ 'z') || c = '#' || c = '/' || c = '@'
      let body := rest.takeWhile fun d => d ≠ '[' && d ≠ ']'
      match starts, rest.dropWhile fun d => d ≠ '[' && d ≠ ']' with
      | true, ']' :: tail => some (c :: body, tail)
      | _, _ => none
  | _ => none

/-- The styles with a short name. -/
def shortStyles : List (String × String) :=
  [("b", "bold"), ("c", "conceal"), ("d", "dim"), ("i", "italic"), ("o", "overline"),
    ("r", "reverse"), ("s", "strike"), ("u", "underline"), ("uu", "underline2")]

/-- The name of a style in its usual spelling. -/
def styleName (name : List Char) : String :=
  let words := (Text.words name).map fun word => (String.ofList word).toLower
  " ".intercalate (words.map fun word => (shortStyles.lookup word).getD word)

/-- The piece that a tag is. What follows an equals sign does not belong to the name. -/
def tagPiece (tag : List Char) : Piece :=
  match tag.takeWhile (· ≠ '=') with
  | '/' :: name => .closing (styleName name)
  | name => .opening (styleName name)

/-- Take a text apart in at most `limit` steps. `plain` holds, in reverse, the plain text before. -/
def piecesWithin : Nat → List Char → List Char → List Piece
  | 0, plain, _ => [.plain plain.reverse]
  | limit + 1, plain, cs =>
      let slashes := cs.takeWhile (· = '\\')
      let rest := cs.dropWhile (· = '\\')
      match takeTag? rest, rest with
      | some (tag, tail), _ =>
          let kept := slashes.take (slashes.length / 2)
          let piece :=
            if slashes.length % 2 = 0 then tagPiece tag else .plain ('[' :: (tag ++ [']']))
          .plain plain.reverse :: .plain kept :: piece :: piecesWithin limit [] tail
      | none, [] => [.plain (slashes ++ plain).reverse]
      | none, c :: tail => piecesWithin limit (c :: (slashes ++ plain)) tail

/-- The pieces of a text. Every step takes a character, so there are no more steps than
characters and one for the end. -/
def pieces (text : String) : List Piece := piecesWithin (text.length + 1) [] text.toList

/-- Brackets in plain text need no backslash but may have one. -/
def withoutEscapes : List Char → List Char
  | [] => []
  | '\\' :: '[' :: rest => '[' :: withoutEscapes rest
  | c :: rest => c :: withoutEscapes rest

/-- The plain text of pieces, given the styles that are set, the last one first. -/
def plainText? (styles : List String) : List Piece → Option (List Char)
  | [] => some []
  | .plain text :: rest => (plainText? styles rest).map (withoutEscapes text ++ ·)
  | .opening style :: rest => plainText? (style :: styles) rest
  | .closing "" :: rest =>
      match styles with
      | [] => none
      | _ :: outer => plainText? outer rest
  | .closing style :: rest =>
      if styles.contains style then plainText? (styles.erase style) rest else none

/-- A character that terminals act on, which is never shown. -/
def isControl (c : Char) : Bool := [7, 8, 11, 12, 13].contains c.toNat

/-- What is shown of a text. -/
def shown (text : String) : Except Failure String :=
  match plainText? [] (pieces text) with
  | some cs => .ok (String.ofList (cs.filter fun c => !isControl c))
  | none => .error .unopenedTag

/-! ## Long texts -/

/-- The words of a text, each with the blanks around it that no word before it has. -/
def blankedWords (cs : List Char) : List (List Char) :=
  let (current, done) := cs.foldl
    (fun (current, done) c =>
      match current with
      | d :: _ =>
          if Text.isBlank d && !Text.isBlank c && current.any (!Text.isBlank ·) then
            ([c], current.reverse :: done)
          else (c :: current, done)
      | [] => ([c], done))
    (([] : List Char), ([] : List (List Char)))
  ((if current.isEmpty then done else current.reverse :: done)).reverse

/-- The columns of characters. -/
def width (cs : List Char) : Nat := Text.columns (String.ofList cs)

/-- Cut a word into pieces that fit a width; `piece` holds the current one in reverse. -/
def folded (limit : Nat) (piece : List Char) : List Char → List (List Char)
  | [] => [piece.reverse]
  | c :: rest =>
      if !piece.isEmpty && limit < width piece + Text.charColumns c then
        piece.reverse :: folded limit [c] rest
      else folded limit (c :: piece) rest

/-- Add a word to lines of which the last one comes first. A word that fits no line is cut. -/
def addWord (limit : Nat) (lines : List (List Char)) (word : List Char) : List (List Char) :=
  match lines with
  | [] =>
      if limit < width (Text.stripRight word) then (folded limit [] word).reverse else [word]
  | line :: done =>
      if width line + width (Text.stripRight word) ≤ limit then (line ++ word) :: done
      else if limit < width (Text.stripRight word) then (folded limit [] word).reverse ++ lines
      else word :: lines

/-- A line without blanks that stand beyond the width. -/
def cropped (limit : Nat) (line : List Char) : List Char :=
  let excess := line.length - limit
  let blanks := (line.reverse.takeWhile Text.isBlank).length
  line.take (line.length - min excess blanks)

/-- A text on lines of at most a number of columns; there is one line at least. -/
def wrapped (limit : Nat) (text : String) : List String :=
  match (blankedWords text.toList).foldl (addWord limit) [] with
  | [] => [""]
  | lines => lines.reverse.map fun line => String.ofList (cropped limit line)

example : plainText? [] (pieces "a[b]c[/bold]\\[d][1]") = some "ac[d][1]".toList := by
  decide +kernel
example : plainText? [] (pieces "a[b]c[/]d[/]") = none := by decide +kernel
example : wrapped 6 "ab cdefghijk l" = ["ab ", "cdefgh", "ijk l"] := by decide +kernel

end SchemaBridge.CommandLine.Markup
