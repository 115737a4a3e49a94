/-!
# References to resources

The identifiers of namespaces have the form of references to resources. An absolute reference is a
scheme, a colon and a hierarchy; a relative one is a hierarchy whose first segment holds no colon.
Both may go on with a query and a fragment. Each function takes a part off the front of a text and
returns what follows; a text is a reference when nothing is left.
-/

set_option autoImplicit false

namespace SchemaBridge.Xml.Uri

/-- A letter, digit or mark of ASCII that stands for itself in every part. -/
def isPlain (c : Char) : Bool := c.isAlphanum || "-._~!$&'()*+,;=".toList.contains c

/-- A hexadecimal digit. -/
def isHexDigit (c : Char) : Bool :=
  c.isDigit || ('a' ≤ c && c ≤ 'f') || ('A' ≤ c && c ≤ 'F')

/-- What follows the longest run of plain characters, the given marks, and escapes, which are a
percent sign and two hexadecimal digits. -/
def skipRun (marks : List Char) : List Char → List Char
  | [] => []
  | '%' :: a :: b :: rest =>
      if isHexDigit a && isHexDigit b then skipRun marks rest else '%' :: a :: b :: rest
  | c :: rest => if isPlain c || marks.contains c then skipRun marks rest else c :: rest

/-- The marks of a path. -/
def pathMarks : List Char := [':', '@', '/']

/-! ## Authorities -/

/-- What follows a number below 260 without a leading zero. Three digits are taken only together. -/
def afterOctet? : List Char → Option (List Char)
  | [] => none
  | [a] => if a.isDigit then some [] else none
  | a :: b :: rest =>
      if !a.isDigit then none
      else if !b.isDigit then some (b :: rest)
      else
        match rest with
        | c :: tail =>
            if c.isDigit then
              if a = '1' || (a = '2' && b ≤ '5') then some tail else none
            else if a = '0' then none else some rest
        | [] => if a = '0' then none else some []

/-- What follows four numbers with dots between them. -/
def afterAddress? (cs : List Char) : Option (List Char) :=
  let afterDot? (cs : List Char) : Option (List Char) :=
    match cs with
    | '.' :: rest => afterOctet? rest
    | _ => none
  (((afterOctet? cs).bind afterDot?).bind afterDot?).bind afterDot?

/-- What follows a host: a text in square brackets, four numbers, or a name, which may be empty. -/
def afterHost? (cs : List Char) : Option (List Char) :=
  match cs with
  | '[' :: rest =>
      match rest.dropWhile (· ≠ ']') with
      | [] => none
      | _ :: tail => some tail
  | _ => some ((afterAddress? cs).getD (skipRun [] cs))

/-- The greatest number of a host's door. -/
def greatestNumber : Nat := 2147483647

/-- What follows the number behind a host. -/
def afterNumber? (cs : List Char) : Option (List Char) :=
  let digits := cs.takeWhile Char.isDigit
  let number := digits.foldl (fun n c => n * 10 + (c.toNat - '0'.toNat)) 0
  if digits.isEmpty || greatestNumber < number then none else some (cs.dropWhile Char.isDigit)

/-- What follows an authority: a user and an at sign, if any, a host, and a colon with a number, if
any. -/
def afterAuthority? (cs : List Char) : Option (List Char) :=
  let host :=
    match skipRun [':'] cs with
    | '@' :: rest => rest
    | _ => cs
  match afterHost? host with
  | some (':' :: rest) => afterNumber? rest
  | rest? => rest?

/-! ## References -/

/-- What follows a scheme and its colon. -/
def afterScheme? : List Char → Option (List Char)
  | [] => none
  | c :: rest =>
      let continues (d : Char) : Bool := d.isAlphanum || d = '+' || d = '-' || d = '.'
      match rest.dropWhile continues with
      | ':' :: tail => if c.isAlpha then some tail else none
      | _ => none

/-- What follows segments with a stroke before each. -/
def afterSegments : List Char → List Char
  | '/' :: rest => skipRun pathMarks rest
  | cs => cs

/-- What follows the hierarchy of an absolute reference. -/
def afterHierarchy? : List Char → Option (List Char)
  | '/' :: '/' :: rest => (afterAuthority? rest).map afterSegments
  | cs => some (skipRun pathMarks cs)

/-- What follows the hierarchy of a relative reference. -/
def afterRelativeHierarchy? : List Char → Option (List Char)
  | '/' :: '/' :: rest => (afterAuthority? rest).map afterSegments
  | '/' :: rest => some (skipRun pathMarks rest)
  | cs => some (afterSegments (skipRun ['@'] cs))

/-- A query and a fragment, either of which may be missing, and nothing after them. -/
def isEnd (cs : List Char) : Bool :=
  let afterQuery :=
    match cs with
    | '?' :: rest => skipRun ('?' :: pathMarks) rest
    | _ => cs
  match afterQuery with
  | '#' :: rest => (skipRun ('?' :: '[' :: ']' :: pathMarks) rest).isEmpty
  | _ => afterQuery.isEmpty

/-- The two forms of a reference. -/
inductive Form where
  | absolute
  | relative
deriving DecidableEq

/-- The form of a text, if it is a reference. -/
def form? (text : String) : Option Form :=
  let cs := text.toList
  if (((afterScheme? cs).bind afterHierarchy?).map isEnd).getD false then some .absolute
  else if ((afterRelativeHierarchy? cs).map isEnd).getD false then some .relative
  else none

end SchemaBridge.Xml.Uri
