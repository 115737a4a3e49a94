import SchemaBridge.Xml.Character

/-!
# Content models

An element declaration says what an element may hold: nothing, anything, text among named elements,
or elements in an order that a model describes. Only the form of a declaration counts here. A model
of text is `(#PCDATA)` or a list of names after `#PCDATA` that ends in `)*`; a model of elements is
made of groups in parentheses, in which either commas or bars stand between names and groups, and of
marks directly behind names and groups.
-/

set_option autoImplicit false

namespace SchemaBridge.Xml

/-- A word of a content model. -/
inductive ModelWord where
  | opening
  /-- A closing parenthesis and its mark. -/
  | closing (mark? : Option Char)
  /-- A name and its mark. -/
  | name (mark? : Option Char)
  | separator (c : Char)
  | characters
deriving DecidableEq

namespace ModelWord

/-- A mark at the front. -/
def takeMark : List Char → Option Char × List Char
  | [] => (none, [])
  | c :: rest => if c = '?' || c = '*' || c = '+' then (some c, rest) else (none, c :: rest)

/-- The word at the front. -/
def take? (cs : List Char) : Option (ModelWord × List Char) :=
  match cs with
  | [] => none
  | '(' :: rest => some (.opening, rest)
  | ')' :: rest => some (.closing (takeMark rest).1, (takeMark rest).2)
  | '|' :: rest => some (.separator '|', rest)
  | ',' :: rest => some (.separator ',', rest)
  | '#' :: rest => (takeLiteral? "PCDATA" rest).map fun rest => (.characters, rest)
  | _ => (takeName? cs).map fun (_, rest) => (.name (takeMark rest).1, (takeMark rest).2)

/-- The words of a model with white space around them, at most `limit` of them. -/
def ofModel? (limit : Nat) (cs : List Char) : Option (List ModelWord) :=
  match skipSpace cs, limit with
  | [], _ => some []
  | _, 0 => none
  | cs, limit + 1 => do
      let (word, rest) ← take? cs
      return word :: (← ofModel? limit rest)

end ModelWord

/-- Names with bars before them, and the end of a model of text. -/
def isNamesAfterText : List ModelWord → Bool
  | [.closing (some '*')] => true
  | .separator '|' :: .name none :: rest => isNamesAfterText rest
  | _ => false

/-- A model of text. -/
def isTextModel : List ModelWord → Bool
  | [.opening, .characters, .closing mark?] => mark? = none || mark? = some '*'
  | .opening :: .characters :: .separator '|' :: .name none :: rest => isNamesAfterText rest
  | _ => false

/-- The greatest number of groups that may be open at once. -/
def greatestModelDepth : Nat := 256

/-- The rest of a model of elements. `groups` holds the separators of the open groups, the innermost
first; `wantsItem` tells that a name or a group must come next. -/
def isElementModelFrom (groups : List (Option Char)) (wantsItem : Bool) : List ModelWord → Bool
  | [] => false
  | .opening :: rest =>
      wantsItem && groups.length < greatestModelDepth &&
        isElementModelFrom (none :: groups) true rest
  | .name _ :: rest => wantsItem && isElementModelFrom groups false rest
  | .separator c :: rest =>
      match groups with
      | [] => false
      | separator? :: outer =>
          !wantsItem && (separator? = none || separator? = some c) &&
            isElementModelFrom (some c :: outer) true rest
  | .closing _ :: rest =>
      match groups with
      | [] => false
      | [_] => !wantsItem && rest.isEmpty
      | _ :: outer => !wantsItem && isElementModelFrom outer false rest
  | .characters :: _ => false

/-- A model of elements. -/
def isElementModel : List ModelWord → Bool
  | .opening :: rest => isElementModelFrom [none] true rest
  | _ => false

/-- The text of an element declaration after the name. -/
def isContentModel (model : List Char) : Bool :=
  let text := String.ofList (model.reverse.dropWhile isSpace).reverse
  text = "EMPTY" || text = "ANY" ||
    match ModelWord.ofModel? model.length model with
    | some words => isTextModel words || isElementModel words
    | none => false

end SchemaBridge.Xml
