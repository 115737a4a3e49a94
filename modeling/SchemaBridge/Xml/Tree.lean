import SchemaBridge.Xml.LocalName

/-!
# Element trees

A parsed document: elements with attributes and content. Comments and processing instructions have
left no trace; a reference to an entity in content is kept as such and its text is not part of the
tree.

The local name of an element or attribute is what follows the namespace in the text that shows both
(`localName_clark`). It is the local part itself, except that a namespace with a closing brace in it
is taken to end there, and that a name which kept its prefix, or colons that are not allowed, is cut
after its last colon.
-/

set_option autoImplicit false

namespace SchemaBridge.Xml

/-- A name with the identifier of its namespace, if it is in one. -/
structure Name where
  space? : Option String := none
  localPart : String
deriving DecidableEq, Repr

mutual

/-- An element. Attributes stand in document order; namespace declarations are not among them. -/
structure Element where
  name : Name
  attributes : List (Name × String) := []
  content : List Content := []

/-- A piece of the content of an element. -/
inductive Content where
  | text (text : String)
  | element (element : Element)
  /-- A reference to an entity that is not replaced by its text. -/
  | reference (name : String)

end

namespace Name

/-- The name in one text, the namespace in braces in front. -/
def clark (name : Name) : String :=
  match name.space? with
  | none => name.localPart
  | some space => String.ofList ('\x7b' :: (space.toList ++ '\x7d' :: name.localPart.toList))

/-- The local name: what follows the namespace and the last colon. -/
def localName (name : Name) : String :=
  match name.space? with
  | none => String.ofList (afterLastColon name.localPart.toList)
  | some space =>
      let shown := space.toList ++ '\x7d' :: name.localPart.toList
      String.ofList (afterLastColon ((shown.dropWhile (· ≠ '\x7d')).drop 1))

/-- A text with a closing brace in it does not run out before one. -/
theorem dropWhile_brace_ne_nil (before after : List Char) :
    (before ++ '\x7d' :: after).dropWhile (fun c => decide (c ≠ '\x7d')) ≠ [] := by
  induction before with
  | nil => simp
  | cons c rest ih =>
      by_cases h : c = '\x7d'
      · simp [h]
      · rw [List.cons_append, List.dropWhile_cons_of_pos (by simp [h])]
        exact ih

/-- The local name is that of the shown name. A name in no namespace starts with no brace, as braces
are not characters of names. -/
theorem localName_clark (name : Name)
    (plain : name.space? = none → name.localPart.toList.head? ≠ some '\x7b') :
    Xml.localName name.clark = .ok name.localName := by
  obtain ⟨space?, localPart⟩ := name
  cases space? with
  | none =>
      have hplain := plain rfl
      simp only [clark, localName, Xml.localName]
      split
      · next rest h => simp [h] at hplain
      · rfl
  | some space =>
      simp only [clark, localName, Xml.localName, String.toList_ofList]
      have hne := dropWhile_brace_ne_nil space.toList localPart.toList
      split
      · next h => exact absurd h hne
      · next h => rw [h]; rfl

end Name

end SchemaBridge.Xml
