import SchemaBridge.Xml.QualifiedName
import SchemaBridge.Xml.Report
import SchemaBridge.Xml.Tree
import SchemaBridge.Xml.Uri

/-!
# Namespaces

Namespace declarations are attributes that bind a prefix, or unprefixed element names, to an
identifier. Identifiers should be references to resources, and absolute ones where they are for
unprefixed names. The prefixes `xml` and `xmlns` and their identifiers are reserved; a declaration
that misuses them, or that gives a prefix no identifier, is reported and binds nothing. A name whose
prefix is bound to nothing is in no namespace and keeps its prefix.
-/

set_option autoImplicit false

namespace SchemaBridge.Xml

/-- The identifier that `xml` stands for. -/
def xmlSpace : String := "http://www.w3.org/XML/1998/namespace"

/-- The identifier that `xmlns` stands for. -/
def declarationSpace : String := "http://www.w3.org/2000/xmlns/"

/-! ## Declarations -/

/-- The prefix that an attribute declares, if it is a namespace declaration; the empty prefix stands
for unprefixed element names. -/
def QualifiedName.declaredPrefix? (name : QualifiedName) : Option String :=
  match name.nsPrefix? with
  | none => if name.localPart = "xmlns" then some "" else none
  | some nsPrefix => if nsPrefix = "xmlns" then some name.localPart else none

/-- What a declaration amounts to: the findings, and whether it binds its prefix. -/
structure DeclarationVerdict where
  findings : List Severity := []
  binds : Bool := true

/-- The verdict on a declaration of unprefixed names. -/
def defaultVerdict (uri : String) : DeclarationVerdict :=
  if uri = "" then {}
  else
    let findings : List Severity :=
      match Uri.form? uri with
      | some .absolute => []
      | some .relative => [.warning]
      | none => [.error]
    if uri = xmlSpace || uri = declarationSpace then ⟨findings ++ [.error], false⟩
    else ⟨findings, true⟩

/-- The verdict on a declaration of a prefix. The prefix `xml` may be declared as what it is. -/
def prefixVerdict (nsPrefix uri : String) : DeclarationVerdict :=
  if nsPrefix = "xml" then ⟨if uri = xmlSpace then [] else [.error], false⟩
  else if nsPrefix = "xmlns" || uri = xmlSpace || uri = declarationSpace || uri = "" then
    ⟨[.error], false⟩
  else ⟨if (Uri.form? uri).isNone then [.error] else [], true⟩

/-- The verdict on a declaration. -/
def declarationVerdict (nsPrefix uri : String) : DeclarationVerdict :=
  if nsPrefix = "" then defaultVerdict uri else prefixVerdict nsPrefix uri

/-! ## Bindings -/

/-- The identifiers of prefixes, innermost first; an empty identifier stands for no namespace. -/
abbrev Bindings : Type := List (String × String)

namespace Bindings

/-- The bindings outside every element. -/
def root : Bindings := [("xml", xmlSpace)]

/-- The identifier of a prefix. -/
def space? (bindings : Bindings) (nsPrefix : String) : Option String :=
  (bindings.find? (·.1 = nsPrefix)).map Prod.snd

/-- The prefix of a name, if it has one, is bound. -/
def knows (bindings : Bindings) (name : QualifiedName) : Bool :=
  match name.nsPrefix? with
  | none => true
  | some nsPrefix => (bindings.space? nsPrefix).isSome

/-- The name of an attribute; without a prefix it is in no namespace. -/
def attributeName (bindings : Bindings) (name : QualifiedName) : Name :=
  match name.nsPrefix?.bind bindings.space? with
  | some uri => ⟨some uri, name.localPart⟩
  | none => ⟨none, name.written⟩

/-- The name of an element, if its prefix is bound to a namespace. -/
def elementName? (bindings : Bindings) (name : QualifiedName) : Option Name :=
  match name.nsPrefix? with
  | none => some ⟨(bindings.space? "").filter (· ≠ ""), name.localPart⟩
  | some nsPrefix =>
      ((bindings.space? nsPrefix).filter (· ≠ "")).map fun uri => ⟨some uri, name.localPart⟩

end Bindings

end SchemaBridge.Xml
