import SchemaBridge.Xml.Doctype
import SchemaBridge.Xml.Report

/-!
# The course of reading

Reading a document carries along the reports, what the document type declares, the identifiers given
to elements, and how much text references have stood for. A step of the reading either fails, and
the document is refused, or goes on.

References make a document longer than it is written. `countExpansion` keeps the length in check: a
text of more than `Reading.freeExpansion` characters may stand for references only while it is at
most `Reading.greatestGrowth` times as long as the document.
-/

set_option autoImplicit false

namespace SchemaBridge.Xml

/-- What has been found so far. -/
structure Reading where
  reports : Reports := {}
  doctype : Doctype := {}
  /-- The identifiers that elements have. -/
  ids : List String := []
  /-- The length of what references stand for in the text that is being read. -/
  expansion : Nat := 0
  /-- The length of the document. -/
  length : Nat := 0

/-- A step of the reading; `none` refuses the document. -/
abbrev Read (α : Type) : Type := StateT Reading Option α

/-- The length of a text in bytes. -/
def textSize (text : List Char) : Nat := (String.ofList text).utf8ByteSize

namespace Read

/-- Refuse the document. -/
def refuse {α : Type} : Read α := fun _ => none

/-- Refuse the document unless there is a value. -/
def ofOption {α : Type} (value? : Option α) : Read α :=
  match value? with
  | some value => pure value
  | none => refuse

/-- Refuse the document unless a condition holds. -/
def require (holds : Bool) : Read Unit := if holds then pure () else refuse

/-- Report a finding and go on. -/
def report (severity : Severity) : Read Unit :=
  modify fun reading => { reading with reports := reading.reports.add severity }

/-- Report an error unless a condition holds. -/
def expect (holds : Bool) : Read Unit := if holds then pure () else report .error

/-- Change what is known of the document type. -/
def modifyDoctype (change : Doctype → Doctype) : Read Unit :=
  modify fun reading => { reading with doctype := change reading.doctype }

/-- What is known of the document type. -/
def doctype : Read Doctype := return (← get).doctype

/-- A reference to something unknown: tolerated with a warning, or the end. -/
def meetUnknown : Read Unit := do
  if (← doctype).toleratesUnknown then report .warning else refuse

/-- Report the target of a processing instruction where it is not a plain name. Targets that begin
like `xml` are reserved but for two that are in use, and none holds a colon. -/
def reportTarget (target : String) : Read Unit := do
  let begin := String.ofList (target.toList.take 3)
  if begin.toLower = "xml" && target ≠ "xml-stylesheet" && target ≠ "xml-model" then
    report .warning
  expect (!target.contains ':')

end Read

/-! ## The length of what references stand for -/

namespace Reading

/-- The length up to which references may stand for text in any document. -/
def freeExpansion : Nat := 1000000

/-- How many times as long as the document the text of references may be. -/
def greatestGrowth : Nat := 5

/-- What a reference counts beside the text that it stands for. -/
def referenceCost : Nat := 20

end Reading

/-- Count a reference to a text of a length. -/
def Read.countExpansion (size : Nat) : Read Unit := do
  let reading ← get
  let expansion := reading.expansion + size + Reading.referenceCost
  Read.require
    (expansion ≤ Reading.freeExpansion ||
      expansion / Reading.greatestGrowth ≤ reading.length)
  set { reading with expansion }

end SchemaBridge.Xml
