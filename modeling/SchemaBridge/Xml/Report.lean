/-!
# Reports

A document that breaks the grammar is refused on the spot. Lesser findings are reported and reading
goes on: warnings, and errors, most of them misuse of namespaces. What decides at the end is the
last report. The document passes when there is none or when it is a warning, so an error counts only
while nothing milder follows it. No more than `Reports.most` findings of a kind are reported.
-/

set_option autoImplicit false

namespace SchemaBridge.Xml

/-- How grave a finding is that does not end the reading. -/
inductive Severity where
  | warning
  | error
deriving DecidableEq

/-- The reports so far. -/
structure Reports where
  warnings : Nat := 0
  errors : Nat := 0
  /-- The gravity of the last report. -/
  last? : Option Severity := none

namespace Reports

/-- The number of reports of a kind after which findings of that kind are passed over. -/
def most : Nat := 100

/-- The reports after one more finding. -/
def add (reports : Reports) : Severity → Reports
  | .warning =>
      if reports.warnings < most then
        { reports with warnings := reports.warnings + 1, last? := some .warning }
      else reports
  | .error =>
      if reports.errors < most then
        { reports with errors := reports.errors + 1, last? := some .error }
      else reports

/-- A document with these reports passes. -/
def pass (reports : Reports) : Bool := reports.last? != some .error

end Reports

end SchemaBridge.Xml
