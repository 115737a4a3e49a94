import SchemaBridge.Decimal.Shortest

/-!
# Written form of doubles

`Layout` gathers every decision about the text of a double apart from the choice of its digits:
which exponents are written positionally, how an exponent looks, and how infinity is named.
`Layout.write` applies them to the shortest decimal of the double.
-/

set_option autoImplicit false

namespace SchemaBridge

/-- How doubles are written. -/
structure Layout where
  /-- Scientific exponents from here on are written positionally … -/
  positionalFrom : Int
  /-- … up to but excluding this one. -/
  positionalBelow : Int
  /-- The least number of digits of a written exponent. -/
  exponentDigits : Nat
  /-- The text of positive infinity. -/
  infinity : String

namespace Layout

/-- Numbers from `10⁻⁴` up to `10¹⁶` have a point and at least one digit after it, all others an
exponent of at least two digits; infinity is spelled as in JSON's common extension. -/
def json : Layout := ⟨-4, 16, 2, "Infinity"⟩

/-- Digits padded with zeros on the left. -/
def padded (width : Nat) (digits : List Char) : List Char :=
  List.replicate (width - digits.length) '0' ++ digits

/-- An exponent with its sign always written. -/
def exponent (layout : Layout) (e : Int) : List Char :=
  'e' :: (if e < 0 then '-' else '+') :: padded layout.exponentDigits (Nat.toDigits 10 e.natAbs)

/-- Digits with the decimal point after the first `point` of them, zeros filling the gaps; a whole
number ends in one zero decimal. -/
def positional (digits : List Char) (point : Int) : List Char :=
  if point ≤ 0 then '0' :: '.' :: (List.replicate (-point).toNat '0' ++ digits)
  else if digits.length ≤ point.toNat then
    digits ++ List.replicate (point.toNat - digits.length) '0' ++ ['.', '0']
  else digits.take point.toNat ++ '.' :: digits.drop point.toNat

/-- One digit, the others after a point, and the exponent. -/
def scientific (layout : Layout) (digits : List Char) (e : Int) : List Char :=
  match digits with
  | [] => []
  | [d] => d :: layout.exponent e
  | d :: rest => d :: '.' :: (rest ++ layout.exponent e)

/-- The text of a positive finite magnitude. -/
def magnitude (layout : Layout) (code : Nat) : List Char :=
  let d := Binary64.shortest code
  let digits := Nat.toDigits 10 d.coefficient
  let point := d.exponent + digits.length
  if layout.positionalFrom ≤ point - 1 ∧ point - 1 < layout.positionalBelow then
    positional digits point
  else layout.scientific digits (point - 1)

/-- The text of a double; a zero keeps its sign. -/
def write (layout : Layout) (x : Binary64) : String :=
  let body :=
    if x.code = 0 then "0.0"
    else if x.isFinite then String.ofList (layout.magnitude x.code)
    else layout.infinity
  if x.negative then "-" ++ body else body

/-! ## Fixed values -/

example : json.magnitude (Binary64.ofDecimal false 1 16).code = "1e+16".toList := by decide +kernel
example : json.magnitude (Binary64.ofDecimal false 1 (-5)).code = "1e-05".toList := by
  decide +kernel
example : json.magnitude (Binary64.ofDecimal false 100 0).code = "100.0".toList := by
  decide +kernel
example : json.magnitude (Binary64.ofDecimal false 15 (-1)).code = "1.5".toList := by
  decide +kernel
example : json.magnitude (Binary64.ofDecimal false 125 (-5)).code = "0.00125".toList := by
  decide +kernel
example : json.magnitude (Binary64.ofDecimal false 15 299).code = "1.5e+300".toList := by
  decide +kernel

end Layout

end SchemaBridge
