import SchemaBridge.Decimal.Binary64
import SchemaBridge.Text.Digit

/-!
# Numerals

A numeral is an optional sign, digits with an optional point among, before or after them, and an
optional exponent. `Numeral.read?` accepts exactly these texts over a given set of digits and splits
them into their parts; a numeral without point and exponent denotes a whole number, any other a
double.
-/

set_option autoImplicit false

namespace SchemaBridge

/-- The number denoted by a text: whole numbers and doubles are told apart. -/
inductive Number where
  | whole (value : Int)
  | real (value : Binary64)
deriving DecidableEq

/-- The parts of a numeral. Digits are kept by value, most significant first. -/
structure Numeral where
  negative : Bool
  /-- The digits before the point. -/
  before : List Nat
  /-- The digits after the point; `none` when there is no point. -/
  after? : Option (List Nat)
  /-- The exponent; `none` when there is no exponent mark. -/
  exponent? : Option Int

namespace Numeral

/-- The number written by a list of digits. -/
def digitsValue (digits : List Nat) : Nat :=
  digits.foldl (fun n d => 10 * n + d) 0

/-- Cut an optional sign off; the flag tells whether it was a minus. -/
def takeSign : List Char → Bool × List Char
  | '-' :: rest => (true, rest)
  | '+' :: rest => (false, rest)
  | cs => (false, cs)

/-- Cut the digits off the front. -/
def takeDigits (digit? : Char → Option Nat) : List Char → List Nat × List Char
  | [] => ([], [])
  | c :: rest =>
      match digit? c with
      | some d =>
          let (digits, tail) := takeDigits digit? rest
          (d :: digits, tail)
      | none => ([], c :: rest)

/-- A signed whole number. -/
def signed (negative : Bool) (n : Nat) : Int := if negative then -(n : Int) else n

/-- Read what may follow the digits: nothing, or an exponent up to the end. -/
def readExponent? (digit? : Char → Option Nat) : List Char → Option (Option Int)
  | [] => some none
  | mark :: rest =>
      if mark = 'e' ∨ mark = 'E' then
        let (negative, unsigned) := takeSign rest
        match takeDigits digit? unsigned with
        | ([], _) => none
        | (digits, []) => some (some (signed negative (digitsValue digits)))
        | (_, _ :: _) => none
      else none

/-- The parts of a numeral over the digits known to `digit?`, or `none` for any other text. -/
def read? (digit? : Char → Option Nat) (text : List Char) : Option Numeral :=
  let (negative, unsigned) := takeSign text
  match takeDigits digit? unsigned with
  | (before, '.' :: rest) =>
      let (after, tail) := takeDigits digit? rest
      if before = [] ∧ after = [] then none
      else (readExponent? digit? tail).map fun exponent? =>
        ⟨negative, before, some after, exponent?⟩
  | (before, tail) =>
      if before = [] then none
      else (readExponent? digit? tail).map fun exponent? => ⟨negative, before, none, exponent?⟩

/-- A numeral without point and exponent. -/
def isWhole (n : Numeral) : Bool := n.after?.isNone && n.exponent?.isNone

/-- The whole number before the point, with the sign. -/
def toInt (n : Numeral) : Int := signed n.negative (digitsValue n.before)

/-- The double nearest to the numeral. -/
def toBinary64 (n : Numeral) : Binary64 :=
  let after := n.after?.getD []
  Binary64.ofDecimal n.negative (digitsValue (n.before ++ after))
    (n.exponent?.getD 0 - (after.length : Int))

end Numeral

end SchemaBridge
