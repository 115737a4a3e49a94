import SchemaBridge.Proofs.Decimal.Overflow
import SchemaBridge.Scalar.Reading

/-!
# Texts beyond the limits of numbers

The text of an instance document is read as a scalar in all cases but one: a sign, or none, and more
digits than `longestWhole` have no value (`Scalar.ofText_eq_error_iff`). A numeral with a point or
an exponent always has one, but from `Binary64.overflowThreshold` on it is an infinity
(`Scalar.exists_infinite_iff`).
-/

set_option autoImplicit false

namespace SchemaBridge

namespace Numeral

variable {digit? : Char → Option Nat} {text digits : List Char} {n : Numeral}

/-! ## Whole numbers -/

/-- A text is a whole number with the given digits: a sign or none, the digits, and nothing else. -/
structure WritesDigits (digit? : Char → Option Nat) (text digits : List Char) : Prop where
  signed : text = digits ∨ text = '+' :: digits ∨ text = '-' :: digits
  ne_nil : digits ≠ []
  isDigit : ∀ c ∈ digits, (digit? c).isSome

/-- Nothing but digits: a value for each of them, and no tail. -/
theorem takeDigits_eq_nil_iff {values : List Nat} :
    takeDigits digit? digits = (values, []) ↔ digits.map digit? = values.map some := by
  induction digits generalizing values with
  | nil => cases values <;> simp [takeDigits]
  | cons c rest ih =>
      cases hc : digit? c with
      | none => cases values <;> simp [takeDigits, hc]
      | some d =>
          cases values with
          | nil => simp [takeDigits, hc]
          | cons value values =>
              rw [List.map_cons, List.map_cons, hc, List.cons.injEq, Option.some.injEq, ← ih]
              simp [takeDigits, hc, Prod.ext_iff, and_assoc]

theorem signed_takeSign (text : List Char) :
    text = (takeSign text).2 ∨ text = '+' :: (takeSign text).2 ∨
      text = '-' :: (takeSign text).2 := by
  unfold takeSign
  split
  · exact Or.inr (Or.inr rfl)
  · exact Or.inr (Or.inl rfl)
  · exact Or.inl rfl

/-- A sign is no digit, so what follows it is what is left of the text. -/
theorem WritesDigits.takeSign_eq (hplus : digit? '+' = none) (hminus : digit? '-' = none)
    (h : WritesDigits digit? text digits) : (takeSign text).2 = digits := by
  rcases h.signed with rfl | rfl | rfl
  · unfold takeSign
    split
    · exact absurd (h.isDigit '-' (List.mem_cons_self ..)) (by simp [hminus])
    · exact absurd (h.isDigit '+' (List.mem_cons_self ..)) (by simp [hplus])
    · rfl
  · rfl
  · rfl

/-- A mark that is read at all is followed by an exponent. -/
theorem eq_nil_of_readExponent? {tail : List Char} (h : readExponent? digit? tail = some none) :
    tail = [] := by
  cases tail with
  | nil => rfl
  | cons mark rest =>
      simp only [readExponent?] at h
      split at h
      · split at h <;> cases h
      · cases h

/-- A whole number has no tail behind its digits. -/
theorem takeDigits_of_isWhole (h : read? digit? text = some n) (hwhole : n.isWhole = true) :
    takeDigits digit? (takeSign text).2 = (n.before, []) ∧ n.before ≠ [] := by
  unfold read? at h
  simp only at h
  split at h
  · split at h
    · cases h
    · obtain ⟨exponent?, -, rfl⟩ := Option.map_eq_some_iff.1 h
      cases hwhole
  · next before tail _ htake =>
      split at h
      · cases h
      · next hbefore =>
          obtain ⟨exponent?, hexponent, rfl⟩ := Option.map_eq_some_iff.1 h
          cases exponent? with
          | some exponent => cases hwhole
          | none =>
              obtain rfl := eq_nil_of_readExponent? hexponent
              exact ⟨htake, hbefore⟩

theorem exists_read?_of_takeDigits {values : List Nat}
    (h : takeDigits digit? (takeSign text).2 = (values, [])) (hvalues : values ≠ []) :
    read? digit? text = some ⟨(takeSign text).1, values, none, none⟩ := by
  unfold read?
  simp only [h, if_neg hvalues]
  rfl

theorem exists_values_of_isDigit (h : ∀ c ∈ digits, (digit? c).isSome) :
    ∃ values : List Nat, digits.map digit? = values.map some := by
  induction digits with
  | nil => exact ⟨[], rfl⟩
  | cons c rest ih =>
      obtain ⟨value, hvalue⟩ := Option.isSome_iff_exists.1 (h c (List.mem_cons_self ..))
      obtain ⟨values, hvalues⟩ := ih fun d hd => h d (List.mem_cons_of_mem _ hd)
      exact ⟨value :: values, by rw [List.map_cons, List.map_cons, hvalue, hvalues]⟩

/-- **A whole number is a sign, or none, and digits**, and its digits are counted as they stand. -/
theorem exists_isWhole_iff (hplus : digit? '+' = none) (hminus : digit? '-' = none)
    {holds : Nat → Prop} :
    (∃ n, read? digit? text = some n ∧ n.isWhole = true ∧ holds n.before.length) ↔
      ∃ digits, WritesDigits digit? text digits ∧ holds digits.length := by
  constructor
  · rintro ⟨n, hread, hwhole, hholds⟩
    obtain ⟨htake, hne⟩ := takeDigits_of_isWhole hread hwhole
    have hmap := takeDigits_eq_nil_iff.1 htake
    have hlength : (takeSign text).2.length = n.before.length := by
      simpa using congrArg List.length hmap
    refine ⟨(takeSign text).2, ⟨signed_takeSign text, ?_, ?_⟩, hlength ▸ hholds⟩
    · intro hnil
      rw [hnil] at hlength
      exact hne (List.eq_nil_of_length_eq_zero hlength.symm)
    · intro c hc
      have hmem : digit? c ∈ n.before.map some := hmap ▸ List.mem_map_of_mem hc
      obtain ⟨value, -, hvalue⟩ := List.mem_map.1 hmem
      rw [← hvalue]
      rfl
  · rintro ⟨digits, hwrites, hholds⟩
    obtain ⟨values, hmap⟩ := exists_values_of_isDigit hwrites.isDigit
    have hlength : digits.length = values.length := by simpa using congrArg List.length hmap
    have hne : values ≠ [] := by
      intro hnil
      rw [hnil] at hlength
      exact hwrites.ne_nil (List.eq_nil_of_length_eq_zero hlength)
    have htake : takeDigits digit? (takeSign text).2 = (values, []) := by
      rw [hwrites.takeSign_eq hplus hminus]
      exact takeDigits_eq_nil_iff.2 hmap
    exact ⟨_, exists_read?_of_takeDigits htake hne, rfl, hlength ▸ hholds⟩

/-! ## Magnitudes -/

/-- What a numeral denotes, without its sign. -/
def magnitude (n : Numeral) : ℚ :=
  digitsValue (n.before ++ n.after?.getD []) *
    10 ^ (n.exponent?.getD 0 - ((n.after?.getD []).length : Int))

theorem isFinite_toBinary64_iff :
    n.toBinary64.isFinite = true ↔ n.magnitude < Binary64.overflowThreshold :=
  Binary64.isFinite_ofDecimal_iff

end Numeral

namespace Scalar

variable {text : String}

/-! ## Reading a text -/

/-- A whole number with more digits than are read. One line feed at the end is overlooked. -/
def IsOverlong (text : String) : Prop :=
  ∃ digits, Numeral.WritesDigits Text.digitValue? (withoutFinalNewline text.toList) digits ∧
    longestWhole < digits.length

/-- A numeral with a point or an exponent that is too large for a double. -/
def IsInfinite (text : String) : Prop :=
  ∃ n, Numeral.read? Text.digitValue? (withoutFinalNewline text.toList) = some n ∧
    n.isWhole = false ∧ Binary64.overflowThreshold ≤ n.magnitude

theorem isOverlong_iff :
    IsOverlong text ↔
      ∃ n, Numeral.read? Text.digitValue? (withoutFinalNewline text.toList) = some n ∧
        n.isWhole = true ∧ longestWhole < n.before.length :=
  (Numeral.exists_isWhole_iff (by decide) (by decide)).symm

theorem ofNumeral_eq_error_iff {n : Numeral} {failure : Failure} :
    ofNumeral n = .error failure ↔
      failure = .integerTooLong ∧ n.isWhole = true ∧ longestWhole < n.before.length := by
  unfold ofNumeral
  split
  · next hwhole =>
      split
      · next hlong => simp [hwhole, hlong, eq_comm]
      · next hshort => simp [hshort]
  · next hreal => simp [hreal]

theorem ofNumeral_eq_real_iff {n : Numeral} {d : Binary64} :
    ofNumeral n = .ok (.real d) ↔ n.isWhole = false ∧ n.toBinary64 = d := by
  unfold ofNumeral
  split
  · next hwhole => split <;> simp [hwhole]
  · next hreal => simp [hreal]

/-- The texts of truth values are no numerals. -/
theorem read?_true :
    Numeral.read? Text.digitValue? (withoutFinalNewline "true".toList) = none := by decide

theorem read?_false :
    Numeral.read? Text.digitValue? (withoutFinalNewline "false".toList) = none := by decide

/-- What a text is read as when it is a numeral, and when it is none. -/
theorem ofText_of_read?_some {n : Numeral}
    (h : Numeral.read? Text.digitValue? (withoutFinalNewline text.toList) = some n) :
    ofText text = (ofNumeral n).map .number := by
  have htrue : text ≠ "true" := by
    rintro rfl
    rw [read?_true] at h
    cases h
  have hfalse : text ≠ "false" := by
    rintro rfl
    rw [read?_false] at h
    cases h
  rw [ofText, if_neg htrue, if_neg hfalse, h]

theorem exists_ofText_of_read?_none
    (h : Numeral.read? Text.digitValue? (withoutFinalNewline text.toList) = none) :
    ∃ scalar, ofText text = .ok scalar ∧ ∀ number, scalar ≠ .number number := by
  unfold ofText
  split
  · exact ⟨_, rfl, fun _ => nofun⟩
  · split
    · exact ⟨_, rfl, fun _ => nofun⟩
    · rw [h]
      exact ⟨_, rfl, fun _ => nofun⟩

/-- **The only texts without a value** are the whole numbers with too many digits. -/
theorem ofText_eq_error_iff {failure : Failure} :
    ofText text = .error failure ↔ failure = .integerTooLong ∧ IsOverlong text := by
  rw [isOverlong_iff]
  cases hread : Numeral.read? Text.digitValue? (withoutFinalNewline text.toList) with
  | none =>
      obtain ⟨scalar, hscalar, -⟩ := exists_ofText_of_read?_none hread
      simp [hscalar]
  | some n =>
      have herror : ofText text = .error failure ↔ ofNumeral n = .error failure := by
        rw [ofText_of_read?_some hread]
        cases ofNumeral n <;> simp [Except.map]
      rw [herror, ofNumeral_eq_error_iff]
      simp

theorem not_isOverlong_of_ofText {scalar : Scalar} (h : ofText text = .ok scalar) :
    ¬ IsOverlong text := by
  intro hlong
  have herror := ofText_eq_error_iff.2 ⟨rfl, hlong⟩
  rw [h] at herror
  cases herror

/-- **The only texts that are read as infinities** are the numerals with a point or an exponent that
are too large. -/
theorem exists_infinite_iff :
    (∃ d, ofText text = .ok (.number (.real d)) ∧ d.isFinite = false) ↔ IsInfinite text := by
  cases hread : Numeral.read? Text.digitValue? (withoutFinalNewline text.toList) with
  | none =>
      obtain ⟨scalar, hscalar, hno⟩ := exists_ofText_of_read?_none hread
      constructor
      · rintro ⟨d, hd, -⟩
        rw [hscalar, Except.ok.injEq] at hd
        exact absurd hd (hno _)
      · rintro ⟨n, hn, -⟩
        rw [hread] at hn
        cases hn
  | some n =>
      have hreal : ∀ d, ofText text = .ok (.number (.real d)) ↔ ofNumeral n = .ok (.real d) := by
        intro d
        rw [ofText_of_read?_some hread]
        cases ofNumeral n <;> simp [Except.map]
      have hfinite := Numeral.isFinite_toBinary64_iff (n := n)
      simp only [hreal, ofNumeral_eq_real_iff, IsInfinite, hread, Option.some.injEq]
      constructor
      · rintro ⟨d, ⟨hwhole, rfl⟩, hinfinite⟩
        refine ⟨n, rfl, hwhole, not_lt.1 ?_⟩
        rw [← hfinite, hinfinite]
        exact Bool.false_ne_true
      · rintro ⟨_, rfl, hwhole, hlarge⟩
        refine ⟨_, ⟨hwhole, rfl⟩, ?_⟩
        rw [← Bool.not_eq_true, hfinite]
        exact not_lt.2 hlarge

theorem not_isInfinite_of_ofText {scalar : Scalar} (h : ofText text = .ok scalar)
    (hfinite : ∀ d, scalar = .number (.real d) → d.isFinite = true) : ¬ IsInfinite text := by
  intro hinfinite
  obtain ⟨d, hd, hno⟩ := exists_infinite_iff.2 hinfinite
  rw [h, Except.ok.injEq] at hd
  rw [hfinite d hd] at hno
  cases hno

end Scalar

end SchemaBridge
