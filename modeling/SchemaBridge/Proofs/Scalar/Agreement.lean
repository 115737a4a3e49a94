import Mathlib.Data.Nat.Digits.Defs
import SchemaBridge.Proofs.Scalar.Limits
import SchemaBridge.Proofs.Text.Words

/-!
# Facet values and instance values

The bound of a facet and the text that is checked against it are read by two readers. They know
different digits, overlook different characters around a text, and part ways at their limits. On a
trimmed text of ASCII characters with no more digits than are read (`Scalar.IsPlain`) none of this
matters: the digits are the same ones (`Numeral.read?_congr`), nothing is overlooked, and no limit of
whole numbers is reached. What remains is that a facet drops the infinities
(`Scalar.facet_and_instance_agree`).
-/

set_option autoImplicit false

namespace SchemaBridge

namespace Text

/-- Below `128` there are no other digits than the ASCII ones. -/
theorem digitValue?_of_lt {c : Char} (h : c.toNat < 128) : digitValue? c = asciiDigitValue? c := by
  cases hc : asciiDigitValue? c with
  | some n => exact digitValue?_of_ascii hc
  | none =>
      have hzeros : ∀ first ∈ digitZeros, first = 0x30 ∨ 128 ≤ first := by decide
      have hrange : ¬ (0x30 ≤ c.toNat ∧ c.toNat < 0x3a) := by
        intro hrange
        rw [asciiDigitValue?, if_pos hrange] at hc
        cases hc
      rw [digitValue?, List.find?_eq_none.2, Option.map_none]
      intro first hfirst
      simp only [Bool.and_eq_true, decide_eq_true_eq]
      rcases hzeros first hfirst with rfl | hlarge <;> omega

end Text

namespace Numeral

variable {digit? first second : Char → Option Nat} {text digits : List Char} {n : Numeral}

/-! ## Readers that know the same digits -/

theorem takeSign_suffix (text : List Char) : (takeSign text).2 <:+ text := by
  unfold takeSign
  split
  · exact List.suffix_cons ..
  · exact List.suffix_cons ..
  · exact List.suffix_rfl

theorem takeDigits_suffix (digit? : Char → Option Nat) (text : List Char) :
    (takeDigits digit? text).2 <:+ text := by
  induction text with
  | nil => exact List.suffix_rfl
  | cons c rest ih =>
      cases hc : digit? c with
      | none => simp [takeDigits, hc]
      | some d =>
          simp only [takeDigits, hc]
          exact ih.trans (List.suffix_cons ..)

theorem takeDigits_congr (h : ∀ c ∈ text, first c = second c) :
    takeDigits first text = takeDigits second text := by
  induction text with
  | nil => rfl
  | cons c rest ih =>
      have hrest := ih fun d hd => h d (List.mem_cons_of_mem _ hd)
      rw [takeDigits, takeDigits, h c (List.mem_cons_self ..), hrest]

theorem readExponent?_congr (h : ∀ c ∈ text, first c = second c) :
    readExponent? first text = readExponent? second text := by
  cases text with
  | nil => rfl
  | cons mark rest =>
      have hunsigned : ∀ c ∈ (takeSign rest).2, first c = second c := by
        intro c hc
        exact h c (List.mem_cons_of_mem _ ((takeSign_suffix rest).subset hc))
      simp only [readExponent?, takeDigits_congr hunsigned]

/-- A numeral is the same numeral to readers that agree about its characters. -/
theorem read?_congr (h : ∀ c ∈ text, first c = second c) :
    read? first text = read? second text := by
  have hunsigned : ∀ c ∈ (takeSign text).2, first c = second c := by
    intro c hc
    exact h c ((takeSign_suffix text).subset hc)
  have htail : ∀ c ∈ (takeDigits second (takeSign text).2).2, first c = second c := by
    intro c hc
    exact hunsigned c ((takeDigits_suffix second _).subset hc)
  unfold read?
  simp only [takeDigits_congr hunsigned]
  split
  · next before rest htake =>
      rw [htake] at htail
      have hrest : ∀ c ∈ rest, first c = second c := by
        intro c hc
        exact htail c (List.mem_cons_of_mem _ hc)
      have hexponent : ∀ c ∈ (takeDigits second rest).2, first c = second c := by
        intro c hc
        exact hrest c ((takeDigits_suffix second rest).subset hc)
      simp only [takeDigits_congr hrest, readExponent?_congr hexponent]
  · next before tail _ htake =>
      rw [htake] at htail
      simp only [readExponent?_congr htail]

/-! ## The value of a whole number -/

theorem digitsValue_eq_ofDigits (values : List Nat) :
    digitsValue values = Nat.ofDigits 10 values.reverse := by
  rw [Nat.ofDigits_eq_foldr, List.foldr_reverse, digitsValue]
  congr 1
  funext n d
  simp [Nat.add_comm]

theorem filterMap_eq_of_map_eq {values : List Nat} (h : digits.map digit? = values.map some) :
    digits.filterMap digit? = values := by
  induction digits generalizing values with
  | nil =>
      cases values with
      | nil => rfl
      | cons => cases h
  | cons c rest ih =>
      cases values with
      | nil => cases h
      | cons value values =>
          rw [List.map_cons, List.map_cons, List.cons.injEq] at h
          rw [List.filterMap_cons_some h.1, ih h.2]

/-- What a sign, or none, and digits denote. -/
def writtenInt (digit? : Char → Option Nat) (text digits : List Char) : Int :=
  signed (text.head? = some '-') (Nat.ofDigits 10 (digits.filterMap digit?).reverse)

theorem takeSign_fst (text : List Char) : (takeSign text).1 = decide (text.head? = some '-') := by
  unfold takeSign
  split
  · rfl
  · rfl
  · next hminus _ =>
      cases text with
      | nil => rfl
      | cons c rest =>
          have hc : c ≠ '-' := by
            rintro rfl
            exact hminus rest rfl
          simp [hc]

/-- **The whole numbers among the numerals**: a sign or none, digits, and their value. -/
theorem exists_whole_iff (hplus : digit? '+' = none) (hminus : digit? '-' = none) {i : Int} :
    (∃ n, read? digit? text = some n ∧ n.isWhole = true ∧ n.toInt = i) ↔
      ∃ digits, WritesDigits digit? text digits ∧ i = writtenInt digit? text digits := by
  have hvalue : ∀ n, read? digit? text = some n → n.isWhole = true →
      n.toInt = writtenInt digit? text (takeSign text).2 := by
    intro n hread hwhole
    obtain ⟨htake, hne⟩ := takeDigits_of_isWhole hread hwhole
    have hn := Option.some.inj (hread.symm.trans (exists_read?_of_takeDigits htake hne))
    have hvalues := filterMap_eq_of_map_eq (takeDigits_eq_nil_iff.1 htake)
    rw [hn, toInt, writtenInt, digitsValue_eq_ofDigits, hvalues, takeSign_fst]
  -- The number of digits does not matter here, so nothing is asked of it.
  have hwritten := @exists_isWhole_iff digit? text hplus hminus fun _ => True
  constructor
  · rintro ⟨n, hread, hwhole, rfl⟩
    obtain ⟨digits, hwrites, -⟩ := hwritten.1 ⟨n, hread, hwhole, trivial⟩
    refine ⟨digits, hwrites, ?_⟩
    rw [hvalue n hread hwhole, hwrites.takeSign_eq hplus hminus]
  · rintro ⟨digits, hwrites, rfl⟩
    obtain ⟨n, hread, hwhole, -⟩ := hwritten.2 ⟨digits, hwrites, trivial⟩
    refine ⟨n, hread, hwhole, ?_⟩
    rw [hvalue n hread hwhole, hwrites.takeSign_eq hplus hminus]

/-- A whole number has no more digits than its text. -/
theorem length_before_le (h : read? digit? text = some n) (hwhole : n.isWhole = true) :
    n.before.length ≤ text.countP fun c => (digit? c).isSome := by
  have hmap := takeDigits_eq_nil_iff.1 (takeDigits_of_isWhole h hwhole).1
  have hlength : (takeSign text).2.length = n.before.length := by
    simpa using congrArg List.length hmap
  have hdigits : ∀ c ∈ (takeSign text).2, (digit? c).isSome = true := by
    intro c hc
    have hmem : digit? c ∈ n.before.map some := hmap ▸ List.mem_map_of_mem hc
    obtain ⟨value, -, hvalue⟩ := List.mem_map.1 hmem
    rw [← hvalue]
    rfl
  calc n.before.length = (takeSign text).2.countP fun c => (digit? c).isSome := by
        rw [List.countP_eq_length.2 hdigits, hlength]
    _ ≤ text.countP fun c => (digit? c).isSome :=
        (takeSign_suffix text).sublist.countP_le

end Numeral

/-- A whole number, or a double that is no infinity. -/
def Number.isFinite : Number → Bool
  | .whole _ => true
  | .real value => value.isFinite

/-- No facet has an infinite value. -/
theorem isFinite_of_facetNumber? {text : String} {number : Number}
    (h : facetNumber? text = some number) : number.isFinite = true := by
  obtain ⟨n, -, hn⟩ := Option.bind_eq_some_iff.1 h
  split at hn
  · cases hn
    rfl
  · split at hn
    · next hfinite =>
        cases hn
        exact hfinite
    · cases hn

namespace Scalar

variable {text : String}

/-- A text of ASCII characters without blanks at its ends and with no more digits than are read. -/
structure IsPlain (text : String) : Prop where
  ascii : ∀ c ∈ text.toList, c.toNat < 128
  starts : Text.StartsPlain text.toList
  ends : Text.StartsPlain text.toList.reverse
  short : (text.toList.countP fun c => (Text.asciiDigitValue? c).isSome) ≤ longestWhole

theorem IsPlain.strip_eq (h : IsPlain text) : Text.strip text.toList = text.toList :=
  Text.strip_eq_iff.2 ⟨⟨[], [], nofun, nofun, by simp⟩, h.starts, h.ends⟩

/-- A line feed is a blank, so none stands at the end. -/
theorem IsPlain.withoutFinalNewline_eq (h : IsPlain text) :
    withoutFinalNewline text.toList = text.toList := by
  rw [withoutFinalNewline, if_neg]
  intro hlast
  have hplain := h.ends '\n' (by rw [List.head?_reverse, hlast])
  exact absurd hplain (by decide)

theorem IsPlain.read?_eq (h : IsPlain text) :
    Numeral.read? Text.digitValue? (withoutFinalNewline text.toList) =
      Numeral.read? Text.asciiDigitValue? text.toList := by
  rw [h.withoutFinalNewline_eq]
  exact Numeral.read?_congr fun c hc => Text.digitValue?_of_lt (h.ascii c hc)

/-- A whole number in a plain text is within the limit. -/
theorem IsPlain.length_before_le (h : IsPlain text) {n : Numeral}
    (hread : Numeral.read? Text.asciiDigitValue? text.toList = some n) (hwhole : n.isWhole = true) :
    n.before.length ≤ longestWhole :=
  (Numeral.length_before_le hread hwhole).trans h.short

/-- The number that a numeral of a plain text denotes. -/
def plainNumber (n : Numeral) : Number :=
  if n.isWhole then .whole n.toInt else .real n.toBinary64

/-- As an instance value, a plain text is the number of its numeral. -/
theorem IsPlain.ofText_eq (h : IsPlain text) {n : Numeral}
    (hread : Numeral.read? Text.asciiDigitValue? text.toList = some n) :
    ofText text = .ok (.number (plainNumber n)) := by
  rw [ofText_of_read?_some (h.read?_eq.trans hread), ofNumeral, plainNumber]
  cases hwhole : n.isWhole with
  | true =>
      have hshort := h.length_before_le hread hwhole
      simp [Nat.not_lt.2 hshort, Except.map]
  | false => rfl

/-- As a facet value, it is the same number unless that is an infinity. -/
theorem IsPlain.facetNumber?_eq (h : IsPlain text) {n : Numeral}
    (hread : Numeral.read? Text.asciiDigitValue? text.toList = some n) :
    facetNumber? text = if (plainNumber n).isFinite then some (plainNumber n) else none := by
  rw [facetNumber?, h.strip_eq, hread, plainNumber]
  cases hwhole : n.isWhole with
  | true =>
      have hshort := h.length_before_le hread hwhole
      simp [hwhole, hshort, Number.isFinite]
  | false => simp [hwhole, Number.isFinite]

theorem IsPlain.facetNumber?_eq_none (h : IsPlain text)
    (hread : Numeral.read? Text.asciiDigitValue? text.toList = none) : facetNumber? text = none := by
  rw [facetNumber?, h.strip_eq, hread]
  rfl

/-- The two readers give a plain text the same number, as long as it is finite. -/
theorem IsPlain.facetNumber?_eq_some_iff (h : IsPlain text) {number : Number} :
    facetNumber? text = some number ↔
      ofText text = .ok (.number number) ∧ number.isFinite = true := by
  cases hread : Numeral.read? Text.asciiDigitValue? text.toList with
  | none =>
      obtain ⟨scalar, hscalar, hno⟩ := exists_ofText_of_read?_none (h.read?_eq.trans hread)
      rw [h.facetNumber?_eq_none hread, hscalar, Except.ok.injEq]
      simp [hno]
  | some n =>
      rw [h.ofText_eq hread, h.facetNumber?_eq hread, Except.ok.injEq, Scalar.number.injEq,
        Option.ite_none_right_eq_some, Option.some.injEq]
      constructor
      · rintro ⟨hfinite, rfl⟩
        exact ⟨rfl, hfinite⟩
      · rintro ⟨rfl, hfinite⟩
        exact ⟨hfinite, rfl⟩

/-- The whole numbers among the facet values. -/
theorem IsPlain.facetNumber?_eq_whole_iff (h : IsPlain text) {i : Int} :
    facetNumber? text = some (.whole i) ↔
      ∃ digits, Numeral.WritesDigits Text.asciiDigitValue? text.toList digits ∧
        i = Numeral.writtenInt Text.asciiDigitValue? text.toList digits := by
  rw [← Numeral.exists_whole_iff (by decide) (by decide)]
  cases hread : Numeral.read? Text.asciiDigitValue? text.toList with
  | none => simp [h.facetNumber?_eq_none hread]
  | some n =>
      rw [h.facetNumber?_eq hread, plainNumber]
      cases hwhole : n.isWhole with
      | true => simp [hwhole, Number.isFinite]
      | false => simp [hwhole]

/-- **Facet numbers and instance numbers are read alike.** On a plain text reading an instance value
always succeeds, and a facet has a number exactly when the instance value is that number and it is
finite. A facet has a whole number exactly when the text is a sign, or none, and digits, and then it
is their value; and no double of a facet is an infinity. -/
theorem facet_and_instance_agree (h : IsPlain text) :
    (∃ scalar, ofText text = .ok scalar) ∧
      (∀ number, facetNumber? text = some number ↔
        ofText text = .ok (.number number) ∧ number.isFinite = true) ∧
      (∀ i, facetNumber? text = some (.whole i) ↔
        ∃ digits, Numeral.WritesDigits Text.asciiDigitValue? text.toList digits ∧
          i = Numeral.writtenInt Text.asciiDigitValue? text.toList digits) ∧
      ∀ double, facetNumber? text = some (.real double) → double.isFinite = true := by
  refine ⟨?_, fun _ => h.facetNumber?_eq_some_iff, fun _ => h.facetNumber?_eq_whole_iff, ?_⟩
  · cases hread : Numeral.read? Text.asciiDigitValue? text.toList with
    | none =>
        obtain ⟨scalar, hscalar, -⟩ := exists_ofText_of_read?_none (h.read?_eq.trans hread)
        exact ⟨scalar, hscalar⟩
    | some n => exact ⟨_, h.ofText_eq hread⟩
  · intro double hdouble
    exact isFinite_of_facetNumber? hdouble

/-- A sign and digits with a leading zero are the same whole number to both readers. -/
theorem facet_and_instance_agree_signed :
    IsPlain "-042" ∧ facetNumber? "-042" = some (.whole (-42)) ∧
      ofText "-042" = .ok (.number (.whole (-42))) := by
  have hascii : ("-042".toList.all fun c => c.toNat < 128) = true := rfl
  have hdigits : (['0', '4', '2'].all fun c => (Text.asciiDigitValue? c).isSome) = true := rfl
  have hplain : IsPlain "-042" := by
    refine ⟨?_, ?_, ?_, by decide⟩
    · intro c hc
      exact of_decide_eq_true (List.all_eq_true.1 hascii c hc)
    · rintro c ⟨⟩
      decide
    · rintro c ⟨⟩
      decide
  obtain ⟨-, hsame, hwhole, -⟩ := facet_and_instance_agree hplain
  have hfacet : facetNumber? "-042" = some (.whole (-42)) := by
    refine (hwhole (-42)).2 ⟨['0', '4', '2'], ⟨Or.inr (Or.inr rfl), by decide, ?_⟩, by decide⟩
    exact List.all_eq_true.1 hdigits
  exact ⟨hplain, hfacet, ((hsame _).1 hfacet).1⟩

end Scalar

end SchemaBridge
