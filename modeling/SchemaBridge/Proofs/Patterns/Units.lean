import SchemaBridge.Pattern

/-!
# Patterns in units

A pattern is cut from left to right into units: a backslash with the character after it, or one
character (`units`). A backslash at the very end is a unit of one character. Escaping anchors keeps
the cut: it works on each unit alone (`escapeAnchors_eq_spell`), and cutting what it writes gives the
units that it wrote (`units_escapeAnchors`). So nothing is left to escape
(`escapedPattern_unit_by_unit`).

Nobody has to cut a pattern in order to escape it. One pass over the characters does, with one bit
that says whether a backslash is waiting for its character (`scanAnchors`).
-/

set_option autoImplicit false

namespace SchemaBridge

/-- A unit of a pattern. -/
inductive PatternUnit where
  /-- One character. -/
  | single (c : Char)
  /-- A backslash with the character after it. -/
  | escaped (c : Char)
deriving DecidableEq

namespace PatternUnit

/-- The characters of a unit. -/
def chars : PatternUnit → List Char
  | single c => [c]
  | escaped c => ['\\', c]

/-- The character of a unit without its backslash. -/
def char : PatternUnit → Char
  | single c => c
  | escaped c => c

/-- The anchors of one character become escapes, all other units stay. -/
def escapeAnchor : PatternUnit → PatternUnit
  | single c => if c = '^' ∨ c = '$' then escaped c else single c
  | escaped c => escaped c

/-- A unit that is left is one that was there, and no anchor. -/
theorem escapeAnchor_eq_single_iff {u : PatternUnit} {c : Char} :
    u.escapeAnchor = single c ↔ u = single c ∧ c ≠ '^' ∧ c ≠ '$' := by
  cases u with
  | escaped d => simp [escapeAnchor]
  | single d =>
      by_cases h : d = '^' ∨ d = '$'
      · simp only [escapeAnchor, if_pos h, reduceCtorEq, single.injEq, false_iff]
        rintro ⟨rfl, hcaret, hdollar⟩
        exact h.elim hcaret hdollar
      · simp only [escapeAnchor, if_neg h, single.injEq]
        constructor
        · rintro rfl
          exact ⟨rfl, fun heq => h (Or.inl heq), fun heq => h (Or.inr heq)⟩
        · exact fun heq => heq.1

end PatternUnit

/-- Cut a pattern into units. -/
def units : List Char → List PatternUnit
  | [] => []
  | '\\' :: c :: rest => .escaped c :: units rest
  | c :: rest => .single c :: units rest

/-- The pattern that consists of units. -/
def spell (us : List PatternUnit) : List Char := us.flatMap PatternUnit.chars

/-- A pattern is its units, one after another. -/
theorem spell_units (text : List Char) : spell (units text) = text := by
  fun_induction units text with
  | case1 => rfl
  | case2 c rest ih => exact congrArg (fun tail => '\\' :: c :: tail) ih
  | case3 c rest _ ih => exact congrArg (fun tail => c :: tail) ih

theorem units_single_cons {c : Char} (h : c ≠ '\\') (rest : List Char) :
    units (c :: rest) = .single c :: units rest := by
  rw [units]
  intro d tail hc
  exact absurd hc h

/-- **Escaping keeps the cut**, although it makes the pattern longer. -/
theorem units_escapeAnchors (text : List Char) :
    units (escapeAnchors text) = (units text).map PatternUnit.escapeAnchor := by
  -- Both functions look at a text in the same three ways.
  fun_induction units text with
  | case1 => rfl
  | case2 c rest ih =>
      rw [escapeAnchors, units, ih]
      rfl
  | case3 c rest hunescaped ih =>
      rw [escapeAnchors, List.map_cons, ← ih]
      · by_cases hanchor : c = '^' ∨ c = '$'
        · rw [if_pos hanchor, units, PatternUnit.escapeAnchor, if_pos hanchor]
        · rw [if_neg hanchor, PatternUnit.escapeAnchor, if_neg hanchor]
          by_cases hbackslash : c = '\\'
          · -- A backslash is a unit of its own only at the end, where nothing follows to join it.
            cases rest with
            | nil =>
                subst hbackslash
                rfl
            | cons d tail => exact absurd rfl (hunescaped d tail hbackslash)
          · exact units_single_cons hbackslash _
      · exact hunescaped

/-- **Escaping anchors is escaping them unit by unit.** -/
theorem escapeAnchors_eq_spell (text : List Char) :
    escapeAnchors text = spell ((units text).map PatternUnit.escapeAnchor) := by
  rw [← units_escapeAnchors, spell_units]

/-- Cutting undoes spelling, whatever follows, as long as no backslash stands alone. -/
theorem units_spell_append {us : List PatternUnit} (h : .single '\\' ∉ us) (rest : List Char) :
    units (spell us ++ rest) = us ++ units rest := by
  induction us with
  | nil => rfl
  | cons u us ih =>
      have hrest := ih fun hmem => h (List.mem_cons_of_mem _ hmem)
      cases u with
      | escaped c => rw [List.cons_append, ← hrest]; rfl
      | single c =>
          have hc : c ≠ '\\' := by
            rintro rfl
            exact h (List.mem_cons_self ..)
          rw [List.cons_append, ← hrest]
          exact units_single_cons hc _

theorem units_spell {us : List PatternUnit} (h : .single '\\' ∉ us) : units (spell us) = us := by
  have happend := units_spell_append h []
  rwa [List.append_nil, units, List.append_nil] at happend

theorem PatternUnit.escapeAnchor_idem (u : PatternUnit) :
    u.escapeAnchor.escapeAnchor = u.escapeAnchor := by
  cases u with
  | escaped c => rfl
  | single c =>
      by_cases h : c = '^' ∨ c = '$'
      · simp only [escapeAnchor, if_pos h]
      · simp only [escapeAnchor, if_neg h]

/-! ## One pass -/

/-- Escape anchors character by character. The bit says that the character before is a backslash
which is not itself escaped. -/
def scanAnchors : Bool → List Char → List Char
  | _, [] => []
  | true, c :: rest => c :: scanAnchors false rest
  | false, c :: rest =>
      if c = '\\' then c :: scanAnchors true rest
      else if c = '^' ∨ c = '$' then '\\' :: c :: scanAnchors false rest
      else c :: scanAnchors false rest

/-- Between two units no backslash is waiting, so the pass escapes unit by unit. -/
theorem scanAnchors_eq (text : List Char) : scanAnchors false text = escapeAnchors text := by
  fun_induction escapeAnchors text with
  | case1 => rfl
  | case2 c rest ih =>
      rw [scanAnchors, if_pos rfl, scanAnchors, ih]
  | case3 c rest hunescaped hanchor ih =>
      have hbackslash : c ≠ '\\' := by
        rintro rfl
        exact absurd hanchor (by decide)
      rw [scanAnchors, if_neg hbackslash, if_pos hanchor, ih]
  | case4 c rest hunescaped hanchor ih =>
      by_cases hbackslash : c = '\\'
      · cases rest with
        | nil =>
            subst hbackslash
            rfl
        | cons d tail => exact absurd rfl (hunescaped d tail hbackslash)
      · rw [scanAnchors, if_neg hbackslash, if_neg hanchor, ih]

/-- **Escaping anchors is exact and stable.** The units of a pattern make up the pattern. What is
written in one pass consists of the same units, except that an anchor of one character has become its
escape. Cutting it again gives these units, so no anchor of one character is left, and escaping it
again changes nothing. -/
theorem escapedPattern_unit_by_unit (pattern : String) :
    spell (units pattern.toList) = pattern.toList ∧
    (escapedPattern pattern).toList = scanAnchors false pattern.toList ∧
    (escapedPattern pattern).toList =
      spell ((units pattern.toList).map PatternUnit.escapeAnchor) ∧
    units (escapedPattern pattern).toList =
      (units pattern.toList).map PatternUnit.escapeAnchor ∧
    (∀ c, .single c ∈ units (escapedPattern pattern).toList → c ≠ '^' ∧ c ≠ '$') ∧
    escapedPattern (escapedPattern pattern) = escapedPattern pattern := by
  have htext : (escapedPattern pattern).toList = escapeAnchors pattern.toList :=
    String.toList_ofList
  have hunits : units (escapedPattern pattern).toList =
      (units pattern.toList).map PatternUnit.escapeAnchor := by
    rw [htext, units_escapeAnchors]
  have hspell : (escapedPattern pattern).toList =
      spell ((units pattern.toList).map PatternUnit.escapeAnchor) := by
    rw [htext, escapeAnchors_eq_spell]
  refine ⟨spell_units _, htext.trans (scanAnchors_eq _).symm, hspell, hunits, ?_, ?_⟩
  · intro c hmem
    rw [hunits] at hmem
    obtain ⟨u, -, hu⟩ := List.mem_map.1 hmem
    exact (PatternUnit.escapeAnchor_eq_single_iff.1 hu).2
  · -- The units that are written are already escaped one by one.
    rw [← String.toList_inj, hspell, escapedPattern, String.toList_ofList,
      escapeAnchors_eq_spell, hunits, List.map_map]
    congr 2
    funext u
    exact u.escapeAnchor_idem

/-- An escaped anchor stays, the one after two backslashes does not, and the last backslash escapes
nothing. -/
example : escapedPattern "\\^\\\\^a\\" = "\\^\\\\\\^a\\" := by decide

end SchemaBridge
