import SchemaBridge.Proofs.Patterns.Reader

/-!
# What classes are read as

The translation of a class escapes its anchors and nothing else. So its ranges are read back as they
were listed (`CharClass.ranges?_content`), but the mark of negation, which is escaped as well, is read
as a character of the class (`Leaf.seen?`). A class without negation is read as what it means
(`CharClass.seen?_of_positive`); a negated class never is (`CharClass.misread_of_negated`).
-/

set_option autoImplicit false

namespace SchemaBridge.Patterns

/-! ## Units of classes -/

theorem classChar?_escapeAnchor {u : PatternUnit} (h : isMember u = true) :
    classChar? u.escapeAnchor = some u.char := by
  cases u with
  | escaped c =>
      have hc : c ∈ '-' :: syntaxCharacters := of_decide_eq_true h
      have hknown : c ∈ '-' :: '/' :: syntaxCharacters := by
        rcases List.mem_cons.1 hc with rfl | hc
        · exact List.mem_cons_self ..
        · exact List.mem_cons_of_mem _ (List.mem_cons_of_mem _ hc)
      exact if_pos hknown
  | single c =>
      have hc : c ∉ ['\\', '[', ']', '-'] := of_decide_eq_true h
      by_cases hanchor : c = '^' ∨ c = '$'
      · rcases hanchor with rfl | rfl <;> rfl
      · rw [PatternUnit.escapeAnchor, if_neg hanchor, classChar?, if_neg]
        · rfl
        · intro hmem
          apply hc
          rcases List.mem_pair.1 hmem with rfl | rfl <;> decide

/-- A member of a class is no dash that joins others. -/
theorem escapeAnchor_ne_dash {u : PatternUnit} (h : isMember u = true) :
    u.escapeAnchor ≠ .single '-' := by
  intro heq
  have hu := (PatternUnit.escapeAnchor_eq_single_iff.1 heq).1
  rw [hu] at h
  exact absurd h (by decide)

theorem classSet?_map_escapeAnchor (us : List PatternUnit) :
    classSet? (us.map PatternUnit.escapeAnchor) =
      (ranges? (us.map PatternUnit.escapeAnchor)).map fun ranges => ⟨false, ranges⟩ := by
  unfold classSet?
  split
  · next rest heq =>
      -- No mark of negation is left.
      obtain ⟨u, -, hu⟩ := List.mem_map.1 (heq ▸ List.mem_cons_self ..)
      exact absurd rfl (PatternUnit.escapeAnchor_eq_single_iff.1 hu).2.1
  · rfl

/-- The characters that must be escaped in a class do not stand in its body on their own. -/
theorem CharClass.single_not_mem_body (k : CharClass) {c : Char} (hc : c ∈ ['\\', '[', ']']) :
    .single c ∉ k.body := by
  have hother : c ≠ '-' ∧ c ≠ '^' ∧ isMember (.single c) = false := by
    simp only [List.mem_cons, List.not_mem_nil, or_false] at hc
    rcases hc with rfl | rfl | rfl <;> decide
  obtain ⟨hdash, hmark, hmember⟩ := hother
  have hlisted : .single c ∉ ClassItem.listed k.items k.trailingDash := by
    intro hmem
    rcases List.mem_append.1 hmem with hitem | hlast
    · obtain ⟨item, -, hunit⟩ := List.mem_flatMap.1 hitem
      cases item with
      | one u member =>
          rw [← List.mem_singleton.1 hunit, hmember] at member
          cases member
      | range low high low_member high_member _ =>
          simp only [ClassItem.units, List.mem_cons, List.not_mem_nil, or_false,
            PatternUnit.single.injEq, hdash, false_or] at hunit
          rcases hunit with rfl | rfl
          · exact absurd low_member (by rw [hmember]; decide)
          · exact absurd high_member (by rw [hmember]; decide)
    · split at hlast
      · exact hdash (PatternUnit.single.inj (List.mem_singleton.1 hlast))
      · cases hlast
  unfold body content
  split <;> split <;> simp [hlisted, hdash, hmark]

/-- What is translated has a unit of one character only where it had it before. -/
theorem single_not_mem_map_escapeAnchor {us : List PatternUnit} {c : Char} (h : .single c ∉ us) :
    .single c ∉ us.map PatternUnit.escapeAnchor := by
  intro hmem
  obtain ⟨u, hu, heq⟩ := List.mem_map.1 hmem
  rw [(PatternUnit.escapeAnchor_eq_single_iff.1 heq).1] at hu
  exact h hu

/-! ## Ranges are read back -/

namespace ClassItem

/-- No dash among items joins what is before them to one of them. -/
theorem listed_plain (items : List ClassItem) (dash : Bool) (high : PatternUnit)
    (rest : List PatternUnit) :
    (listed items dash).map PatternUnit.escapeAnchor ≠ .single '-' :: high :: rest := by
  intro heq
  cases items with
  | nil => cases dash <;> cases heq
  | cons item items =>
      cases item with
      | one u member => exact escapeAnchor_ne_dash member (List.cons.inj heq).1
      | range low _ low_member _ _ => exact escapeAnchor_ne_dash low_member (List.cons.inj heq).1

theorem ranges?_listed (items : List ClassItem) (dash : Bool) :
    ranges? ((listed items dash).map PatternUnit.escapeAnchor) = some (listedRanges items dash) := by
  induction items with
  | nil => cases dash <;> rfl
  | cons item items ih =>
      cases item with
      | one u member =>
          have hcons : listed (.one u member :: items) dash = u :: listed items dash := rfl
          rw [hcons, List.map_cons, ranges?_one (listed_plain items dash),
            classChar?_escapeAnchor member, ih]
          rfl
      | range low high low_member high_member ordered =>
          have hcons : listed (.range low high low_member high_member ordered :: items) dash =
              low :: .single '-' :: high :: listed items dash := rfl
          have hdash : (PatternUnit.single '-').escapeAnchor = .single '-' := rfl
          rw [hcons, List.map_cons, List.map_cons, List.map_cons, hdash,
            ranges?_range _ (classChar?_escapeAnchor low_member)
              (classChar?_escapeAnchor high_member) ordered, ih]
          rfl

end ClassItem

namespace CharClass

/-- **The ranges of a class are read back.** -/
theorem ranges?_content (k : CharClass) :
    ranges? (k.content.map PatternUnit.escapeAnchor) = some k.ranges := by
  have hlisted := ClassItem.ranges?_listed k.items k.trailingDash
  unfold content ranges
  split
  · have hescaped : (PatternUnit.single '-').escapeAnchor = .single '-' := rfl
    rw [List.map_cons, hescaped, ranges?_one (ClassItem.listed_plain k.items k.trailingDash),
      hlisted]
    rfl
  · exact hlisted

end CharClass

/-! ## What the leaves of a translation are read as -/

/-- The set that the translation of a leaf is read as. The mark of negation is escaped like any
other `^`, so it is read as one more character of the class. -/
def Leaf.seen? : Leaf → Option CharSet
  | literal u _ => some (.one u.char)
  | charClass k =>
      (ranges? (k.body.map PatternUnit.escapeAnchor)).map fun ranges => ⟨false, ranges⟩

/-- **A class without negation is read as what it means.** -/
theorem CharClass.seen?_of_positive {k : CharClass} (h : k.negated = false) :
    (Leaf.charClass k).seen? = some (Leaf.charClass k).meant := by
  have hbody : k.body = k.content := by simp [body, h]
  rw [Leaf.seen?, hbody, k.ranges?_content, Leaf.meant, h]
  rfl

/-! ## Negated classes are misread -/

open CharSet (IsListed)

/-- What is written of a class begins with a unit that is read, and whose character is listed. -/
theorem ClassItem.exists_first {items : List ClassItem} {dash : Bool}
    (h : items ≠ [] ∨ dash = true) :
    ∃ u rest, listed items dash = u :: rest ∧ classChar? u.escapeAnchor = some u.char ∧
      IsListed (listedRanges items dash) u.char := by
  cases items with
  | nil =>
      have hdash : dash = true := h.resolve_left fun hne => hne rfl
      subst hdash
      exact ⟨.single '-', [], rfl, rfl, IsListed.head (Char.le_refl _) (Char.le_refl _) _⟩
  | cons item items =>
      cases item with
      | one u member =>
          exact ⟨u, _, rfl, classChar?_escapeAnchor member,
            IsListed.head (Char.le_refl _) (Char.le_refl _) _⟩
      | range low high low_member _ ordered =>
          exact ⟨low, _, rfl, classChar?_escapeAnchor low_member,
            IsListed.head (Char.le_refl _) ordered _⟩

namespace CharClass

variable {k : CharClass} {ranges : List (Char × Char)}

/-- Without a leading dash the mark of negation is one more character, and all others are read. -/
theorem exists_listed_of_plain (hdash : k.leadingDash = false)
    (h : ranges? (.escaped '^' :: k.content.map PatternUnit.escapeAnchor) = some ranges) :
    ∃ c, IsListed ranges c ∧ IsListed k.ranges c := by
  have hcontent : k.content = ClassItem.listed k.items k.trailingDash := by
    simp [content, hdash]
  have hsame : k.ranges = ClassItem.listedRanges k.items k.trailingDash := by
    simp [CharClass.ranges, hdash]
  have hnonempty : k.items ≠ [] ∨ k.trailingDash = true :=
    k.nonempty.resolve_left (by simp [hdash])
  obtain ⟨u, -, -, -, hlists⟩ := ClassItem.exists_first hnonempty
  rw [hcontent, ranges?_one (ClassItem.listed_plain k.items k.trailingDash),
    ClassItem.ranges?_listed] at h
  cases h
  rw [hsame]
  exact ⟨u.char, hlists.cons ('^', '^'), hlists⟩

/-- A leading dash joins the mark of negation to the first unit after it, if there is one. -/
theorem exists_listed_of_dash (hdash : k.leadingDash = true)
    (h : ranges? (.escaped '^' :: k.content.map PatternUnit.escapeAnchor) = some ranges) :
    ∃ c, IsListed ranges c ∧ IsListed k.ranges c := by
  have hcontent : k.content = .single '-' :: ClassItem.listed k.items k.trailingDash := by
    simp [content, hdash]
  have hsame : k.ranges = ('-', '-') :: ClassItem.listedRanges k.items k.trailingDash := by
    simp [CharClass.ranges, hdash]
  have hescaped : (PatternUnit.single '-').escapeAnchor = .single '-' := rfl
  rw [hcontent, List.map_cons, hescaped] at h
  rw [hsame]
  by_cases hnonempty : k.items ≠ [] ∨ k.trailingDash = true
  · obtain ⟨u, rest, hunits, hchar, hlists⟩ := ClassItem.exists_first hnonempty
    have hmark : classChar? (.escaped '^') = some '^' := rfl
    rw [hunits, List.map_cons] at h
    obtain ⟨hordered, others, rfl⟩ := exists_of_ranges?_range hmark hchar h
    exact ⟨u.char, IsListed.head hordered (Char.le_refl _) _, hlists.cons ('-', '-')⟩
  · rw [not_or, not_not, Bool.not_eq_true] at hnonempty
    rw [hnonempty.1, hnonempty.2] at h
    cases h
    have hhead := IsListed.head (Char.le_refl '-') (Char.le_refl '-')
    exact ⟨'-', (hhead []).cons ('^', '^'), hhead _⟩

/-- **A negated class is never read as what it means**: it is read as a class that has one of the
characters that are listed. -/
theorem misread_of_negated (hnegated : k.negated = true) {set : CharSet}
    (hseen : (Leaf.charClass k).seen? = some set) :
    ∃ c, set.has c = true ∧ (Leaf.charClass k).meant.has c = false := by
  have hbody : k.body.map PatternUnit.escapeAnchor =
      .escaped '^' :: k.content.map PatternUnit.escapeAnchor := by
    rw [body, hnegated]
    rfl
  obtain ⟨ranges, hranges, rfl⟩ := Option.map_eq_some_iff.1 hseen
  rw [hbody] at hranges
  have hlisted : ∃ c, IsListed ranges c ∧ IsListed k.ranges c := by
    cases hdash : k.leadingDash with
    | false => exact exists_listed_of_plain hdash hranges
    | true => exact exists_listed_of_dash hdash hranges
  -- What is listed is seen, and it is not meant.
  obtain ⟨c, hseen, hmeant⟩ := hlisted
  refine ⟨c, CharSet.has_eq_not_negated hseen, ?_⟩
  rw [Leaf.meant, CharSet.has_eq_not_negated hmeant, hnegated]
  rfl

end CharClass

end SchemaBridge.Patterns
