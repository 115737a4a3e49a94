import SchemaBridge.Proofs.Patterns.ReadBack

/-!
# Does the translation of a pattern mean what the pattern means?

A pattern of a schema holds for the texts that match it as a whole; its translation holds for the
texts in which it is found (`Pattern.PreservesMeaning`).

The translation is read as the pattern itself, anchored, with the sets that its leaves are seen as
(`Pattern.read?_normalizePattern`). These are the sets that are meant, `^` and `$` included, except
for negated classes: their mark of negation is escaped, so that `[^a]` is read as the class of `^`
and `a`. So the meaning of every pattern without negated classes is preserved, and that of others
only if the languages happen to be the same (`Pattern.preservesMeaning_iff_and_of_positive`).
-/

set_option autoImplicit false

namespace SchemaBridge.Patterns

open Computability

/-! ## The languages of patterns -/

theorem Quantifier.denotes_applied (q : Quantifier) {r : Regex} {l : Language Char}
    (h : r.Denotes l) : (q.applied r).Denotes (Quantifier.repeated (some q) l) := by
  cases q with
  | optional => exact h.optional
  | star => exact h.star
  | plus => exact h.plus

section Languages

variable {read : Leaf → CharSet}

mutual

/-- The expression of a pattern has the language of the pattern, beside what stands before it. -/
theorem Pattern.denotes_regexAfter (p : Pattern) :
    (p.regexAfter read none).Denotes (p.language read) ∧
      ∀ {earlier : Regex} {l : Language Char}, earlier.Denotes l →
        (p.regexAfter read (some earlier)).Denotes (l + p.language read) := by
  cases p with
  | single branch =>
      have hbranch := branch.denotes_regexAfter Regex.denotes_empty
      rw [one_mul] at hbranch
      exact ⟨hbranch, fun hearlier => hearlier.either hbranch⟩
  | either branch others =>
      have hbranch := branch.denotes_regexAfter Regex.denotes_empty
      rw [one_mul] at hbranch
      refine ⟨others.denotes_regexAfter.2 hbranch, fun hearlier => ?_⟩
      rw [Pattern.language, ← add_assoc]
      exact others.denotes_regexAfter.2 (hearlier.either hbranch)

theorem Branch.denotes_regexAfter (branch : Branch) {before : Regex} {l : Language Char}
    (h : before.Denotes l) :
    (branch.regexAfter read before).Denotes (l * branch.language read) := by
  cases branch with
  | nil =>
      rw [Branch.language, mul_one]
      exact h
  | cons atom quantifier? others =>
      rw [Branch.language, ← mul_assoc]
      cases quantifier? with
      | none => exact others.denotes_regexAfter (h.seq atom.denotes_regex)
      | some q => exact others.denotes_regexAfter (h.seq (q.denotes_applied atom.denotes_regex))

theorem Atom.denotes_regex (atom : Atom) : (atom.regex read).Denotes (atom.language read) := by
  cases atom with
  | leaf l => exact Regex.denotes_chars (read l)
  | group p => exact p.denotes_regexAfter.1

end

end Languages

/-! ## When meaning is preserved -/

namespace Pattern

/-- The translation is a regular expression that is found in the texts that match the pattern, and
in no others. -/
def PreservesMeaning (p : Pattern) : Prop :=
  ∃ r, read? (normalizePattern p.text) = some r ∧ ∀ text, r.FoundIn text ↔ p.Matches text

/-- The language that counts is the one of the leaves as they are seen. -/
theorem preservesMeaning_iff {p : Pattern} :
    p.PreservesMeaning ↔
      p.IsReadable ∧ p.language Leaf.seen = p.language Leaf.meant := by
  have hfound := (@Pattern.denotes_regexAfter Leaf.seen p).1.foundIn_anchored_iff
  constructor
  · rintro ⟨r, hr, hiff⟩
    obtain ⟨hreadable, rfl⟩ := read?_normalizePattern_eq_some_iff.1 hr
    refine ⟨hreadable, Set.ext fun w => ?_⟩
    have hw := (hfound (String.ofList w)).symm.trans (hiff (String.ofList w))
    rwa [Matches, String.toList_ofList] at hw
  · rintro ⟨hreadable, hlanguage⟩
    refine ⟨_, read?_normalizePattern_eq_some_iff.2 ⟨hreadable, rfl⟩, fun text => ?_⟩
    rw [hfound, hlanguage, Matches]

/-- No class of the pattern is negated. -/
def IsPositive (p : Pattern) : Prop := ∀ k, p.HasLeaf (.charClass k) → k.negated = false

/-- A leaf other than a negated class is seen as what it means. -/
theorem seen?_of_isPositive {p : Pattern} (h : p.IsPositive) {l : Leaf} (hl : p.HasLeaf l) :
    l.seen? = some l.meant := by
  cases l with
  | literal u valid => rfl
  | charClass k => exact CharClass.seen?_of_positive (h k hl)

/-- The pattern of one leaf. -/
def ofLeaf (l : Leaf) : Pattern := .single (.cons (.leaf l) none .nil)

theorem language_ofLeaf (read : Leaf → CharSet) (l : Leaf) :
    (ofLeaf l).language read = (read l).words :=
  mul_one _

/-- The pattern of one leaf says which characters the leaf is seen as. -/
theorem has_eq_of_preservesMeaning_ofLeaf {l : Leaf} (h : (ofLeaf l).PreservesMeaning) :
    ∃ set, l.seen? = some set ∧ ∀ c, set.has c = l.meant.has c := by
  obtain ⟨hreadable, hlanguage⟩ := preservesMeaning_iff.1 h
  obtain ⟨set, hset⟩ := Option.isSome_iff_exists.1 (hreadable l (List.mem_cons_self ..))
  rw [language_ofLeaf, language_ofLeaf, Leaf.seen_of_seen? hset] at hlanguage
  refine ⟨set, hset, fun c => Bool.eq_iff_iff.2 ?_⟩
  rw [← CharSet.singleton_mem_words_iff, ← CharSet.singleton_mem_words_iff, hlanguage]

/-- **When the translation of a pattern means what the pattern means.** It does exactly when it can
be read and the language of the leaves as they are seen is the one that is meant. It does for every
pattern without negated classes, and for no negated class on its own. -/
theorem preservesMeaning_iff_and_of_positive (p : Pattern) :
    (p.PreservesMeaning ↔
        p.IsReadable ∧ p.language Leaf.seen = p.language Leaf.meant) ∧
      (p.IsPositive → p.PreservesMeaning) ∧
      ∀ k : CharClass, p = ofLeaf (.charClass k) → k.negated = true → ¬ p.PreservesMeaning := by
  refine ⟨preservesMeaning_iff, ?_, ?_⟩
  · intro hpositive
    refine preservesMeaning_iff.2 ⟨?_, ?_⟩
    · intro l hl
      rw [seen?_of_isPositive hpositive hl]
      rfl
    · apply p.language_congr
      intro l hl
      exact Leaf.seen_of_seen? (seen?_of_isPositive hpositive hl)
  · rintro k rfl hnegated hpreserves
    obtain ⟨set, hseen, hsame⟩ := has_eq_of_preservesMeaning_ofLeaf hpreserves
    obtain ⟨c, hc, hmeant⟩ := CharClass.misread_of_negated hnegated hseen
    rw [hsame c, hmeant] at hc
    cases hc

/-- The pattern `[b-d^]+|(\^$)?`. -/
def letters : Pattern :=
  .either
    (.cons
      (.leaf (.charClass
        { items := [.range (.single 'b') (.single 'd') rfl rfl (by decide), .one (.single '^') rfl]
          nonempty := Or.inr (Or.inl (List.cons_ne_nil _ _))
          unmarked := by rintro - - item ⟨⟩; decide }))
      (some .plus) .nil)
    (.single
      (.cons
        (.group (.single
          (.cons (.leaf (.literal (.escaped '^') rfl)) none
            (.cons (.leaf (.literal (.single '$') rfl)) none .nil))))
        (some .optional) .nil))

/-- Ranges, anchors in a class and outside of it, and an escape keep their meaning. -/
theorem letters_preservesMeaning :
    letters.text = "[b-d^]+|(\\^$)?" ∧ letters.PreservesMeaning := by
  obtain ⟨-, hpositive, -⟩ := preservesMeaning_iff_and_of_positive letters
  refine ⟨by decide, hpositive ?_⟩
  intro k hk
  simp only [HasLeaf, letters, Pattern.tokens, Branch.tokens, Atom.tokens, List.cons_append,
    List.nil_append, Option.toList, List.map_cons, List.map_nil, List.mem_cons, Token.leaf.injEq,
    Leaf.charClass.injEq, reduceCtorEq, List.not_mem_nil, or_false] at hk
  rw [hk]

/-- The class `[^a]`. -/
def otherThanA : CharClass where
  negated := true
  items := [.one (.single 'a') rfl]
  nonempty := Or.inr (Or.inl (List.cons_ne_nil _ _))
  unmarked := nofun

/-- The pattern `[^a]` matches `b`, but is translated to a class of `^` and `a`. -/
theorem otherThanA_not_preservesMeaning :
    (ofLeaf (.charClass otherThanA)).text = "[^a]" ∧
      normalizePattern "[^a]" = "^(?:[\\^a])$" ∧
      (ofLeaf (.charClass otherThanA)).Matches "b" ∧
      ¬ (ofLeaf (.charClass otherThanA)).PreservesMeaning := by
  refine ⟨by decide, by decide, ?_, ?_⟩
  · rw [Matches, language_ofLeaf]
    exact CharSet.singleton_mem_words_iff.2 (by decide)
  · intro hpreserves
    obtain ⟨set, hseen, hsame⟩ := has_eq_of_preservesMeaning_ofLeaf hpreserves
    have hset : set = ⟨false, [('^', '^'), ('a', 'a')]⟩ := (Option.some.inj hseen).symm
    have hb := hsame 'b'
    rw [hset] at hb
    exact absurd hb (by decide)

end Pattern

end SchemaBridge.Patterns
