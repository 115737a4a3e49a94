import SchemaBridge.Proofs.Patterns.Syntax

/-!
# Searching for regular expressions

The regular expressions that the keyword `pattern` of a JSON schema holds, as far as translated
patterns use them, and where they match in a text. A match spans two positions, `Regex.Spans`;
anchors hold at the ends of a text, and a repetition goes on only with iterations that consume
something. An expression is found in a text when it spans two of its positions.

Without anchors the place of a match does not matter: what is spanned is a word of the language of
the expression (`Regex.Denotes`). So an expression that is anchored on both sides is found in the
texts of its language, and in no others (`Regex.Denotes.foundIn_anchored_iff`).
-/

set_option autoImplicit false

namespace SchemaBridge.Patterns

open Computability

/-- A regular expression. Groups are not kept, since nothing refers to them. -/
inductive Regex where
  | empty
  | start
  | finish
  | chars (set : CharSet)
  | seq (first second : Regex)
  | either (first second : Regex)
  | optional (r : Regex)
  | star (r : Regex)
  | plus (r : Regex)
deriving DecidableEq

namespace Regex

/-- The expression matches what stands between two positions of the input. -/
def Spans (input : List Char) : Regex → Nat → Nat → Prop
  | empty, i, j => j = i
  | start, i, j => i = 0 ∧ j = i
  | finish, i, j => i = input.length ∧ j = i
  | chars set, i, j => ∃ c, input[i]? = some c ∧ set.has c = true ∧ j = i + 1
  | seq first second, i, j => ∃ k, first.Spans input i k ∧ second.Spans input k j
  | either first second, i, j => first.Spans input i j ∨ second.Spans input i j
  | optional r, i, j => j = i ∨ r.Spans input i j
  | star r, i, j => Relation.ReflTransGen (fun k l => r.Spans input k l ∧ k ≠ l) i j
  | plus r, i, j =>
      ∃ m, r.Spans input i m ∧
        Relation.ReflTransGen (fun k l => r.Spans input k l ∧ k ≠ l) m j

/-- The expression between both anchors, as a reader puts the three together. -/
def anchored (r : Regex) : Regex := .seq (.seq (.seq .empty .start) r) .finish

/-- A search for the expression in a text succeeds. -/
def FoundIn (r : Regex) (text : String) : Prop :=
  ∃ i j, i ≤ text.toList.length ∧ r.Spans text.toList i j

/-- The expression matches the words of a language, wherever they stand. -/
def Denotes (r : Regex) (l : Language Char) : Prop :=
  ∀ input i j, r.Spans input i j ↔ ∃ w ∈ l, w <+: input.drop i ∧ j = i + w.length

/-! ## The languages of expressions -/

theorem append_isPrefix_drop_iff {first second input : List Char} {i : Nat} :
    first ++ second <+: input.drop i ↔
      first <+: input.drop i ∧ second <+: input.drop (i + first.length) := by
  rw [← List.drop_drop]
  constructor
  · rintro ⟨rest, hrest⟩
    refine ⟨⟨second ++ rest, by rw [← hrest, List.append_assoc]⟩, rest, ?_⟩
    rw [← hrest, List.append_assoc, List.drop_left]
  · rintro ⟨⟨rest, hrest⟩, hsecond⟩
    rw [← hrest, List.drop_left] at hsecond
    rw [← hrest]
    exact (List.prefix_append_right_inj first).2 hsecond

theorem denotes_empty : empty.Denotes 1 := by
  intro input i j
  constructor
  · rintro rfl
    exact ⟨[], rfl, List.nil_prefix, rfl⟩
  · rintro ⟨w, rfl, -, rfl⟩
    rfl

theorem denotes_chars (set : CharSet) : (chars set).Denotes set.words := by
  intro input i j
  have hstands : ∀ c, [c] <+: input.drop i ↔ input[i]? = some c := by
    intro c
    rw [← List.head?_drop]
    cases input.drop i with
    | nil => simp
    | cons d rest => simp [eq_comm]
  constructor
  · rintro ⟨c, hc, hhas, rfl⟩
    exact ⟨[c], ⟨c, hhas, rfl⟩, (hstands c).2 hc, rfl⟩
  · rintro ⟨w, ⟨c, hhas, rfl⟩, hw, rfl⟩
    exact ⟨c, (hstands c).1 hw, hhas, rfl⟩

namespace Denotes

variable {r first second : Regex} {l m : Language Char}

theorem seq (hfirst : first.Denotes l) (hsecond : second.Denotes m) :
    (Regex.seq first second).Denotes (l * m) := by
  intro input i j
  constructor
  · rintro ⟨k, hk, hj⟩
    obtain ⟨v, hv, hvstands, rfl⟩ := (hfirst input i k).1 hk
    obtain ⟨w, hw, hwstands, rfl⟩ := (hsecond input _ j).1 hj
    refine ⟨v ++ w, Language.mem_mul.2 ⟨v, hv, w, hw, rfl⟩, ?_, ?_⟩
    · exact append_isPrefix_drop_iff.2 ⟨hvstands, hwstands⟩
    · rw [List.length_append, Nat.add_assoc]
  · rintro ⟨_, hword, hstands, rfl⟩
    obtain ⟨v, hv, w, hw, rfl⟩ := Language.mem_mul.1 hword
    obtain ⟨hvstands, hwstands⟩ := append_isPrefix_drop_iff.1 hstands
    refine ⟨i + v.length, (hfirst input i _).2 ⟨v, hv, hvstands, rfl⟩, ?_⟩
    exact (hsecond input _ _).2 ⟨w, hw, hwstands, by rw [List.length_append, Nat.add_assoc]⟩

theorem either (hfirst : first.Denotes l) (hsecond : second.Denotes m) :
    (Regex.either first second).Denotes (l + m) := by
  intro input i j
  rw [Spans, hfirst input i j, hsecond input i j]
  constructor
  · rintro (⟨w, hw, hspan⟩ | ⟨w, hw, hspan⟩)
    · exact ⟨w, (Language.mem_add l m w).2 (Or.inl hw), hspan⟩
    · exact ⟨w, (Language.mem_add l m w).2 (Or.inr hw), hspan⟩
  · rintro ⟨w, hw, hspan⟩
    rcases (Language.mem_add l m w).1 hw with hw | hw
    · exact Or.inl ⟨w, hw, hspan⟩
    · exact Or.inr ⟨w, hw, hspan⟩

theorem optional (h : r.Denotes l) : (Regex.optional r).Denotes (1 + l) :=
  denotes_empty.either h

/-- Iterations that consume something are enough for every repetition. -/
theorem star (h : r.Denotes l) : (Regex.star r).Denotes l∗ := by
  intro input i j
  constructor
  · intro hspans
    induction hspans using Relation.ReflTransGen.head_induction_on with
    | refl => exact ⟨[], Language.nil_mem_kstar l, List.nil_prefix, rfl⟩
    | head hstep _ ih =>
        obtain ⟨v, hv, hvstands, rfl⟩ := (h input _ _).1 hstep.1
        obtain ⟨w, hw, hwstands, rfl⟩ := ih
        have hword : v ++ w ∈ l∗ := by
          rw [← Language.one_add_self_mul_kstar_eq_kstar]
          exact Or.inr (Language.mem_mul.2 ⟨v, hv, w, hw, rfl⟩)
        refine ⟨v ++ w, hword, append_isPrefix_drop_iff.2 ⟨hvstands, hwstands⟩, ?_⟩
        rw [List.length_append, Nat.add_assoc]
  · rintro ⟨word, hword, hstands, rfl⟩
    obtain ⟨words, rfl, hwords⟩ := Language.mem_kstar_iff_exists_nonempty.1 hword
    clear hword
    -- One iteration for each word; the position moves on with them.
    induction words generalizing i with
    | nil => exact Relation.ReflTransGen.refl
    | cons w words ih =>
        obtain ⟨hw, hne⟩ := hwords w (List.mem_cons_self ..)
        rw [List.flatten_cons] at hstands ⊢
        obtain ⟨hwstands, hrest⟩ := append_isPrefix_drop_iff.1 hstands
        have hpos : 0 < w.length := List.length_pos_iff.2 hne
        have hstep : r.Spans input i (i + w.length) := (h input i _).2 ⟨w, hw, hwstands, rfl⟩
        have hothers := ih (i + w.length)
          (fun other hother => hwords other (List.mem_cons_of_mem _ hother)) hrest
        rw [List.length_append, ← Nat.add_assoc]
        exact hothers.head ⟨hstep, by omega⟩

theorem plus (h : r.Denotes l) : (Regex.plus r).Denotes (l * l∗) :=
  h.seq h.star

/-- **An expression anchored on both sides** is found in the words of its language. -/
theorem foundIn_anchored_iff (h : r.Denotes l) (text : String) :
    r.anchored.FoundIn text ↔ text.toList ∈ l := by
  constructor
  · rintro ⟨i, j, -, m, ⟨k, ⟨k', rfl, rfl, rfl⟩, hr⟩, rfl, rfl⟩
    obtain ⟨w, hw, hstands, hlength⟩ := (h text.toList 0 _).1 hr
    rw [List.drop_zero] at hstands
    rw [Nat.zero_add] at hlength
    rwa [hstands.eq_of_length hlength.symm] at hw
  · intro hmem
    refine ⟨0, text.toList.length, Nat.zero_le _, text.toList.length,
      ⟨0, ⟨0, rfl, rfl, rfl⟩, ?_⟩, rfl, rfl⟩
    exact (h text.toList 0 _).2 ⟨text.toList, hmem, List.prefix_refl _, (Nat.zero_add _).symm⟩

end Denotes

end Regex

end SchemaBridge.Patterns
