import Mathlib.Computability.Language
import SchemaBridge.Proofs.Patterns.Units

/-!
# The patterns of a schema

The grammar of XML Schema patterns over literal characters, escapes of metacharacters, character
classes and their negations, groups, concatenation, alternation and the quantifiers `?`, `*` and `+`.
A pattern is a choice of branches, a branch is a sequence of atoms with a quantifier or none each,
and an atom is a character, a class or a group.

Characters and classes are the leaves of a pattern. A reading gives each of them a set of characters,
and with it the whole pattern its language (`Pattern.language`). What XML Schema means by a pattern
is one reading (`Leaf.meant`); other readers may see other sets in the same leaves.
-/

set_option autoImplicit false

namespace SchemaBridge.Patterns

open Computability

/-! ## Sets of characters -/

/-- A set of characters: those in some ranges, or all others. -/
structure CharSet where
  negated : Bool := false
  ranges : List (Char × Char)
deriving DecidableEq

namespace CharSet

def has (set : CharSet) (c : Char) : Bool :=
  (set.ranges.any fun range => decide (range.1 ≤ c) && decide (c ≤ range.2)) != set.negated

/-- The set of one character. -/
def one (c : Char) : CharSet where
  ranges := [(c, c)]

/-- The words of one character of the set. -/
def words (set : CharSet) : Language Char := {w | ∃ c, set.has c = true ∧ w = [c]}

theorem singleton_mem_words_iff {set : CharSet} {c : Char} :
    [c] ∈ set.words ↔ set.has c = true := by
  constructor
  · rintro ⟨d, hd, heq⟩
    cases heq
    exact hd
  · intro hc
    exact ⟨c, hc, rfl⟩

/-- One of the ranges has the character. -/
def IsListed (ranges : List (Char × Char)) (c : Char) : Prop :=
  ∃ range ∈ ranges, range.1 ≤ c ∧ c ≤ range.2

theorem IsListed.cons {ranges : List (Char × Char)} {c : Char} (h : IsListed ranges c)
    (range : Char × Char) : IsListed (range :: ranges) c := by
  obtain ⟨other, hother, hbounds⟩ := h
  exact ⟨other, List.mem_cons_of_mem _ hother, hbounds⟩

theorem IsListed.head {low high c : Char} (hlow : low ≤ c) (hhigh : c ≤ high)
    (ranges : List (Char × Char)) : IsListed ((low, high) :: ranges) c :=
  ⟨(low, high), List.mem_cons_self .., hlow, hhigh⟩

/-- A character that is listed is in the set, or not in it if the set is negated. -/
theorem has_eq_not_negated {set : CharSet} {c : Char} (h : IsListed set.ranges c) :
    set.has c = !set.negated := by
  obtain ⟨range, hrange, hlow, hhigh⟩ := h
  have hany : (set.ranges.any fun range => decide (range.1 ≤ c) && decide (c ≤ range.2)) = true :=
    List.any_eq_true.2 ⟨range, hrange, by simp [hlow, hhigh]⟩
  rw [has, hany]
  cases set.negated <;> rfl

end CharSet

/-! ## Leaves -/

/-- The characters that have a meaning of their own in the patterns of a schema. -/
def metacharacters : List Char := ['.', '\\', '?', '*', '+', '{', '}', '(', ')', '|', '[', ']']

/-- The characters that have one when a pattern is searched for: anchors, too. -/
def syntaxCharacters : List Char := '^' :: '$' :: metacharacters

/-- A unit that stands for its character: one that has no other meaning, or an escape. -/
def isLiteral : PatternUnit → Bool
  | .single c => c ∉ metacharacters
  | .escaped c => c ∈ syntaxCharacters

/-- A unit that stands for its character inside of a class. A dash may be escaped there, and stands
for a range if it is not. -/
def isMember : PatternUnit → Bool
  | .single c => c ∉ ['\\', '[', ']', '-']
  | .escaped c => c ∈ '-' :: syntaxCharacters

/-- What a class lists: a character, or a range in ascending order. -/
inductive ClassItem where
  | one (u : PatternUnit) (member : isMember u = true)
  | range (low high : PatternUnit) (low_member : isMember low = true)
      (high_member : isMember high = true) (ordered : low.char ≤ high.char)

namespace ClassItem

def units : ClassItem → List PatternUnit
  | one u _ => [u]
  | range low high _ _ _ => [low, .single '-', high]

def bounds : ClassItem → Char × Char
  | one u _ => (u.char, u.char)
  | range low high _ _ _ => (low.char, high.char)

/-- The unit that an item begins with. -/
def first : ClassItem → PatternUnit
  | one u _ => u
  | range low _ _ _ _ => low

/-- Items as they are written, with a dash after them or without. -/
def listed (items : List ClassItem) (dash : Bool) : List PatternUnit :=
  items.flatMap units ++ if dash then [.single '-'] else []

/-- The ranges of what is written, a character being a range of its own. -/
def listedRanges (items : List ClassItem) (dash : Bool) : List (Char × Char) :=
  items.map bounds ++ if dash then [('-', '-')] else []

end ClassItem

/-- A character class. A dash stands for itself at the beginning and at the end. -/
structure CharClass where
  negated : Bool := false
  leadingDash : Bool := false
  items : List ClassItem
  trailingDash : Bool := false
  /-- No class is empty. -/
  nonempty : leadingDash = true ∨ items ≠ [] ∨ trailingDash = true
  /-- What is not negated does not begin with the mark of negation. -/
  unmarked : negated = false → leadingDash = false →
    ∀ item ∈ items.head?, item.first ≠ .single '^'

namespace CharClass

open ClassItem (listed listedRanges)

/-- What stands between the brackets, without the mark of negation. -/
def content (k : CharClass) : List PatternUnit :=
  if k.leadingDash then .single '-' :: listed k.items k.trailingDash
  else listed k.items k.trailingDash

/-- What stands between the brackets. -/
def body (k : CharClass) : List PatternUnit :=
  if k.negated then .single '^' :: k.content else k.content

/-- The ranges that a class lists. -/
def ranges (k : CharClass) : List (Char × Char) :=
  if k.leadingDash then ('-', '-') :: listedRanges k.items k.trailingDash
  else listedRanges k.items k.trailingDash

end CharClass

/-- A leaf of a pattern: one character, or a class. -/
inductive Leaf where
  | literal (u : PatternUnit) (valid : isLiteral u = true)
  | charClass (k : CharClass)

namespace Leaf

def units : Leaf → List PatternUnit
  | literal u _ => [u]
  | charClass k => .single '[' :: k.body ++ [.single ']']

/-- The characters that a leaf stands for in a schema. -/
def meant : Leaf → CharSet
  | literal u _ => .one u.char
  | charClass k => ⟨k.negated, k.ranges⟩

end Leaf

/-! ## Patterns -/

/-- A quantifier. -/
inductive Quantifier where
  | optional | star | plus
deriving DecidableEq

namespace Quantifier

def symbol : Quantifier → Char
  | optional => '?'
  | star => '*'
  | plus => '+'

/-- The language of what is repeated as a quantifier, or none, says. -/
def repeated (quantifier? : Option Quantifier) (l : Language Char) : Language Char :=
  match quantifier? with
  | none => l
  | some optional => 1 + l
  | some star => l∗
  | some plus => l * l∗

end Quantifier

mutual

/-- A pattern: one branch or more. -/
inductive Pattern where
  | single (branch : Branch)
  | either (branch : Branch) (others : Pattern)

/-- A branch: atoms in sequence, each with a quantifier or none. -/
inductive Branch where
  | nil
  | cons (atom : Atom) (quantifier? : Option Quantifier) (others : Branch)

/-- An atom: a leaf, or a pattern in brackets. -/
inductive Atom where
  | leaf (l : Leaf)
  | group (p : Pattern)

end

/-- A token of a pattern. The two anchors occur only where a pattern is searched for. -/
inductive Token (α : Type) where
  | leaf (a : α)
  | opening
  | closing
  | bar
  | quantifier (q : Quantifier)
  | start
  | finish
deriving DecidableEq

namespace Token

variable {α β : Type}

/-- The token over other leaves. -/
def map (f : α → β) : Token α → Token β
  | leaf a => leaf (f a)
  | opening => opening
  | closing => closing
  | bar => bar
  | quantifier q => quantifier q
  | start => start
  | finish => finish

/-- The units that a token is written with. -/
def units : Token Leaf → List PatternUnit
  | leaf l => l.units
  | opening => [.single '(']
  | closing => [.single ')']
  | bar => [.single '|']
  | quantifier q => [.single q.symbol]
  | start => [.single '^']
  | finish => [.single '$']

end Token

mutual

/-- The tokens of a pattern, from left to right. -/
def Pattern.tokens : Pattern → List (Token Leaf)
  | .single branch => branch.tokens
  | .either branch others => branch.tokens ++ .bar :: others.tokens

/-- The tokens of a branch. -/
def Branch.tokens : Branch → List (Token Leaf)
  | .nil => []
  | .cons atom quantifier? others =>
      atom.tokens ++ (quantifier?.toList.map .quantifier ++ others.tokens)

/-- The tokens of an atom. -/
def Atom.tokens : Atom → List (Token Leaf)
  | .leaf l => [.leaf l]
  | .group p => .opening :: p.tokens ++ [.closing]

end

mutual

/-- The language of a pattern, when its leaves are read in some way. -/
def Pattern.language (read : Leaf → CharSet) : Pattern → Language Char
  | .single branch => branch.language read
  | .either branch others => branch.language read + others.language read

/-- The language of a branch. -/
def Branch.language (read : Leaf → CharSet) : Branch → Language Char
  | .nil => 1
  | .cons atom quantifier? others =>
      Quantifier.repeated quantifier? (atom.language read) * others.language read

/-- The language of an atom. -/
def Atom.language (read : Leaf → CharSet) : Atom → Language Char
  | .leaf l => (read l).words
  | .group p => p.language read

end

namespace Pattern

/-- The units that a pattern is written with. -/
def units (p : Pattern) : List PatternUnit := p.tokens.flatMap Token.units

/-- The pattern as it is written. -/
def text (p : Pattern) : String := String.ofList (spell p.units)

/-- The leaf occurs in the pattern. -/
def HasLeaf (p : Pattern) (l : Leaf) : Prop := .leaf l ∈ p.tokens

/-- A text as a whole matches the pattern, as XML Schema reads it. -/
def Matches (p : Pattern) (text : String) : Prop := text.toList ∈ p.language Leaf.meant

end Pattern

/-! ## Readings that agree -/

section Congruence

variable {first second : Leaf → CharSet}

mutual

/-- A pattern has one language in readings that agree about its leaves. -/
theorem Pattern.language_congr (p : Pattern)
    (h : ∀ l, .leaf l ∈ p.tokens → first l = second l) :
    p.language first = p.language second := by
  cases p with
  | single branch => exact branch.language_congr h
  | either branch others =>
      have hbranch := branch.language_congr fun l hl => h l (List.mem_append_left _ hl)
      have hothers := others.language_congr fun l hl =>
        h l (List.mem_append_right _ (List.mem_cons_of_mem _ hl))
      rw [Pattern.language, Pattern.language, hbranch, hothers]

theorem Branch.language_congr (branch : Branch)
    (h : ∀ l, .leaf l ∈ branch.tokens → first l = second l) :
    branch.language first = branch.language second := by
  cases branch with
  | nil => rfl
  | cons atom quantifier? others =>
      have hatom := atom.language_congr fun l hl => h l (List.mem_append_left _ hl)
      have hothers := others.language_congr fun l hl =>
        h l (List.mem_append_right _ (List.mem_append_right _ hl))
      rw [Branch.language, Branch.language, hatom, hothers]

theorem Atom.language_congr (atom : Atom)
    (h : ∀ l, .leaf l ∈ atom.tokens → first l = second l) :
    atom.language first = atom.language second := by
  cases atom with
  | leaf l => rw [Atom.language, Atom.language, h l (List.mem_cons_self ..)]
  | group p =>
      exact p.language_congr fun l hl =>
        h l (List.mem_cons_of_mem _ (List.mem_append_left _ hl))

end

end Congruence

end SchemaBridge.Patterns
