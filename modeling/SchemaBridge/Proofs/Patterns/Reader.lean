import SchemaBridge.Proofs.Patterns.Search

/-!
# Reading regular expressions

A reader for the regular expressions of JSON schemas, in the strict mode for Unicode texts and as far
as translated patterns use them. A text is cut into units, the units are read as tokens, among them
whole classes (`tokensFrom?`), and a machine with a stack of open groups puts the tokens together
(`parse`). In the strict mode an escape is one of a character with a meaning of its own, and outside
of classes a bracket or a brace never stands for itself. What the reader does not know, or what is no
regular expression, it rejects.
-/

set_option autoImplicit false

namespace SchemaBridge.Patterns

/-! ## The reader -/

/-- The character that a unit of a class stands for. -/
def classChar? : PatternUnit → Option Char
  | .single c => if c ∈ ['\\', ']'] then none else some c
  | .escaped c => if c ∈ '-' :: '/' :: syntaxCharacters then some c else none

/-- The ranges that the units of a class list. A dash between two units joins them, and a range that
does not ascend is an error. -/
def ranges? : List PatternUnit → Option (List (Char × Char))
  | [] => some []
  | low :: .single '-' :: high :: rest => do
      let first ← classChar? low
      let last ← classChar? high
      if first ≤ last then (ranges? rest).map ((first, last) :: ·) else none
  | u :: rest => do
      let c ← classChar? u
      (ranges? rest).map ((c, c) :: ·)

/-- The set of characters of a class, whose negation is marked at its beginning. -/
def classSet? : List PatternUnit → Option CharSet
  | .single '^' :: rest => (ranges? rest).map fun ranges => ⟨true, ranges⟩
  | us => (ranges? us).map fun ranges => ⟨false, ranges⟩

/-- The token that a unit outside of classes is. -/
def token? : PatternUnit → Option (Token CharSet)
  | .escaped c => if c ∈ '/' :: syntaxCharacters then some (.leaf (.one c)) else none
  | .single '(' => some .opening
  | .single ')' => some .closing
  | .single '|' => some .bar
  | .single '?' => some (.quantifier .optional)
  | .single '*' => some (.quantifier .star)
  | .single '+' => some (.quantifier .plus)
  | .single '^' => some .start
  | .single '$' => some .finish
  | .single c => if c ∈ syntaxCharacters then none else some (.leaf (.one c))

/-- The tokens that units are read as. The first argument holds what has been read of a class that
is open. -/
def tokensFrom? : Option (List PatternUnit) → List PatternUnit → Option (List (Token CharSet))
  | none, [] => some []
  | some _, [] => none
  | some body, u :: rest =>
      if u = .single ']' then do
        let set ← classSet? body
        (tokensFrom? none rest).map (.leaf set :: ·)
      else tokensFrom? (some (body ++ [u])) rest
  | none, .single '(' :: .single '?' :: .single ':' :: rest =>
      (tokensFrom? none rest).map (.opening :: ·)
  | none, u :: rest =>
      if u = .single '[' then tokensFrom? (some []) rest
      else do
        let token ← token? u
        (tokensFrom? none rest).map (token :: ·)

/-- An open group: the alternatives before the last bar, what the current one begins with, and the
atom that a quantifier may follow. -/
structure Frame where
  earlier? : Option Regex := none
  before : Regex := .empty
  atom? : Option Regex := none

namespace Frame

/-- The current alternative. -/
def current (frame : Frame) : Regex :=
  match frame.atom? with
  | none => frame.before
  | some atom => .seq frame.before atom

/-- One more alternative after others, if there are any. -/
def joined (earlier? : Option Regex) (r : Regex) : Regex :=
  match earlier? with
  | none => r
  | some earlier => .either earlier r

/-- All alternatives. -/
def closed (frame : Frame) : Regex := joined frame.earlier? frame.current

/-- An atom follows. -/
def push (frame : Frame) (atom : Regex) : Frame where
  earlier? := frame.earlier?
  before := frame.current
  atom? := some atom

/-- An anchor follows, which no quantifier may follow. -/
def settle (frame : Frame) (anchor : Regex) : Frame where
  earlier? := frame.earlier?
  before := .seq frame.current anchor

end Frame

/-- An atom with a quantifier. -/
def Quantifier.applied (q : Quantifier) (r : Regex) : Regex :=
  match q with
  | optional => .optional r
  | star => .star r
  | plus => .plus r

/-- Put tokens together. The frame of the innermost group stands apart from those around it. -/
def parse : List (Token CharSet) → Frame → List Frame → Option Regex
  | [], frame, [] => some frame.closed
  | [], _, _ :: _ => none
  | .leaf set :: rest, frame, stack => parse rest (frame.push (.chars set)) stack
  | .opening :: rest, frame, stack => parse rest {} (frame :: stack)
  | .closing :: rest, frame, outer :: stack => parse rest (outer.push frame.closed) stack
  | .closing :: _, _, [] => none
  | .bar :: rest, frame, stack => parse rest { earlier? := some frame.closed } stack
  | .quantifier q :: rest, frame, stack =>
      match frame.atom? with
      | none => none
      | some atom =>
          parse rest { frame with before := .seq frame.before (q.applied atom), atom? := none } stack
  | .start :: rest, frame, stack => parse rest (frame.settle .start) stack
  | .finish :: rest, frame, stack => parse rest (frame.settle .finish) stack

/-- Read a regular expression. -/
def read? (text : String) : Option Regex := do
  let tokens ← tokensFrom? none (units text.toList)
  parse tokens {} []

example : read? "^(?:a|b)$" = some (.anchored
    (.either (.seq .empty (.chars (.one 'a'))) (.seq .empty (.chars (.one 'b'))))) := by decide

-- A range that descends, and a group that is not closed, are no regular expressions.
example : read? "[^-Z]" ≠ none ∧ read? "[\\^-Z]" = none ∧ read? "(a" = none := by decide

/-! ## Steps of the reader -/

theorem ranges?_one {u : PatternUnit} {rest : List PatternUnit}
    (h : ∀ high tail, rest ≠ .single '-' :: high :: tail) :
    ranges? (u :: rest) = (classChar? u).bind fun c => (ranges? rest).map ((c, c) :: ·) := by
  rw [ranges?]
  · rfl
  · exact h

theorem ranges?_range {low high : PatternUnit} {first last : Char} (rest : List PatternUnit)
    (hlow : classChar? low = some first) (hhigh : classChar? high = some last)
    (hordered : first ≤ last) :
    ranges? (low :: .single '-' :: high :: rest) = (ranges? rest).map ((first, last) :: ·) := by
  rw [ranges?, hlow, hhigh]
  exact if_pos hordered

/-- Two units that a dash joins are read as an ascending range. -/
theorem exists_of_ranges?_range {low high : PatternUnit} {first last : Char}
    {rest : List PatternUnit} {ranges : List (Char × Char)} (hlow : classChar? low = some first)
    (hhigh : classChar? high = some last)
    (h : ranges? (low :: .single '-' :: high :: rest) = some ranges) :
    first ≤ last ∧ ∃ others, ranges = (first, last) :: others := by
  rw [ranges?, hlow, hhigh] at h
  simp only [Option.bind_eq_bind, Option.bind_some] at h
  split at h
  · next hordered =>
      obtain ⟨others, -, rfl⟩ := Option.map_eq_some_iff.1 h
      exact ⟨hordered, others, rfl⟩
  · cases h

/-- A unit that opens nothing is a token of its own. -/
theorem tokensFrom?_cons {u : PatternUnit} {token : Token CharSet} (hbracket : u ≠ .single '[')
    (hgroup : u ≠ .single '(') (hread : token? u = some token) (rest : List PatternUnit) :
    tokensFrom? none (u :: rest) = (tokensFrom? none rest).map (token :: ·) := by
  rw [tokensFrom?]
  · rw [if_neg hbracket, hread]
    rfl
  · rintro tail heq -
    exact hgroup heq

/-- An open class is read up to its closing bracket. -/
theorem tokensFrom?_class {us : List PatternUnit} (h : .single ']' ∉ us) (body : List PatternUnit)
    (rest : List PatternUnit) :
    tokensFrom? (some body) (us ++ .single ']' :: rest) =
      (classSet? (body ++ us)).bind fun set =>
        (tokensFrom? none rest).map (.leaf set :: ·) := by
  induction us generalizing body with
  | nil =>
      rw [List.nil_append, tokensFrom?, if_pos rfl, List.append_nil]
      rfl
  | cons u us ih =>
      have hu : u ≠ .single ']' := fun heq => h (heq ▸ List.mem_cons_self ..)
      have hus : .single ']' ∉ us := fun hmem => h (List.mem_cons_of_mem _ hmem)
      rw [List.cons_append, tokensFrom?, if_neg hu, ih hus, List.append_assoc,
        List.singleton_append]

end SchemaBridge.Patterns
