import Mathlib.Data.List.TakeWhile
import SchemaBridge.Text.Blank

/-!
# Trimmed texts and words

What trimming and splitting give, said without saying how it is computed. A trimmed text stands
between blanks and has none at its own ends (`strip_eq_iff`). The words of a text are blank-free
pieces of it, in order, with blanks between them and nothing but blanks around them
(`words_eq_iff`). Both relations determine their results.
-/

set_option autoImplicit false

namespace SchemaBridge.Text

/-- Nothing but blanks. -/
def AllBlank (cs : List Char) : Prop := ∀ c ∈ cs, isBlank c = true

/-- A text that is empty or begins with a character that is no blank. -/
def StartsPlain (cs : List Char) : Prop := ∀ c, cs.head? = some c → isBlank c = false

/-! ## Trimming -/

/-- What remains of a text when the blanks around it are taken away. -/
structure IsTrimmed (cs trimmed : List Char) : Prop where
  between : ∃ before after, AllBlank before ∧ AllBlank after ∧ cs = before ++ trimmed ++ after
  starts : StartsPlain trimmed
  ends : StartsPlain trimmed.reverse

theorem startsPlain_stripLeft (cs : List Char) : StartsPlain (stripLeft cs) := by
  intro c hc
  rw [stripLeft] at hc
  have hnot := List.head?_dropWhile_not isBlank cs
  rw [hc] at hnot
  simpa using hnot

theorem exists_blanks_append_stripLeft (cs : List Char) :
    ∃ before, AllBlank before ∧ cs = before ++ stripLeft cs :=
  ⟨cs.takeWhile isBlank, fun _ => List.mem_takeWhile_imp, List.takeWhile_append_dropWhile.symm⟩

theorem stripLeft_append {before : List Char} (h : AllBlank before) (cs : List Char) :
    stripLeft (before ++ cs) = stripLeft cs :=
  List.dropWhile_append_of_pos h

theorem stripLeft_of_allBlank {cs : List Char} (h : AllBlank cs) : stripLeft cs = [] :=
  List.dropWhile_eq_nil_iff.2 h

theorem stripLeft_of_startsPlain {cs : List Char} (h : StartsPlain cs) : stripLeft cs = cs := by
  cases cs with
  | nil => rfl
  | cons c rest => exact List.dropWhile_cons_of_neg (by simp [h c rfl])

theorem allBlank_reverse {cs : List Char} (h : AllBlank cs) : AllBlank cs.reverse :=
  fun c hc => h c (List.mem_reverse.1 hc)

theorem isTrimmed_strip (cs : List Char) : IsTrimmed cs (strip cs) := by
  obtain ⟨before, hbefore, hcs⟩ := exists_blanks_append_stripLeft cs
  obtain ⟨after, hafter, hreverse⟩ := exists_blanks_append_stripLeft (stripLeft cs).reverse
  have hstrip : (strip cs).reverse = stripLeft (stripLeft cs).reverse := List.reverse_reverse _
  have hleft : stripLeft cs = strip cs ++ after.reverse := by
    rw [← List.reverse_inj, List.reverse_append, List.reverse_reverse, hstrip]
    exact hreverse
  refine ⟨⟨before, after.reverse, hbefore, allBlank_reverse hafter, ?_⟩, fun c hc => ?_, ?_⟩
  · rw [List.append_assoc, ← hleft]
    exact hcs
  · -- The first character is also the first one once the blanks in front are gone.
    apply startsPlain_stripLeft cs
    rw [hleft, List.head?_append, hc]
    rfl
  · rw [hstrip]
    exact startsPlain_stripLeft _

theorem IsTrimmed.strip_eq {cs trimmed : List Char} (h : IsTrimmed cs trimmed) :
    strip cs = trimmed := by
  obtain ⟨before, after, hbefore, hafter, rfl⟩ := h.between
  rw [strip, stripRight, List.append_assoc, stripLeft_append hbefore]
  cases trimmed with
  | nil =>
      rw [List.nil_append, stripLeft_of_allBlank hafter]
      rfl
  | cons c rest =>
      have hstarts : StartsPlain (c :: rest ++ after) := fun d hd => h.starts d hd
      rw [stripLeft_of_startsPlain hstarts, List.reverse_append]
      have hends := stripLeft_append (allBlank_reverse hafter) (c :: rest).reverse
      rw [stripLeft_of_startsPlain h.ends, stripLeft] at hends
      rw [hends, List.reverse_reverse]

/-- **Trimming takes away the blanks around a text**, and nothing else. -/
theorem strip_eq_iff {cs trimmed : List Char} : strip cs = trimmed ↔ IsTrimmed cs trimmed :=
  ⟨fun h => h ▸ isTrimmed_strip cs, IsTrimmed.strip_eq⟩

/-! ## Words -/

/-- A character that stands in words. -/
def isPlain (c : Char) : Bool := !isBlank c

/-- A text without blanks that is not empty. -/
def IsWord (cs : List Char) : Prop := cs ≠ [] ∧ ∀ c ∈ cs, isBlank c = false

/-- A text that is empty or begins with a blank. -/
def StartsBlank (cs : List Char) : Prop := ∀ c, cs.head? = some c → isBlank c = true

/-- A text consists of words, in order, with blanks around them and at least one between two. -/
inductive ConsistsOf : List Char → List (List Char) → Prop where
  | blanks {cs : List Char} (h : AllBlank cs) : ConsistsOf cs []
  | word {before word rest : List Char} {words : List (List Char)} (hbefore : AllBlank before)
      (hword : IsWord word) (hrest : StartsBlank rest) (h : ConsistsOf rest words) :
      ConsistsOf (before ++ word ++ rest) (word :: words)

theorem words_append_of_allBlank {before : List Char} (h : AllBlank before) (cs : List Char) :
    words (before ++ cs) = words cs := by
  induction before with
  | nil => rfl
  | cons c rest ih =>
      have hc : isBlank c = true := h c (List.mem_cons_self ..)
      have hrest := ih fun d hd => h d (List.mem_cons_of_mem _ hd)
      rw [words, List.cons_append, wordsFrom, if_pos hc, if_pos List.isEmpty_nil]
      exact hrest

/-- Characters without blanks go into the piece that is being read. -/
theorem wordsFrom_append {word : List Char} (h : ∀ c ∈ word, isBlank c = false)
    (piece rest : List Char) :
    wordsFrom piece (word ++ rest) = wordsFrom (word.reverse ++ piece) rest := by
  induction word generalizing piece with
  | nil => rfl
  | cons c more ih =>
      have hc : isBlank c = false := h c (List.mem_cons_self ..)
      have hmore := ih (fun d hd => h d (List.mem_cons_of_mem _ hd)) (c :: piece)
      rw [List.cons_append, wordsFrom, if_neg (by simp [hc]), hmore, List.reverse_cons,
        List.append_assoc, List.singleton_append]

/-- A piece ends where the text ends or a blank stands. -/
theorem wordsFrom_of_startsBlank {piece rest : List Char} (hpiece : piece ≠ [])
    (hrest : StartsBlank rest) : wordsFrom piece rest = piece.reverse :: words rest := by
  have hempty : ¬ piece.isEmpty = true := by simpa using hpiece
  cases rest with
  | nil => rw [wordsFrom, if_neg hempty, words, wordsFrom, if_pos List.isEmpty_nil]
  | cons c rest =>
      have hc : isBlank c = true := hrest c rfl
      rw [wordsFrom, if_pos hc, if_neg hempty, words, wordsFrom, if_pos hc,
        if_pos List.isEmpty_nil]

theorem words_append_word {word rest : List Char} (hword : IsWord word)
    (hrest : StartsBlank rest) : words (word ++ rest) = word :: words rest := by
  have hpiece : word.reverse ++ [] ≠ [] := by simpa using hword.1
  rw [words, wordsFrom_append hword.2, wordsFrom_of_startsBlank hpiece hrest, List.append_nil,
    List.reverse_reverse]

theorem ConsistsOf.words_eq {cs : List Char} {pieces : List (List Char)}
    (h : ConsistsOf cs pieces) : words cs = pieces := by
  induction h with
  | @blanks cs h =>
      rw [← List.append_nil cs, words_append_of_allBlank h]
      rfl
  | word hbefore hword hrest _ ih =>
      rw [List.append_assoc, words_append_of_allBlank hbefore, words_append_word hword hrest, ih]

theorem exists_consistsOf (cs : List Char) : ∃ pieces, ConsistsOf cs pieces := by
  obtain ⟨before, hbefore, hcs⟩ := exists_blanks_append_stripLeft cs
  cases hleft : stripLeft cs with
  | nil =>
      rw [hleft, List.append_nil] at hcs
      exact ⟨[], hcs ▸ .blanks hbefore⟩
  | cons c more =>
      -- The first word goes on to the next blank, and what follows it is shorter.
      have hplain : isBlank c = false := startsPlain_stripLeft cs c (by rw [hleft]; rfl)
      have hsplit : cs = before ++ (c :: more.takeWhile isPlain) ++ more.dropWhile isPlain := by
        rw [List.append_assoc, List.cons_append, List.takeWhile_append_dropWhile, ← hleft]
        exact hcs
      have hword : IsWord (c :: more.takeWhile isPlain) := by
        refine ⟨List.cons_ne_nil _ _, fun d hd => ?_⟩
        rcases List.mem_cons.1 hd with rfl | hd
        · exact hplain
        · simpa [isPlain] using List.mem_takeWhile_imp hd
      have hrest : StartsBlank (more.dropWhile isPlain) := by
        intro d hd
        have hnot := List.head?_dropWhile_not isPlain more
        rw [hd] at hnot
        simpa [isPlain] using hnot
      have hshorter : (more.dropWhile isPlain).length < cs.length := by
        rw [hsplit]
        simp only [List.length_append, List.length_cons]
        omega
      obtain ⟨pieces, hpieces⟩ := exists_consistsOf (more.dropWhile isPlain)
      refine ⟨(c :: more.takeWhile isPlain) :: pieces, ?_⟩
      rw [hsplit]
      exact .word hbefore hword hrest hpieces
termination_by cs.length

/-- **The words of a text** are those of which it consists. -/
theorem words_eq_iff {cs : List Char} {pieces : List (List Char)} :
    words cs = pieces ↔ ConsistsOf cs pieces := by
  refine ⟨fun h => ?_, ConsistsOf.words_eq⟩
  obtain ⟨others, hothers⟩ := exists_consistsOf cs
  rw [← h, hothers.words_eq]
  exact hothers

end SchemaBridge.Text
