import SchemaBridge.Proofs.Patterns.Classes

/-!
# Translated patterns are read back

The translation of a pattern differs from the pattern in its anchors only. So its tokens are read
back one by one (`readsBack_pattern`) and put together to the expression of the pattern
(`Pattern.exists_parse`), in which each leaf is the set of characters that it is seen as. The two
anchors and the group around them make this expression the whole of what is read
(`Pattern.read?_normalizePattern_eq_some_iff`).
-/

set_option autoImplicit false

namespace SchemaBridge.Patterns

/-! ## Tokens are read back -/

/-- The token that the translation of a token is read as. -/
def Token.seen? : Token Leaf → Option (Token CharSet)
  | leaf l => l.seen?.map leaf
  | opening => some opening
  | closing => some closing
  | bar => some bar
  | quantifier q => some (quantifier q)
  | start => some start
  | finish => some finish

/-- The units that tokens are translated to. -/
def translated (tokens : List (Token Leaf)) : List PatternUnit :=
  (tokens.flatMap Token.units).map PatternUnit.escapeAnchor

/-- Tokens are read back one by one, whatever follows them. -/
def ReadsBack (tokens : List (Token Leaf)) : Prop :=
  ∀ rest, tokensFrom? none (translated tokens ++ rest) =
    (tokens.mapM Token.seen?).bind fun seen => (tokensFrom? none rest).map (seen ++ ·)

theorem translated_append (first second : List (Token Leaf)) :
    translated (first ++ second) = translated first ++ translated second := by
  rw [translated, List.flatMap_append, List.map_append]
  rfl

theorem ReadsBack.nil : ReadsBack [] := by
  intro rest
  cases h : tokensFrom? none rest <;> simp [translated, h]

theorem ReadsBack.append {first second : List (Token Leaf)} (hfirst : ReadsBack first)
    (hsecond : ReadsBack second) : ReadsBack (first ++ second) := by
  intro rest
  rw [translated_append, List.append_assoc, hfirst, hsecond, List.mapM_append]
  cases first.mapM Token.seen? with
  | none => rfl
  | some seen =>
      cases second.mapM Token.seen? with
      | none => rfl
      | some others =>
          cases tokensFrom? none rest with
          | none => rfl
          | some tail => simp

theorem ReadsBack.single {token : Token Leaf} {u : PatternUnit} {seen : Token CharSet}
    (hunits : token.units.map PatternUnit.escapeAnchor = [u]) (hbracket : u ≠ .single '[')
    (hgroup : u ≠ .single '(') (hread : token? u = some seen) (hseen : token.seen? = some seen) :
    ReadsBack [token] := by
  intro rest
  have htranslated : translated [token] = [u] := by
    rw [translated, List.flatMap_singleton, hunits]
  rw [htranslated, List.singleton_append, tokensFrom?_cons hbracket hgroup hread]
  simp [hseen]

theorem token?_escapeAnchor {u : PatternUnit} (h : isLiteral u = true) :
    token? u.escapeAnchor = some (.leaf (.one u.char)) := by
  cases u with
  | escaped c =>
      have hc : c ∈ syntaxCharacters := of_decide_eq_true h
      exact if_pos (List.mem_cons_of_mem _ hc)
  | single c =>
      have hc : c ∉ metacharacters := of_decide_eq_true h
      by_cases hanchor : c = '^' ∨ c = '$'
      · rcases hanchor with rfl | rfl <;> rfl
      · rw [PatternUnit.escapeAnchor, if_neg hanchor]
        have hsyntax : c ∉ syntaxCharacters := by
          simp only [syntaxCharacters, List.mem_cons, not_or]
          exact ⟨fun heq => hanchor (Or.inl heq), fun heq => hanchor (Or.inr heq), hc⟩
        unfold token?
        split <;> simp_all [syntaxCharacters, metacharacters, PatternUnit.char]

/-- A literal is translated to no unit with a meaning of its own. -/
theorem escapeAnchor_ne_of_isLiteral {u : PatternUnit} (h : isLiteral u = true) {c : Char}
    (hc : c ∈ metacharacters) : u.escapeAnchor ≠ .single c := by
  intro heq
  rw [(PatternUnit.escapeAnchor_eq_single_iff.1 heq).1] at h
  exact of_decide_eq_true h hc

/-- A leaf is read back as one token. -/
theorem readsBack_leaf (l : Leaf) : ReadsBack [.leaf l] := by
  cases l with
  | literal u valid =>
      exact ReadsBack.single rfl (escapeAnchor_ne_of_isLiteral valid (by decide))
        (escapeAnchor_ne_of_isLiteral valid (by decide)) (token?_escapeAnchor valid) rfl
  | charClass k =>
      intro rest
      have htranslated : translated [.leaf (.charClass k)] ++ rest =
          .single '[' :: (k.body.map PatternUnit.escapeAnchor ++ .single ']' :: rest) := by
        simp [translated, Token.units, Leaf.units, PatternUnit.escapeAnchor]
      have hclosing := single_not_mem_map_escapeAnchor
        (k.single_not_mem_body (by decide : ']' ∈ ['\\', '[', ']']))
      rw [htranslated, tokensFrom?, if_pos rfl, tokensFrom?_class hclosing, List.nil_append,
        classSet?_map_escapeAnchor]
      · cases hranges : ranges? (k.body.map PatternUnit.escapeAnchor) with
        | none => simp [Token.seen?, Leaf.seen?, hranges]
        | some ranges => simp [Token.seen?, Leaf.seen?, hranges]
      · simp

/-- A group is read back when its content is and does not begin with a quantifier, which would make
the bracket the beginning of something else. -/
theorem ReadsBack.group {tokens : List (Token Leaf)} (h : ReadsBack tokens)
    (hhead : ∀ rest, (translated tokens ++ PatternUnit.single ')' :: rest).head? ≠
      some (.single '?')) :
    ReadsBack (.opening :: tokens ++ [.closing]) := by
  intro rest
  have hclosing : ReadsBack [.closing] :=
    ReadsBack.single rfl (by decide) (by decide) rfl rfl
  have hclosed := (h.append hclosing) rest
  have htranslated : translated (.opening :: tokens ++ [.closing]) ++ rest =
      .single '(' :: (translated (tokens ++ [.closing]) ++ rest) := rfl
  have hnot : ∀ tail, translated (tokens ++ [.closing]) ++ rest ≠
      .single '?' :: .single ':' :: tail := by
    intro tail heq
    apply hhead rest
    rw [translated_append, List.append_assoc] at heq
    exact congrArg List.head? heq
  rw [htranslated, tokensFrom?]
  · rw [if_neg (by decide), hclosed, List.cons_append, List.mapM_cons]
    cases (tokens ++ [Token.closing]).mapM Token.seen? with
    | none => rfl
    | some seen => cases tokensFrom? none rest <;> rfl
  · rintro tail - heq
    exact hnot tail heq

/-! ## Patterns are read back -/

/-- No atom begins with a question mark. -/
theorem Atom.head?_ne_question (atom : Atom) (rest : List PatternUnit) :
    (translated atom.tokens ++ rest).head? ≠ some (.single '?') := by
  cases atom with
  | leaf l =>
      cases l with
      | literal u valid =>
          intro heq
          exact escapeAnchor_ne_of_isLiteral valid (by decide) (Option.some.inj heq)
      | charClass k =>
          intro heq
          cases heq
  | group p =>
      intro heq
      cases heq

theorem Branch.head?_ne_question (branch : Branch) {rest : List PatternUnit}
    (h : rest.head? ≠ some (.single '?')) :
    (translated branch.tokens ++ rest).head? ≠ some (.single '?') := by
  cases branch with
  | nil => exact h
  | cons atom quantifier? others =>
      rw [Branch.tokens, translated_append, List.append_assoc]
      exact atom.head?_ne_question _

theorem Pattern.head?_ne_question (p : Pattern) {rest : List PatternUnit}
    (h : rest.head? ≠ some (.single '?')) :
    (translated p.tokens ++ rest).head? ≠ some (.single '?') := by
  cases p with
  | single branch => exact branch.head?_ne_question h
  | either branch others =>
      rw [Pattern.tokens, translated_append, List.append_assoc]
      apply branch.head?_ne_question
      intro heq
      cases heq

theorem readsBack_quantifier (quantifier? : Option Quantifier) :
    ReadsBack (quantifier?.toList.map .quantifier) := by
  cases quantifier? with
  | none => exact ReadsBack.nil
  | some q => cases q <;> exact ReadsBack.single rfl (by decide) (by decide) rfl rfl

mutual

/-- **A pattern is read back**: its structure as it is, and each leaf as it is seen. -/
theorem readsBack_pattern (p : Pattern) : ReadsBack p.tokens := by
  cases p with
  | single branch => exact readsBack_branch branch
  | either branch others =>
      have hbar : ReadsBack [.bar] := ReadsBack.single rfl (by decide) (by decide) rfl rfl
      exact (readsBack_branch branch).append (hbar.append (readsBack_pattern others))

theorem readsBack_branch (branch : Branch) : ReadsBack branch.tokens := by
  cases branch with
  | nil => exact ReadsBack.nil
  | cons atom quantifier? others =>
      exact (readsBack_atom atom).append
        ((readsBack_quantifier quantifier?).append (readsBack_branch others))

theorem readsBack_atom (atom : Atom) : ReadsBack atom.tokens := by
  cases atom with
  | leaf l => exact readsBack_leaf l
  | group p =>
      apply (readsBack_pattern p).group
      intro rest
      apply p.head?_ne_question
      intro heq
      cases heq

end

/-! ## From tokens to expressions -/

mutual

/-- The expression of a pattern, after alternatives that stand before it. -/
def Pattern.regexAfter (read : Leaf → CharSet) (earlier? : Option Regex) : Pattern → Regex
  | .single branch => Frame.joined earlier? (branch.regexAfter read .empty)
  | .either branch others =>
      others.regexAfter read (some (Frame.joined earlier? (branch.regexAfter read .empty)))

/-- The expression of a branch, after what stands before it. -/
def Branch.regexAfter (read : Leaf → CharSet) (before : Regex) : Branch → Regex
  | .nil => before
  | .cons atom none others => others.regexAfter read (.seq before (atom.regex read))
  | .cons atom (some q) others => others.regexAfter read (.seq before (q.applied (atom.regex read)))

/-- The expression of an atom. -/
def Atom.regex (read : Leaf → CharSet) : Atom → Regex
  | .leaf l => .chars (read l)
  | .group p => p.regexAfter read none

end

section Parsing

variable {read : Leaf → CharSet}

mutual

/-- The tokens of a pattern are put together to its expression. -/
theorem Pattern.exists_parse (p : Pattern) (earlier? : Option Regex)
    (rest : List (Token CharSet)) (stack : List Frame) :
    ∃ frame : Frame, frame.closed = p.regexAfter read earlier? ∧
      parse (p.tokens.map (Token.map read) ++ rest) { earlier? := earlier? } stack =
        parse rest frame stack := by
  cases p with
  | single branch =>
      obtain ⟨frame, hearlier, hcurrent, hparse⟩ :=
        branch.exists_parse { earlier? := earlier? } rest stack
      refine ⟨frame, ?_, hparse⟩
      rw [Frame.closed, hearlier, hcurrent]
      rfl
  | either branch others =>
      obtain ⟨frame, hearlier, hcurrent, hparse⟩ :=
        branch.exists_parse { earlier? := earlier? }
          (.bar :: (others.tokens.map (Token.map read) ++ rest)) stack
      have hclosed : frame.closed =
          Frame.joined earlier? (branch.regexAfter read .empty) := by
        rw [Frame.closed, hearlier, hcurrent]
        rfl
      obtain ⟨last, hlast, hothers⟩ := others.exists_parse (some frame.closed) rest stack
      refine ⟨last, ?_, ?_⟩
      · rw [hlast, hclosed]
        rfl
      · rw [Pattern.tokens, List.map_append, List.append_assoc]
        exact hparse.trans hothers

/-- A branch goes on with what the frame holds. -/
theorem Branch.exists_parse (branch : Branch) (frame : Frame) (rest : List (Token CharSet))
    (stack : List Frame) :
    ∃ last : Frame, last.earlier? = frame.earlier? ∧
      last.current = branch.regexAfter read frame.current ∧
      parse (branch.tokens.map (Token.map read) ++ rest) frame stack = parse rest last stack := by
  cases branch with
  | nil => exact ⟨frame, rfl, rfl, rfl⟩
  | cons atom quantifier? others =>
      cases quantifier? with
      | none =>
          obtain ⟨last, hearlier, hcurrent, hparse⟩ :=
            others.exists_parse (frame.push (atom.regex read)) rest stack
          refine ⟨last, hearlier, hcurrent, ?_⟩
          rw [Branch.tokens, List.map_append, List.append_assoc, atom.parse_eq]
          exact hparse
      | some q =>
          -- The quantifier takes the atom that has just been pushed.
          obtain ⟨last, hearlier, hcurrent, hparse⟩ :=
            others.exists_parse
              { frame with
                before := .seq frame.current (q.applied (atom.regex read)), atom? := none }
              rest stack
          refine ⟨last, hearlier, hcurrent, ?_⟩
          rw [Branch.tokens, List.map_append, List.append_assoc, atom.parse_eq]
          exact hparse

/-- An atom is pushed. -/
theorem Atom.parse_eq (atom : Atom) (frame : Frame) (rest : List (Token CharSet))
    (stack : List Frame) :
    parse (atom.tokens.map (Token.map read) ++ rest) frame stack =
      parse rest (frame.push (atom.regex read)) stack := by
  cases atom with
  | leaf l => rfl
  | group p =>
      obtain ⟨inner, hclosed, hparse⟩ := p.exists_parse none (.closing :: rest) (frame :: stack)
      rw [Atom.regex, ← hclosed, Atom.tokens, List.cons_append, List.map_cons, List.map_append,
        List.cons_append, List.append_assoc]
      exact hparse

end

end Parsing

/-! ## The translation of a pattern is read -/

/-- The set that a leaf is seen as, where it is read at all. -/
def Leaf.seen (l : Leaf) : CharSet := l.seen?.getD l.meant

theorem Leaf.seen_of_seen? {l : Leaf} {set : CharSet} (h : l.seen? = some set) : l.seen = set := by
  rw [Leaf.seen, h, Option.getD_some]

theorem Token.seen?_eq_some_iff {token : Token Leaf} {seen : Token CharSet} :
    token.seen? = some seen ↔
      (∀ l, token = .leaf l → l.seen?.isSome) ∧ seen = token.map Leaf.seen := by
  cases token with
  | leaf l =>
      rw [Token.seen?, Option.map_eq_some_iff]
      constructor
      · rintro ⟨set, hset, rfl⟩
        refine ⟨?_, by rw [Token.map, Leaf.seen_of_seen? hset]⟩
        rintro _ ⟨⟩
        exact Option.isSome_iff_exists.2 ⟨set, hset⟩
      · rintro ⟨hread, rfl⟩
        obtain ⟨set, hset⟩ := Option.isSome_iff_exists.1 (hread l rfl)
        exact ⟨set, hset, by rw [Token.map, Leaf.seen_of_seen? hset]⟩
  | _ =>
      simp only [Token.seen?, Token.map, Option.some.injEq, reduceCtorEq, false_implies,
        implies_true, true_and]
      exact eq_comm

theorem mapM_seen?_eq_some_iff {tokens : List (Token Leaf)} {seen : List (Token CharSet)} :
    tokens.mapM Token.seen? = some seen ↔
      (∀ l, .leaf l ∈ tokens → l.seen?.isSome) ∧ seen = tokens.map (Token.map Leaf.seen) := by
  induction tokens generalizing seen with
  | nil =>
      simp only [List.mapM_nil, Option.pure_def, Option.some.injEq, List.not_mem_nil,
        false_implies, implies_true, true_and, List.map_nil]
      exact eq_comm
  | cons token tokens ih =>
      simp only [List.mapM_cons, Option.bind_eq_bind, Option.bind_eq_some_iff,
        Token.seen?_eq_some_iff, ih, Option.pure_def, Option.some.injEq]
      constructor
      · rintro ⟨_, ⟨htoken, rfl⟩, _, ⟨htokens, rfl⟩, rfl⟩
        refine ⟨?_, rfl⟩
        intro l hl
        rcases List.mem_cons.1 hl with heq | hl
        · exact htoken l heq.symm
        · exact htokens l hl
      · rintro ⟨hread, rfl⟩
        refine ⟨_, ⟨?_, rfl⟩, _, ⟨?_, rfl⟩, rfl⟩
        · rintro l rfl
          exact hread l (List.mem_cons_self ..)
        · exact fun l hl => hread l (List.mem_cons_of_mem _ hl)

namespace Pattern

/-- A backslash never stands alone in a pattern. -/
theorem backslash_not_mem_units (p : Pattern) : .single '\\' ∉ p.units := by
  intro hmem
  obtain ⟨token, -, hunit⟩ := List.mem_flatMap.1 hmem
  cases token with
  | leaf l =>
      cases l with
      | literal u valid =>
          rw [← List.mem_singleton.1 hunit] at valid
          exact absurd valid (by decide)
      | charClass k =>
          have hbody := k.single_not_mem_body (by decide : '\\' ∈ ['\\', '[', ']'])
          simp [Token.units, Leaf.units, hbody] at hunit
  | quantifier q => cases q <;> simp [Token.units, Quantifier.symbol] at hunit
  | _ => simp [Token.units] at hunit

/-- The units of the translation. -/
theorem units_normalizePattern (p : Pattern) :
    SchemaBridge.units (normalizePattern p.text).toList =
      .single '^' :: .single '(' :: .single '?' :: .single ':' ::
        (translated p.tokens ++ [.single ')', .single '$']) := by
  have hescaped : (escapedPattern p.text).toList = spell (translated p.tokens) := by
    rw [escapedPattern, String.toList_ofList, text, String.toList_ofList, escapeAnchors_eq_spell,
      units_spell p.backslash_not_mem_units]
    rfl
  have hspelled : (normalizePattern p.text).toList =
      spell (.single '^' :: .single '(' :: .single '?' :: .single ':' ::
        (translated p.tokens ++ [.single ')', .single '$'])) := by
    rw [normalizePattern, String.toList_append, String.toList_append, hescaped]
    simp [spell, PatternUnit.chars]
  have htranslated : .single '\\' ∉ translated p.tokens :=
    single_not_mem_map_escapeAnchor p.backslash_not_mem_units
  rw [hspelled, units_spell]
  simpa using htranslated

/-- The leaves of the translation can be read. -/
def IsReadable (p : Pattern) : Prop := ∀ l, p.HasLeaf l → l.seen?.isSome

/-- **The translation is read as the pattern between anchors**, its leaves as they are seen. -/
theorem read?_normalizePattern_eq_some_iff {p : Pattern} {r : Regex} :
    read? (normalizePattern p.text) = some r ↔
      p.IsReadable ∧ r = (p.regexAfter Leaf.seen none).anchored := by
  have htokens : tokensFrom? none (SchemaBridge.units (normalizePattern p.text).toList) =
      (p.tokens.mapM Token.seen?).map fun seen =>
        .start :: .opening :: (seen ++ [.closing, .finish]) := by
    have hstart : token? (.single '^') = some .start := rfl
    have hbody := readsBack_pattern p [.single ')', .single '$']
    rw [units_normalizePattern, tokensFrom?_cons (by decide) (by decide) hstart, tokensFrom?, hbody]
    cases p.tokens.mapM Token.seen? <;> rfl
  -- Reading the tokens of the pattern gives a frame whose alternatives are the pattern.
  have hparse : parse
      (.start :: .opening :: (p.tokens.map (Token.map Leaf.seen) ++ [.closing, .finish])) {} [] =
      some (p.regexAfter Leaf.seen none).anchored := by
    obtain ⟨frame, hclosed, hrest⟩ :=
      @Pattern.exists_parse Leaf.seen p none [.closing, .finish] [Frame.settle {} .start]
    rw [parse, parse, hrest, ← hclosed]
    rfl
  simp only [read?, htokens, Option.bind_eq_bind, Option.bind_map, Option.bind_eq_some_iff,
    mapM_seen?_eq_some_iff, Function.comp_apply]
  constructor
  · rintro ⟨_, ⟨hreadable, rfl⟩, hr⟩
    rw [hparse] at hr
    exact ⟨hreadable, (Option.some.inj hr).symm⟩
  · rintro ⟨hreadable, rfl⟩
    exact ⟨_, ⟨hreadable, rfl⟩, hparse⟩

end Pattern

end SchemaBridge.Patterns
