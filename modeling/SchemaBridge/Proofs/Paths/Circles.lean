import SchemaBridge.Proofs.JsonSchema.Written
import SchemaBridge.Proofs.Paths.Chain

/-!
# Circles of groups

Where a chain of declarations enters a group it goes on in the content of the group, whatever lies
above. So a chain that enters a group twice can be led round again between the two entries
(`Descends.again`), and what it enters in between it then enters twice.

In a schema in which no chain enters a type twice (`Schema.TypesAcyclic`) a circle can therefore go
through groups and inline types only. The guard of a definition stays closed on such a circle, so a
chain that it admits enters nothing twice (`Chain.nodup_of_admits`).
-/

set_option autoImplicit false

namespace SchemaBridge

open Xsd

/-- No chain of declarations enters a named type twice. -/
def Xsd.Schema.TypesAcyclic (schema : Schema) : Prop :=
  ∀ path entries element inSequence repeats,
    DeclaredChain (Registry.ofSchema schema) schema path entries element inSequence repeats →
      (definitionsOf entries).Nodup

/-! ## Elements below a group -/

section Links

variable (registry : Registry)

/-- The elements that a sequence declares, with the entries on the way. -/
def Xsd.Sequence.Links (content : Sequence) (entries : List Entry) (element : Element) : Prop :=
  ∃ repeats, content.Declares registry entries repeats element

/-- The elements in the content of a type. -/
def Xsd.ComplexType.Links (type : ComplexType) (entries : List Entry) (element : Element) : Prop :=
  ∃ repeats, type.Declares registry entries repeats element

/-- The elements in the content of an element. -/
def Xsd.Element.Links (outer : Element) (entries : List Entry) (element : Element) : Prop :=
  ∃ repeats, outer.Declares registry entries repeats element

/-- The top-level elements of a schema, below no entries. -/
def Xsd.Schema.Links (schema : Schema) (entries : List Entry) (element : Element) : Prop :=
  entries = [] ∧ element ∈ schema.elements

/-- An element below a group stands in the content of the group, and what else stands in that
content is linked below the group as well. -/
def PassesGroup (links : List Entry → Element → Prop) (above : List Entry) (name : String)
    (rest : List Entry) (element : Element) : Prop :=
  ∃ content, (registry.groups.value? name).bind Group.sequence? = some content ∧
    content.Links registry rest element ∧
    ∀ below inner, content.Links registry below inner →
      links (above ++ (.group, name) :: below) inner

/-- Every link below a group passes through the content of the group. -/
def PassesGroups (links : List Entry → Element → Prop) : Prop :=
  ∀ above name rest element, links (above ++ (.group, name) :: rest) element →
    PassesGroup registry links above name rest element

end Links

variable {registry : Registry}

/-- What passes through a group below some entries does so below more of them. -/
theorem PassesGroup.below {links other : List Entry → Element → Prop} {above rest : List Entry}
    {name : String} {element : Element} (first : List Entry)
    (h : PassesGroup registry other above name rest element)
    (hlinks : ∀ entries inner, other entries inner → links (first ++ entries) inner) :
    PassesGroup registry links (first ++ above) name rest element := by
  obtain ⟨content, hvalue, hcontent, hagain⟩ := h
  refine ⟨content, hvalue, hcontent, fun below inner hinner => ?_⟩
  rw [List.append_assoc]
  exact hlinks _ inner (hagain below inner hinner)

theorem Xsd.Sequence.passesGroups (sequence : Sequence) :
    PassesGroups registry (sequence.Links registry) := by
  rintro above name rest element ⟨repeats, h⟩
  -- Below a sequence all entries are groups, and the first one leads into its content.
  induction above generalizing sequence repeats with
  | nil =>
      cases h with
      | group href hname hcontent h =>
          refine ⟨_, hcontent, ⟨_, h⟩, ?_⟩
          rintro below inner ⟨_, hinner⟩
          exact ⟨_, .group href hname hcontent hinner⟩
  | cons entry above ih =>
      cases h with
      | group href hname hcontent h =>
          refine (ih _ _ h).below [_] ?_
          rintro entries inner ⟨_, hinner⟩
          exact ⟨_, .group href hname hcontent hinner⟩

theorem Xsd.ComplexType.passesGroups (type : ComplexType) :
    PassesGroups registry (type.Links registry) := by
  rintro above name rest element ⟨repeats, h⟩
  generalize hentries : above ++ (.group, name) :: rest = entries at h
  -- The induction follows bases; a sequence adds no entry of its own.
  induction h generalizing above with
  | own hsequence h =>
      subst hentries
      refine (Sequence.passesGroups _ above name rest _ ⟨_, h⟩).below [] ?_
      rintro entries inner ⟨_, hinner⟩
      exact ⟨_, .own hsequence hinner⟩
  | extension hextension hsequence h =>
      subst hentries
      refine (Sequence.passesGroups _ above name rest _ ⟨_, h⟩).below [] ?_
      rintro entries inner ⟨_, hinner⟩
      exact ⟨_, .extension hextension hsequence hinner⟩
  | base hextension hname hbase _ ih =>
      -- The base is no group, so the group is entered after it.
      cases above with
      | nil => cases hentries
      | cons entry above =>
          cases hentries
          refine (ih above rfl).below [_] ?_
          rintro entries inner ⟨_, hinner⟩
          exact ⟨_, .base hextension hname hbase hinner⟩

/-- A group is not the entry of a type. -/
theorem Xsd.ComplexType.entry_append_eq_iff {type : ComplexType} {above entries rest : List Entry}
    {name : String} (h : above ++ (.group, name) :: rest = type.entry ++ entries) :
    ∃ inner, above = type.entry ++ inner ∧ entries = inner ++ (.group, name) :: rest := by
  unfold ComplexType.entry at h ⊢
  cases htype : type.name? with
  | none =>
      rw [htype] at h
      exact ⟨above, rfl, h.symm⟩
  | some typeName =>
      rw [htype] at h
      cases above with
      | nil => cases h
      | cons entry above =>
          cases h
          exact ⟨above, rfl, rfl⟩

theorem Xsd.Element.passesGroups (outer : Element) :
    PassesGroups registry (outer.Links registry) := by
  rintro above name rest element ⟨repeats, h⟩
  generalize hentries : above ++ (.group, name) :: rest = entries at h
  cases h with
  | @inline type _ _ _ htype h =>
      obtain ⟨above, rfl, rfl⟩ := ComplexType.entry_append_eq_iff hentries
      refine (ComplexType.passesGroups type above name rest element ⟨_, h⟩).below type.entry ?_
      rintro entries inner ⟨_, hinner⟩
      exact ⟨_, .inline htype hinner⟩
  | named hinline hname htype h =>
      cases above with
      | nil => cases hentries
      | cons entry above =>
          cases hentries
          refine (ComplexType.passesGroups _ above name rest element ⟨_, h⟩).below [_] ?_
          rintro entries inner ⟨_, hinner⟩
          exact ⟨_, .named hinline hname htype hinner⟩

theorem Xsd.Schema.passesGroups (schema : Schema) : PassesGroups registry schema.Links := by
  rintro above name rest element ⟨h, -⟩
  simp at h

/-! ## Descents -/

/-- A descent goes from linked elements down through the contents of elements with names. -/
inductive Descends (registry : Registry) (links : List Entry → Element → Prop) :
    List Entry → Element → Prop where
  | start {entries : List Entry} {element : Element} (h : links entries element)
      (hname : (nonempty? element.name?).isSome) : Descends registry links entries element
  | next {entries below : List Entry} {outer element : Element}
      (houter : Descends registry links entries outer) (h : outer.Links registry below element)
      (hname : (nonempty? element.name?).isSome) :
      Descends registry links (entries ++ below) element

/-- A descent below a group starts again from the content of the group, and every descent from that
content goes on below the group. -/
def Descends.Splits (registry : Registry) (links : List Entry → Element → Prop)
    (above : List Entry) (name : String) (rest : List Entry) (element : Element) : Prop :=
  ∃ content, (registry.groups.value? name).bind Group.sequence? = some content ∧
    Descends registry (content.Links registry) rest element ∧
    ∀ entries inner, Descends registry (content.Links registry) entries inner →
      Descends registry links (above ++ (.group, name) :: entries) inner

namespace Descends

variable {links other : List Entry → Element → Prop} {above mid rest : List Entry} {name : String}
  {element : Element}

/-- A descent goes on where another one comes. -/
theorem trans (h : Descends registry other rest element)
    (hlinks : ∀ entries inner, other entries inner → (nonempty? inner.name?).isSome →
      Descends registry links (above ++ entries) inner) :
    Descends registry links (above ++ rest) element := by
  induction h with
  | start h hname => exact hlinks _ _ h hname
  | next _ h hname ih =>
      rw [← List.append_assoc]
      exact .next ih h hname

/-- A descent splits at a group through which its last links pass. -/
theorem splits_of_passesGroup (first : List Entry)
    (h : PassesGroup registry other above name rest element)
    (hname : (nonempty? element.name?).isSome)
    (hlinks : ∀ entries inner, other entries inner → (nonempty? inner.name?).isSome →
      Descends registry links (first ++ entries) inner) :
    Splits registry links (first ++ above) name rest element := by
  obtain ⟨content, hvalue, hcontent, hagain⟩ := h
  refine ⟨content, hvalue, .start hcontent hname, fun entries inner hinner => ?_⟩
  rw [List.append_cons]
  refine hinner.trans fun below found hfound hfoundName => ?_
  rw [← List.append_cons, List.append_assoc]
  exact hlinks _ found (hagain below found hfound) hfoundName

/-- **A descent splits at every group that it enters.** -/
theorem splits (hlinks : PassesGroups registry links)
    (h : Descends registry links (above ++ (.group, name) :: rest) element) :
    Splits registry links above name rest element := by
  generalize hentries : above ++ (.group, name) :: rest = entries at h
  -- The induction keeps what lies above the group and takes links off below it.
  induction h generalizing rest with
  | start h hname =>
      subst hentries
      exact splits_of_passesGroup [] (hlinks above name rest _ h) hname fun _ _ => .start
  | @next entries below outer element houter h hname ih =>
      have hlast : ∀ inner, above = entries ++ inner → below = inner ++ (.group, name) :: rest →
          Splits registry links above name rest element := by
        rintro inner rfl rfl
        exact splits_of_passesGroup entries (outer.passesGroups inner name rest element h) hname
          fun _ _ => houter.next
      -- The group is entered in the last link or above it.
      rcases List.append_eq_append_iff.1 hentries with ⟨inner, rfl, hbelow⟩ | ⟨inner, habove, hrest⟩
      · cases inner with
        | nil => exact hlast [] (by simp) hbelow.symm
        | cons entry inner =>
            cases hbelow
            obtain ⟨content, hvalue, hcontent, hagain⟩ := ih rfl
            exact ⟨content, hvalue, .next hcontent h hname, hagain⟩
      · exact hlast inner habove hrest

/-- **A circle can be taken again**: between two entries of a group. -/
theorem again (hlinks : PassesGroups registry links)
    (h : Descends registry links (above ++ (.group, name) :: (mid ++ (.group, name) :: rest))
      element) :
    Descends registry links
      (above ++ (.group, name) :: (mid ++ (.group, name) :: (mid ++ (.group, name) :: rest)))
      element := by
  obtain ⟨content, hvalue, hfirst, hround⟩ := h.splits hlinks
  obtain ⟨found, hfound, -, hsecond⟩ := hfirst.splits content.passesGroups
  -- Both entries lead into the same content, so the way round can start from the second.
  cases hvalue.symm.trans hfound
  exact hround _ _ (hsecond _ _ hfirst)

end Descends

/-! ## Chains -/

namespace Chain

variable {schema : Schema} {path : List String} {entries : List Entry} {element : Element}
  {inSequence repeats : Bool}

theorem descends (h : DeclaredChain registry schema path entries element inSequence repeats) :
    Descends registry schema.Links entries element := by
  induction h with
  | root helement hname => exact .start ⟨rfl, helement⟩ (by rw [hname, Option.isSome_some])
  | next _ h hname ih => exact .next ih ⟨_, h⟩ (by rw [hname, Option.isSome_some])

theorem exists_of_descends (h : Descends registry schema.Links entries element) :
    ∃ path inSequence repeats,
      DeclaredChain registry schema path entries element inSequence repeats := by
  induction h with
  | start h hname =>
      obtain ⟨rfl, helement⟩ := h
      obtain ⟨name, hname⟩ := Option.isSome_iff_exists.1 hname
      exact ⟨_, _, _, .root helement hname⟩
  | next _ h hname ih =>
      obtain ⟨path, inSequence, repeated, hchain⟩ := ih
      obtain ⟨repeats, h⟩ := h
      obtain ⟨name, hname⟩ := Option.isSome_iff_exists.1 hname
      exact ⟨_, _, _, .next hchain h hname⟩

end Chain

/-- A list has repetitions exactly when some entry comes twice. -/
theorem not_nodup_iff_exists_twice {α : Type} {list : List α} :
    ¬ list.Nodup ↔ ∃ above a mid rest, list = above ++ a :: (mid ++ a :: rest) := by
  constructor
  · intro h
    induction list with
    | nil => exact absurd List.nodup_nil h
    | cons first list ih =>
        by_cases hmem : first ∈ list
        · obtain ⟨mid, rest, rfl⟩ := List.append_of_mem hmem
          exact ⟨[], first, mid, rest, rfl⟩
        · obtain ⟨above, a, mid, rest, rfl⟩ := ih fun hlist => h (List.nodup_cons.2 ⟨hmem, hlist⟩)
          exact ⟨first :: above, a, mid, rest, rfl⟩
  · rintro ⟨above, a, mid, rest, rfl⟩ h
    have htwice := (List.nodup_append.1 h).2.1
    simp at htwice

theorem Xsd.definitionsOf_group (name : String) (rest : List Entry) :
    definitionsOf ((.group, name) :: rest) = definitionsOf rest := rfl

/-- The guard of a definition refuses a group twice. -/
theorem Xsd.OpenNames.not_admits_twice {names : OpenNames} {above mid rest : List Entry}
    {name : String} (hmid : definitionsOf mid = []) :
    ¬ names.Admits (above ++ (.group, name) :: (mid ++ (.group, name) :: rest)) := by
  intro h
  have hgroups : ∀ entry ∈ (.group, name) :: (mid ++ [(.group, name)]), entry.1 = .group := by
    have hmid : ∀ entry ∈ mid, entry.1 = .group := by
      simpa [definitionsOf, List.filter_eq_nil_iff] using hmid
    simpa [or_imp, forall_and] using hmid
  -- Up to the second entry no definition starts anew.
  rw [admits_append, List.append_cons, ← List.cons_append, admits_append,
    admits_groups _ hgroups] at h
  exact not_nodup_iff_exists_twice.2 ⟨[], _, mid, [], rfl⟩ h.2.1.1

/-- **A chain that the guard of the definitions admits enters nothing twice**, when no chain enters
a type twice. -/
theorem Chain.nodup_of_admits {schema : Schema} (hacyclic : schema.TypesAcyclic)
    {path : List String} {entries : List Entry} {element : Element} {inSequence repeats : Bool}
    (h : DeclaredChain (Registry.ofSchema schema) schema path entries element inSequence repeats)
    (hadmits : ({} : OpenNames).Admits entries) : entries.Nodup := by
  refine Classical.byContradiction fun hnodup => ?_
  obtain ⟨above, ⟨kind, name⟩, mid, rest, rfl⟩ := not_nodup_iff_exists_twice.1 hnodup
  by_cases hkind : kind = .group
  · subst hkind
    -- The chain that goes round again enters the types on the circle twice, so there are none.
    obtain ⟨_, _, _, hagain⟩ := exists_of_descends (h.descends.again schema.passesGroups)
    have htypes := hacyclic _ _ _ _ _ hagain
    simp only [definitionsOf_append, definitionsOf_group] at htypes
    have hmid : definitionsOf mid = [] := by
      cases hdefinitions : definitionsOf mid with
      | nil => rfl
      | cons first more =>
          rw [hdefinitions] at htypes
          exact absurd htypes (not_nodup_iff_exists_twice.2 ⟨_, first, more, _, rfl⟩)
    exact OpenNames.not_admits_twice hmid hadmits
  · have htypes := hacyclic _ _ _ _ _ h
    simp only [definitionsOf_append, definitionsOf_definition hkind] at htypes
    exact not_nodup_iff_exists_twice.2 ⟨_, name, _, _, rfl⟩ htypes

end SchemaBridge
