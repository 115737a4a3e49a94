import SchemaBridge.Paths.Visits
import SchemaBridge.Proofs.Xsd.Declares

/-!
# The meaning of derived paths

A chain leads from a top-level element down to an element, each link declared in the content of the
link before. It records the names of its elements and the named declarations that it enters, and it
may go round in circles as often as it likes.

A derived path is what a chain spells that enters nothing twice: the visits of a schema are exactly
those chains (`Schema.exists_mem_visits_iff`). For array paths the last element must also be one
that the options make an array of, which `Options.Classifies` says without reference to a visit
(`Document.mem_arrayPaths_iff_chain`).
-/

set_option autoImplicit false

namespace SchemaBridge

open Xsd

/-! ## Chains of declarations -/

/-- A chain of element declarations, each link by a relation that says which elements an element
leads to, along which entries, and whether a reference on the way repeats. The chain has the names
from a top-level element down, the entries on the way, and the last element, which stands in a
sequence or at the top, below a reference that repeats or not. -/
inductive Chain (leads : Element → List Entry → Bool → Element → Prop) (schema : Schema) :
    List String → List Entry → Element → Bool → Bool → Prop where
  /-- A top-level element. -/
  | root {element : Element} {name : String} (h : element ∈ schema.elements)
      (hname : nonempty? element.name? = some name) :
      Chain leads schema [name] [] element false false
  /-- An element to which the last one leads. -/
  | next {path : List String} {entries below : List Entry} {outer element : Element}
      {inSequence repeated repeats : Bool} {name : String}
      (hchain : Chain leads schema path entries outer inSequence repeated)
      (h : leads outer below repeats element)
      (hname : nonempty? element.name? = some name) :
      Chain leads schema (path ++ [name]) (entries ++ below) element true repeats

theorem Chain.path_ne_nil {leads : Element → List Entry → Bool → Element → Prop} {schema : Schema}
    {path : List String} {entries : List Entry} {element : Element} {inSequence repeats : Bool}
    (h : Chain leads schema path entries element inSequence repeats) : path ≠ [] := by
  cases h with
  | root => exact List.cons_ne_nil _ _
  | next => exact List.append_ne_nil_of_right_ne_nil _ (List.cons_ne_nil _ _)

theorem Chain.exists_name {leads : Element → List Entry → Bool → Element → Prop} {schema : Schema}
    {path : List String} {entries : List Entry} {element : Element} {inSequence repeats : Bool}
    (h : Chain leads schema path entries element inSequence repeats) :
    ∃ name, nonempty? element.name? = some name := by
  cases h with
  | root _ hname => exact ⟨_, hname⟩
  | next _ _ hname => exact ⟨_, hname⟩

/-- A chain whose links are each declared in the content of the link before. -/
abbrev DeclaredChain (registry : Registry) (schema : Schema) :
    List String → List Entry → Element → Bool → Bool → Prop :=
  Chain (Element.Declares registry) schema

/-- The options make an array of an element: a reference above it repeats and all repeating elements
become arrays, or it stands in a sequence, has no upper bound, and either all such elements become
arrays or its name is listed. -/
def Options.Classifies (options : Options) (element : Element) (inSequence repeats : Bool) : Prop :=
  (repeats = true ∧ options.treatUnboundedAsArray = true) ∨
    (inSequence = true ∧ element.occurs.max? = some "unbounded" ∧
      (options.treatUnboundedAsArray = true ∨
        ∃ name ∈ options.arrayElementNames, element.name? = some name))

theorem Options.classifies_iff (options : Options) (element : Element)
    (inSequence repeats : Bool) :
    options.Classifies element inSequence repeats ↔
      (options.forcesArray repeats || options.isArrayElement element inSequence) = true := by
  simp only [Options.Classifies, Options.forcesArray, Options.isArrayElement, Occurs.isUnbounded,
    Bool.or_eq_true, Bool.and_eq_true, decide_eq_true_eq, and_assoc]
  cases element.name? with
  | none => simp
  | some name => simp [Options.isArrayName]

/-! ## Visits are chains -/

/-- The type of an element is a list: an inline one, or a registered one that restrictions lead to
without entering a type that is open. -/
def Xsd.Element.IsList (registry : Registry) (names : OpenNames) (element : Element) : Prop :=
  (∃ type, element.simpleType? = some type ∧ type.list?.isSome) ∨
    ∃ type, registry.simpleType? element.typeName? = some type ∧
      (resolveListType? registry names type).isSome

theorem Visit.isList_iff (registry : Registry) (v : Visit) :
    v.isList registry = true ↔ v.member.element.IsList registry v.member.names := by
  simp only [Visit.isList, Xsd.Element.IsList, Bool.or_eq_true, Option.isSome_bind,
    Option.any_eq_true]

/-- The visits of a member, without the bookkeeping of their termination. -/
theorem visitsBelow_eq (registry : Registry) (path : List String) (inSequence : Bool) (m : Member) :
    visitsBelow registry path inSequence m =
      match nonempty? m.element.name? with
      | none => []
      | some name =>
          { path := path ++ [name], member := m, inSequence } ::
            (m.element.contentMembers registry m.names).flatMap
              (visitsBelow registry (path ++ [name]) true) := by
  rw [visitsBelow]
  cases nonempty? m.element.name? with
  | none => rfl
  | some name => simp

/-- The visits below a member continue any chain that ends at it. -/
theorem exists_chain_of_mem_visitsBelow {registry : Registry} {schema : Schema}
    {names : OpenNames} {path : List String} {inSequence : Bool} {m : Member} {entries : List Entry}
    {v : Visit} (hv : v ∈ visitsBelow registry path inSequence m)
    (hchain : ∀ name, nonempty? m.element.name? = some name →
      DeclaredChain registry schema (path ++ [name]) entries m.element inSequence m.repeats)
    (hfresh : names.Fresh entries) (hnames : m.names = names.enterAll entries) :
    ∃ all,
      DeclaredChain registry schema v.path all v.member.element v.inSequence v.member.repeats ∧
      names.Fresh all ∧ v.member.names = names.enterAll all := by
  -- The induction is on the walk; the chain above it grows at its end.
  induction path, inSequence, m using visitsBelow.induct registry generalizing entries with
  | case1 path inSequence m hname =>
      rw [visitsBelow_eq] at hv
      simp [hname] at hv
  | case2 path inSequence m name hname ih =>
      rw [visitsBelow_eq] at hv
      simp only [hname, List.mem_cons, List.mem_flatMap] at hv
      rcases hv with rfl | ⟨below, hbelow, hv⟩
      · exact ⟨entries, hchain name hname, hfresh, hnames⟩
      · obtain ⟨inner, hdecl, hinner, hbelownames⟩ := Element.mem_contentMembers_iff.1
          ⟨below.optional, hbelow⟩
        rw [hnames] at hinner hbelownames
        refine ih ⟨below, hbelow⟩ hv ?_ ((OpenNames.fresh_append ..).2 ⟨hfresh, hinner⟩) ?_
        · intro name' hname'
          exact .next (hchain name hname) hdecl hname'
        · rw [hbelownames, OpenNames.enterAll_append]

/-- A member of the content of a visited element is visited as well. -/
theorem mem_visitsBelow_next {registry : Registry} {path : List String} {inSequence : Bool}
    {m below : Member} {v : Visit} {name : String}
    (hv : v ∈ visitsBelow registry path inSequence m)
    (hbelow : below ∈ v.member.element.contentMembers registry v.member.names)
    (hname : nonempty? below.element.name? = some name) :
    ⟨v.path ++ [name], below, true⟩ ∈ visitsBelow registry path inSequence m := by
  have hself : ∀ path : List String,
      ⟨path ++ [name], below, true⟩ ∈ visitsBelow registry path true below := by
    intro path
    rw [visitsBelow_eq]
    simp only [hname]
    exact List.mem_cons_self ..
  induction path, inSequence, m using visitsBelow.induct registry with
  | case1 path inSequence m hnone =>
      rw [visitsBelow_eq] at hv
      simp [hnone] at hv
  | case2 path inSequence m top htop ih =>
      rw [visitsBelow_eq] at hv ⊢
      simp only [htop, List.mem_cons, List.mem_flatMap] at hv ⊢
      refine Or.inr ?_
      rcases hv with rfl | ⟨inner, hinner, hv⟩
      · exact ⟨below, hbelow, hself _⟩
      · exact ⟨inner, hinner, ih ⟨inner, hinner⟩ hv⟩

/-- **The visits of a schema are its chains** along fresh entries, whatever names are open from the
start. -/
theorem Xsd.Schema.exists_mem_visits_iff {registry : Registry} {names inner : OpenNames}
    {schema : Schema} {path : List String} {element : Element} {inSequence repeats : Bool} :
    (∃ o, ⟨path, ⟨element, inner, o, repeats⟩, inSequence⟩ ∈ schema.visits registry names) ↔
      ∃ entries, DeclaredChain registry schema path entries element inSequence repeats ∧
        names.Fresh entries ∧ inner = names.enterAll entries := by
  constructor
  · rintro ⟨o, h⟩
    obtain ⟨top, htop, hv⟩ := List.mem_flatMap.1 h
    have hroot : ∀ name, nonempty? top.name? = some name →
        DeclaredChain registry schema [name] [] top false false := fun _ hname => .root htop hname
    exact exists_chain_of_mem_visitsBelow hv hroot (OpenNames.fresh_nil _) rfl
  · -- A chain is visited link by link: its last link lies in the content of a visited element.
    rintro ⟨entries, hchain, hfresh, hinner⟩
    induction hchain generalizing inner with
    | @root element name h hname =>
        refine ⟨false, List.mem_flatMap.2 ⟨element, h, ?_⟩⟩
        rw [visitsBelow_eq, hinner]
        simp only [hname]
        exact List.mem_cons_self ..
    | next hchain hdecl hname ih =>
        rw [OpenNames.fresh_append] at hfresh
        rw [OpenNames.enterAll_append] at hinner
        obtain ⟨o, ho⟩ := ih hfresh.1 rfl
        obtain ⟨top, htop, hv⟩ := List.mem_flatMap.1 ho
        obtain ⟨o', ho'⟩ := Element.mem_contentMembers_iff.2 ⟨_, hdecl, hfresh.2, hinner⟩
        exact ⟨o', List.mem_flatMap.2 ⟨top, htop, mem_visitsBelow_next hv ho' hname⟩⟩

/-! ## Array paths -/

/-- The array paths of a schema, with names that are open from the start. -/
theorem Xsd.Schema.mem_arrayPaths_iff {options : Options} {registry : Registry} {names : OpenNames}
    {schema : Schema} {path : String} :
    path ∈ schema.arrayPaths options registry names ↔
      ∃ elements entries element inSequence repeats,
        DeclaredChain registry schema elements entries element inSequence repeats ∧
        names.Fresh entries ∧
        joinedPath elements = path ∧ options.Classifies element inSequence repeats := by
  unfold Schema.arrayPaths
  constructor
  · intro h
    obtain ⟨v, hv, rfl⟩ := List.mem_map.1 h
    obtain ⟨hv, harray⟩ := List.mem_filter.1 hv
    obtain ⟨entries, hchain, hfresh, -⟩ := Schema.exists_mem_visits_iff.1 ⟨v.member.optional, hv⟩
    exact ⟨_, entries, _, _, _, hchain, hfresh, rfl, (Options.classifies_iff ..).2 harray⟩
  · rintro ⟨elements, entries, element, inSequence, repeats, hchain, hfresh, rfl, harray⟩
    obtain ⟨o, hv⟩ := Schema.exists_mem_visits_iff.2 ⟨entries, hchain, hfresh, rfl⟩
    exact List.mem_map.2
      ⟨_, List.mem_filter.2 ⟨hv, (Options.classifies_iff ..).1 harray⟩, rfl⟩

/-- The list paths of a schema, with names that are open from the start. -/
theorem Xsd.Schema.mem_listPaths_iff {registry : Registry} {names : OpenNames} {schema : Schema}
    {path : String} :
    path ∈ schema.listPaths registry names ↔
      ∃ elements entries element inSequence repeats,
        DeclaredChain registry schema elements entries element inSequence repeats ∧
        names.Fresh entries ∧ joinedPath elements = path ∧
        element.IsList registry (names.enterAll entries) := by
  unfold Schema.listPaths
  constructor
  · intro h
    obtain ⟨v, hv, rfl⟩ := List.mem_map.1 h
    obtain ⟨hv, hlist⟩ := List.mem_filter.1 hv
    obtain ⟨entries, hchain, hfresh, hnames⟩ :=
      Schema.exists_mem_visits_iff.1 ⟨v.member.optional, hv⟩
    refine ⟨_, entries, _, _, _, hchain, hfresh, rfl, ?_⟩
    rw [← hnames]
    exact (Visit.isList_iff ..).1 hlist
  · rintro ⟨elements, entries, element, inSequence, repeats, hchain, hfresh, rfl, hlist⟩
    obtain ⟨o, hv⟩ := Schema.exists_mem_visits_iff.2 ⟨entries, hchain, hfresh, rfl⟩
    exact List.mem_map.2 ⟨_, List.mem_filter.2 ⟨hv, (Visit.isList_iff ..).2 hlist⟩, rfl⟩

theorem rootedSchema?_eq_some_iff (document : Document) (schema : Schema) :
    rootedSchema? document = some schema ↔
      document.schema? = some schema ∧ schema.elements ≠ [] := by
  simp [rootedSchema?, Option.filter_eq_some_iff]

/-- A document without a schema or without a top-level element has no array paths. -/
theorem Xsd.Document.mem_arrayPaths_iff_schema {options : Options} {document : Document}
    {path : String} :
    path ∈ document.arrayPaths options ↔
      ∃ schema, document.schema? = some schema ∧
        path ∈ schema.arrayPaths options (Registry.ofSchema schema) {} := by
  unfold Document.arrayPaths
  constructor
  · intro h
    split at h
    · cases h
    · rename_i schema hrooted
      exact ⟨schema, ((rootedSchema?_eq_some_iff ..).1 hrooted).1, h⟩
  · rintro ⟨schema, hschema, h⟩
    have hne : schema.elements ≠ [] := by
      intro hnil
      simp [Schema.arrayPaths, Schema.visits, hnil] at h
    simp only [(rootedSchema?_eq_some_iff ..).2 ⟨hschema, hne⟩]
    exact h

/-- A document without a schema or without a top-level element has no list paths. -/
theorem Xsd.Document.mem_deriveListPaths_iff {document : Document} {path : String} :
    path ∈ deriveListPaths document ↔
      ∃ schema, document.schema? = some schema ∧
        path ∈ schema.listPaths (Registry.ofSchema schema) {} := by
  unfold deriveListPaths
  constructor
  · intro h
    split at h
    · cases h
    · rename_i schema hrooted
      exact ⟨schema, ((rootedSchema?_eq_some_iff ..).1 hrooted).1, h⟩
  · rintro ⟨schema, hschema, h⟩
    have hne : schema.elements ≠ [] := by
      intro hnil
      simp [Schema.listPaths, Schema.visits, hnil] at h
    simp only [(rootedSchema?_eq_some_iff ..).2 ⟨hschema, hne⟩]
    exact h

/-- **The array paths of a document are the paths of its chains that enter no named type and no
group twice and end at an element that the options make an array of.** -/
theorem Xsd.Document.mem_arrayPaths_iff_chain (options : Options) (document : Document)
    (path : String) :
    path ∈ document.arrayPaths options ↔
      ∃ schema elements entries element inSequence repeats,
        document.schema? = some schema ∧
        DeclaredChain (Registry.ofSchema schema) schema elements entries element inSequence
          repeats ∧
        entries.Nodup ∧ String.intercalate "." elements = path ∧
        options.Classifies element inSequence repeats := by
  rw [Document.mem_arrayPaths_iff_schema]
  simp only [Schema.mem_arrayPaths_iff, OpenNames.fresh_empty_iff]
  constructor
  · rintro ⟨schema, hschema, elements, entries, element, inSequence, repeats, h⟩
    exact ⟨schema, elements, entries, element, inSequence, repeats, hschema, h⟩
  · rintro ⟨schema, elements, entries, element, inSequence, repeats, hschema, h⟩
    exact ⟨schema, hschema, elements, entries, element, inSequence, repeats, h⟩

end SchemaBridge
