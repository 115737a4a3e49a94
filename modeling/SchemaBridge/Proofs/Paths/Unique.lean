import SchemaBridge.Proofs.JsonSchema.Written
import SchemaBridge.Proofs.Paths.Chain

/-!
# Paths that say which element they lead to

In general different chains of declarations may spell one path: two elements of a content can share a
name, and a name with a point in it can be spelled as two names. Where a content, with everything that
its bases and groups add, declares a name once, and a path spells the names of one chain only, a path
belongs to one element (`Chain.eq_of_joinedPath_eq`). Names without points are enough for the second
condition (`Schema.PathsDistinct.of_no_points`). If moreover no chain enters a type or a group twice,
then a chain has its path among the derived ones exactly when its own last element calls for it
(`Document.mem_arrayPaths_iff_of_chain`, `Document.mem_deriveListPaths_of_chain`).
-/

set_option autoImplicit false

namespace SchemaBridge

open Xsd

namespace Xsd

/-- No chain of element declarations enters a named type or a group twice. -/
def Schema.Acyclic (schema : Schema) : Prop :=
  ∀ path entries element inSequence repeats,
    DeclaredChain (Registry.ofSchema schema) schema path entries element inSequence repeats →
      entries.Nodup

/-- A schema whose paths belong to one element each. -/
structure Schema.PathsDistinct (schema : Schema) : Prop where
  /-- The elements of one content have different names, those of bases and groups included. -/
  contents_distinct : ∀ element, schema.Contains (.element element) →
    (Schema.elementNames (element.contentMembers (Registry.ofSchema schema) {})).Nodup
  /-- A path spells the names of one chain only. -/
  spelled_once : ∀ {path path' entries entries' element element' inSequence inSequence' repeats
      repeats'},
    DeclaredChain (Registry.ofSchema schema) schema path entries element inSequence repeats →
    DeclaredChain (Registry.ofSchema schema) schema path' entries' element' inSequence' repeats' →
    joinedPath path = joinedPath path' → path = path'
  /-- No element has the name of an attribute or of text. -/
  element_keys : ∀ element, schema.Contains (.element element) →
    ∀ name, nonempty? element.name? = some name → IsElementKey name

end Xsd

/-! ## Joined names -/

theorem toList_joinedPath (path : List String) :
    (joinedPath path).toList = ['.'].intercalate (path.map String.toList) :=
  String.toList_intercalate

/-- Names without points can be read off their joined path. -/
theorem joinedPath_inj {path other : List String} (hpath : path ≠ []) (hother : other ≠ [])
    (hplain : ∀ name ∈ path, '.' ∉ name.toList) (hotherplain : ∀ name ∈ other, '.' ∉ name.toList)
    (h : joinedPath path = joinedPath other) : path = other := by
  have hsplit : ∀ names : List String, names ≠ [] → (∀ name ∈ names, '.' ∉ name.toList) →
      List.splitOn '.' (joinedPath names).toList = names.map String.toList := by
    intro names hne hplain
    rw [toList_joinedPath]
    refine List.splitOn_intercalate '.' ?_ (by simpa using hne)
    intro characters hcharacters hpoint
    obtain ⟨name, hname, rfl⟩ := List.mem_map.1 hcharacters
    exact hplain name hname hpoint
  have hmap : path.map String.toList = other.map String.toList := by
    rw [← hsplit path hpath hplain, ← hsplit other hother hotherplain, h]
  exact (List.map_inj_right fun _ _ heq => String.toList_inj.1 heq).1 hmap

/-- A longer path is spelled as a shorter one with a point and a name behind it. -/
theorem joinedPath_append {path : List String} (h : path ≠ []) (name : String) :
    joinedPath (path ++ [name]) = joinedPath path ++ "." ++ name := by
  have hlists : ∀ lists : List (List Char), lists ≠ [] → ∀ last : List Char,
      ['.'].intercalate (lists ++ [last]) = ['.'].intercalate lists ++ ['.'] ++ last := by
    intro lists hne last
    induction lists with
    | nil => exact absurd rfl hne
    | cons first rest ih =>
        cases rest with
        | nil => simp [List.intercalate]
        | cons second more =>
            have hmore := ih (by simp)
            simp only [List.intercalate, List.cons_append, List.intersperse_cons_cons,
              List.flatten_cons, List.append_assoc] at hmore ⊢
            rw [hmore]
  apply String.toList_inj.1
  rw [toList_joinedPath, List.map_append, List.map_singleton, hlists _ (by simpa using h),
    String.toList_append, String.toList_append, toList_joinedPath]
  rfl

/-! ## Chains -/

/-- Where the keys of a list differ, a key belongs to one entry. -/
theorem eq_of_nodup_filterMap {α β : Type} {key : α → Option β} {list : List α}
    (hdistinct : (list.filterMap key).Nodup) {a b : α} (ha : a ∈ list) (hb : b ∈ list) {k : β}
    (hka : key a = some k) (hkb : key b = some k) : a = b := by
  induction list with
  | nil => cases ha
  | cons first rest ih =>
      have hmem : ∀ {c : α}, c ∈ rest → key c = some k → k ∈ rest.filterMap key :=
        fun hc hkc => List.mem_filterMap.2 ⟨_, hc, hkc⟩
      rw [List.filterMap_cons] at hdistinct
      rcases List.mem_cons.1 ha with rfl | harest
      · rcases List.mem_cons.1 hb with rfl | hbrest
        · rfl
        · rw [hka] at hdistinct
          exact absurd (hmem hbrest hkb) (List.nodup_cons.1 hdistinct).1
      · rcases List.mem_cons.1 hb with rfl | hbrest
        · rw [hkb] at hdistinct
          exact absurd (hmem harest hka) (List.nodup_cons.1 hdistinct).1
        · refine ih ?_ harest hbrest
          split at hdistinct
          · exact hdistinct
          · exact (List.nodup_cons.1 hdistinct).2

namespace Chain

variable {schema : Schema} {path : List String} {entries : List Entry} {element : Element}
  {inSequence repeats : Bool}

/-- The elements of a chain lie in the schema. -/
theorem contains
    (h : DeclaredChain (Registry.ofSchema schema) schema path entries element inSequence repeats) :
    schema.Contains (.element element) := by
  induction h with
  | root h _ => exact .element h
  | next _ h _ ih => exact .of_element_declares ih h

/-- What is true of the names of all elements is true of the names of a chain. -/
theorem forall_mem_path {P : String → Prop}
    (hP : ∀ element, schema.Contains (.element element) →
      ∀ name, nonempty? element.name? = some name → P name)
    (h : DeclaredChain (Registry.ofSchema schema) schema path entries element inSequence repeats) :
    ∀ name ∈ path, P name := by
  induction h with
  | root h hname =>
      rw [List.forall_mem_singleton]
      exact hP _ (.element h) _ hname
  | next hchain h hname ih =>
      have helement := Schema.Contains.of_element_declares hchain.contains h
      rw [List.forall_mem_append, List.forall_mem_singleton]
      exact ⟨ih, hP _ helement _ hname⟩

/-- **The names of a chain say where it ends**: at which element, and below a repeating reference or
not. -/
theorem eq_of_path (hregular : schema.Regular) (hacyclic : schema.Acyclic)
    (hpaths : schema.PathsDistinct) {entries' : List Entry} {element' : Element}
    {inSequence' repeats' : Bool}
    (h : DeclaredChain (Registry.ofSchema schema) schema path entries element inSequence repeats)
    (h' : DeclaredChain (Registry.ofSchema schema) schema path entries' element' inSequence'
      repeats') : element = element' ∧ inSequence = inSequence' ∧ repeats = repeats' := by
  -- The chains agree on their last names, and by induction on the elements before them. A path of
  -- one name is that of no longer chain.
  induction h generalizing entries' element' inSequence' repeats' with
  | @root element name h hname =>
      generalize hpath : [name] = other at h'
      cases h' with
      | root h' hname' =>
          cases hpath
          exact ⟨eq_of_nodup_filterMap hregular.roots_distinct h h' hname hname', rfl, rfl⟩
      | next hchain' =>
          have hnil := (List.append_eq_singleton_iff.1 hpath.symm).resolve_right (by simp)
          exact absurd hnil.1 hchain'.path_ne_nil
  | @next path entries below outer element _ _ repeats name hchain h hname ih =>
      generalize hpath : path ++ [name] = other at h'
      cases h' with
      | root =>
          have hnil := (List.append_eq_singleton_iff.1 hpath).resolve_right (by simp)
          exact absurd hnil.1 hchain.path_ne_nil
      | @next path' entries₁ below' outer' _ _ _ _ name' hchain' hlink' hname' =>
          obtain ⟨rfl, hnames⟩ := List.append_inj' hpath rfl
          cases hnames
          obtain ⟨rfl, -, -⟩ := ih hchain'
          -- Both links are members of one content, where a name occurs once.
          have hfresh : ∀ {path entries below element repeats name},
              DeclaredChain (Registry.ofSchema schema) schema path (entries ++ below) element true
                repeats → outer.Declares (Registry.ofSchema schema) below repeats element →
              nonempty? element.name? = some name → ∃ m, m ∈ outer.contentMembers
                (Registry.ofSchema schema) {} ∧ m.element = element ∧ m.repeats = repeats := by
            intro path entries below element repeats name hwhole hdecl _
            have hnodup := (List.nodup_append.1 (hacyclic _ _ _ _ _ hwhole)).2.1
            obtain ⟨o, ho⟩ := Element.mem_contentMembers_iff.2
              ⟨below, hdecl, (OpenNames.fresh_empty_iff _).2 hnodup, rfl⟩
            exact ⟨_, ho, rfl, rfl⟩
          obtain ⟨m, hm, rfl, rfl⟩ := hfresh (.next hchain h hname) h hname
          obtain ⟨m', hm', rfl, rfl⟩ := hfresh (.next hchain' hlink' hname') hlink' hname'
          cases eq_of_nodup_filterMap (hpaths.contents_distinct outer hchain.contains) hm hm' hname
            hname'
          exact ⟨rfl, rfl, rfl⟩

/-- **A joined path belongs to one element.** -/
theorem eq_of_joinedPath_eq (hregular : schema.Regular) (hacyclic : schema.Acyclic)
    (hpaths : schema.PathsDistinct) {path' : List String} {entries' : List Entry}
    {element' : Element} {inSequence' repeats' : Bool}
    (h : DeclaredChain (Registry.ofSchema schema) schema path entries element inSequence repeats)
    (h' : DeclaredChain (Registry.ofSchema schema) schema path' entries' element' inSequence'
      repeats') (hjoined : joinedPath path = joinedPath path') :
    element = element' ∧ inSequence = inSequence' ∧ repeats = repeats' := by
  cases hpaths.spelled_once h h' hjoined
  exact eq_of_path hregular hacyclic hpaths h h'

end Chain

/-- **Names without points** make paths spell the names of one chain only. -/
theorem Xsd.Schema.PathsDistinct.of_no_points {schema : Schema}
    (hcontents : ∀ element, schema.Contains (.element element) →
      (Schema.elementNames (element.contentMembers (Registry.ofSchema schema) {})).Nodup)
    (hnames : ∀ element, schema.Contains (.element element) →
      ∀ name, nonempty? element.name? = some name → '.' ∉ name.toList ∧ IsElementKey name) :
    schema.PathsDistinct where
  contents_distinct := hcontents
  spelled_once h h' hjoined := by
    have hpoints : ∀ element, schema.Contains (.element element) →
        ∀ name, nonempty? element.name? = some name → '.' ∉ name.toList :=
      fun element helement name hname => (hnames element helement name hname).1
    exact joinedPath_inj h.path_ne_nil h'.path_ne_nil (h.forall_mem_path hpoints)
      (h'.forall_mem_path hpoints) hjoined
  element_keys element helement name hname := (hnames element helement name hname).2

namespace Xsd.Document

variable {document : Document} {schema : Schema} {options : Options} {path : List String}
  {entries : List Entry} {element : Element} {inSequence repeats : Bool}

/-- **A chain has an array path exactly when the options make an array of its last element.** -/
theorem mem_arrayPaths_iff_of_chain (hschema : document.schema? = some schema)
    (hregular : schema.Regular) (hacyclic : schema.Acyclic) (hpaths : schema.PathsDistinct)
    (h : DeclaredChain (Registry.ofSchema schema) schema path entries element inSequence repeats) :
    joinedPath path ∈ document.arrayPaths options ↔
      options.Classifies element inSequence repeats := by
  constructor
  · intro hmem
    obtain ⟨found, hfound, hmem⟩ := mem_arrayPaths_iff_schema.1 hmem
    cases hschema.symm.trans hfound
    obtain ⟨path', entries', element', inSequence', repeats', hchain', -, hjoined, hclassifies⟩ :=
      Schema.mem_arrayPaths_iff.1 hmem
    obtain ⟨rfl, rfl, rfl⟩ :=
      Chain.eq_of_joinedPath_eq hregular hacyclic hpaths h hchain' hjoined.symm
    exact hclassifies
  · intro hclassifies
    have hfresh := (OpenNames.fresh_empty_iff _).2 (hacyclic _ _ _ _ _ h)
    exact mem_arrayPaths_iff_schema.2 ⟨schema, hschema, Schema.mem_arrayPaths_iff.2
      ⟨path, entries, element, inSequence, repeats, h, hfresh, rfl, hclassifies⟩⟩

/-- A chain that ends at an element with an inline list has a list path. -/
theorem mem_deriveListPaths_of_chain (hschema : document.schema? = some schema)
    (hacyclic : schema.Acyclic)
    (h : DeclaredChain (Registry.ofSchema schema) schema path entries element inSequence repeats)
    {type : SimpleType} (htype : element.simpleType? = some type) (hlist : type.list?.isSome) :
    joinedPath path ∈ deriveListPaths document := by
  have hfresh := (OpenNames.fresh_empty_iff _).2 (hacyclic _ _ _ _ _ h)
  exact mem_deriveListPaths_iff.2 ⟨schema, hschema, Schema.mem_listPaths_iff.2
    ⟨path, entries, element, inSequence, repeats, h, hfresh, rfl, Or.inl ⟨type, htype, hlist⟩⟩⟩

end Xsd.Document

end SchemaBridge
