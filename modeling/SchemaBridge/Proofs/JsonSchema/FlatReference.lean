import SchemaBridge.Proofs.JsonSchema.Reuse
import SchemaBridge.Proofs.JsonSchema.Shape

/-!
# Objects and the flattening of their sequences

The properties of an object are built by one loop after another: over the elements of its sequence,
over the groups it refers to, and so on inside each group, and then over the attributes. Every loop
overwrites the properties of the ones before and adds to one list of required names.

There is a flat description of the result. The flattening of a sequence (`Sequence.flattening`) lists
its elements, each with the references above it. Together with the attributes they are the
occurrences of properties (`Conversion.occurrences`), and the object has the properties that some
occurrence can be resolved for: each stands at the place of its first resolvable occurrence, has the
schema of its last one, and is required when one of them requires it
(`Conversion.object_eq_occurrences`).
-/

set_option autoImplicit false

namespace SchemaBridge

open Xsd

/-! ## Names and values of tables -/

/-- New names follow the known ones, each at its first occurrence. -/
theorem addNames_eq (known names : List String) :
    addNames known names = known ++ (names.removeAll known).eraseDups := by
  induction names generalizing known with
  | nil => simp [addNames]
  | cons name rest ih =>
      rw [addNames_cons, ih]
      by_cases hknown : name ∈ known
      · have hremove : (name :: rest).removeAll known = rest.removeAll known := by
          simp [List.removeAll, hknown]
        rw [if_pos (by simpa using hknown), hremove]
      · -- The name stands first, and its later occurrences are left out.
        have hremove : (name :: rest).removeAll known = name :: rest.removeAll known := by
          simp [List.removeAll, hknown]
        have hlater : rest.removeAll (known ++ [name]) =
            (rest.removeAll known).filter fun other => !other == name := by
          simp only [List.removeAll, List.filter_filter]
          refine List.filter_congr fun other _ => ?_
          by_cases h : other = name <;> simp [h]
        rw [if_neg (by simpa using hknown), hremove, hlater, List.eraseDups_cons,
          List.append_assoc, List.singleton_append]

theorem addNames_nil (names : List String) : addNames [] names = names.eraseDups := by
  rw [addNames_eq, List.nil_append]
  congr 1
  exact List.filter_eq_self.2 fun _ _ => by simp

namespace Fields

variable {α : Type}

/-- The names of a table with further entries. -/
theorem names_update (fields extra : Fields α) :
    names (update fields extra) = addNames (names fields) (names extra) := by
  induction extra generalizing fields with
  | nil => rfl
  | cons entry rest ih =>
      have hupdate : update fields (entry :: rest) = update (put fields entry.1 entry.2) rest := rfl
      have hnames : names (entry :: rest) = entry.1 :: names rest := rfl
      rw [hupdate, hnames, ih, names_put, addNames_cons]
      simp only [List.contains_iff_mem]

/-- The value of a name is that of its last entry. -/
theorem value?_ofEntries_eq_getLast? (entries : List (String × α)) (name : String) :
    value? (ofEntries entries) name =
      ((entries.filter fun entry => entry.1 = name).getLast?).map Prod.snd := by
  induction entries with
  | nil => rfl
  | cons entry rest ih =>
      rw [value?_ofEntries_cons, ih, List.filter_cons]
      by_cases h : entry.1 = name
      · simp only [h, decide_true, if_true, List.getLast?_cons]
        cases (rest.filter fun entry => entry.1 = name).getLast? <;> rfl
      · simp [h]

end Fields

/-! ## Flattening -/

namespace Xsd

/-- An element in the flattening of a sequence, with the references to groups above it, the
outermost first. -/
structure FlatElement where
  element : Element
  above : List Group := []

namespace FlatElement

/-- Some reference above is optional. -/
def isOptional (entry : FlatElement) : Bool := entry.above.any fun ref => ref.occurs.isOptional

/-- Some reference above repeats. -/
def isRepeated (entry : FlatElement) : Bool := entry.above.any fun ref => ref.occurs.isUnbounded

/-- The names open where the element stands: those open from the start and, in order, the groups
above. -/
def names (entry : FlatElement) (start : OpenNames) : OpenNames :=
  entry.above.foldl (fun names ref => names.push .group (ref.ref?.getD "")) start

/-- The element below one more reference. -/
def below (ref : Group) (entry : FlatElement) : FlatElement :=
  { entry with above := ref :: entry.above }

/-- The element as a member of what it was flattened from. -/
def member (entry : FlatElement) (start : OpenNames) (optional repeats : Bool) : Member where
  element := entry.element
  names := entry.names start
  optional := optional || entry.isOptional
  repeats := repeats || entry.isRepeated

end FlatElement

/-- The flattening of a sequence: its elements, then for each reference the flattening of the group
that is entered there. -/
def Sequence.flattening (registry : Registry) (names : OpenNames) (sequence : Sequence) :
    List FlatElement :=
  sequence.elements.map (fun element => ⟨element, []⟩) ++
    sequence.groups.flatMap fun ref =>
      match _entered : registry.enterGroup? names ref.ref? with
      | none => []
      | some (inner, content) =>
          (Sequence.flattening registry inner content).map (FlatElement.below ref)
termination_by registry.unopened names
decreasing_by exact Registry.unopened_lt_of_enterGroup? _entered

/-- The flattening of a sequence that may be missing. -/
def Sequence.optionalFlattening (registry : Registry) (names : OpenNames) :
    Option Sequence → List FlatElement
  | none => []
  | some sequence => sequence.flattening registry names

/-- The flattening of a sequence, without the bookkeeping of its termination. -/
theorem Sequence.flattening_eq (registry : Registry) (names : OpenNames) (sequence : Sequence) :
    sequence.flattening registry names =
      sequence.elements.map (fun element => ⟨element, []⟩) ++
        sequence.groups.flatMap fun ref =>
          match registry.enterGroup? names ref.ref? with
          | none => []
          | some (inner, content) => (content.flattening registry inner).map (.below ref) := by
  rw [Sequence.flattening]
  congr 1
  congr 1
  funext ref
  split <;> rename_i h <;> simp only [h]

/-- Below a reference that is entered, the names above it come first. -/
theorem FlatElement.member_below {registry : Registry} {names inner : OpenNames} {ref : Group}
    {content : Sequence} (h : registry.enterGroup? names ref.ref? = some (inner, content))
    (entry : FlatElement) (optional repeats : Bool) :
    (entry.below ref).member names optional repeats =
      entry.member inner (optional || ref.occurs.isOptional)
        (repeats || ref.occurs.isUnbounded) := by
  obtain ⟨name, hname, -, -, rfl⟩ := (Registry.enterGroup?_eq_some_iff ..).1 h
  have href := ((nonempty?_eq_some_iff ..).1 hname).1
  simp only [member, below, FlatElement.names, isOptional, isRepeated, List.foldl_cons,
    List.any_cons, href, Option.getD_some, Bool.or_assoc]

/-- The members of a sequence are its flattening. What holds above a member is what holds above all
of them or what the references between say. -/
theorem Sequence.membersBelow_eq_flattening (registry : Registry) (optional repeats : Bool)
    (names : OpenNames) (sequence : Sequence) :
    sequence.membersBelow registry optional repeats names =
      (sequence.flattening registry names).map fun entry =>
        entry.member names optional repeats := by
  -- Members carry what holds above them downwards; a flattening adds it on the way back up.
  induction optional, repeats, names, sequence using Sequence.membersBelow.induct registry
  rename_i optional repeats names sequence ih
  rw [Sequence.membersBelow_eq, Sequence.flattening_eq, List.map_append, List.map_map,
    List.map_flatMap]
  congr 1
  · refine List.map_congr_left fun element _ => ?_
    simp [FlatElement.member, FlatElement.names, FlatElement.isOptional, FlatElement.isRepeated]
  · congr 1
    funext ref
    cases henter : registry.enterGroup? names ref.ref? with
    | none => rfl
    | some entered =>
        obtain ⟨inner, content⟩ := entered
        simp only [List.map_map]
        rw [ih ref inner content henter]
        exact List.map_congr_left fun entry _ => (FlatElement.member_below henter entry ..).symm

end Xsd

/-! ## Occurrences of properties -/

/-- One occurrence of a property: its name, its schema if it can be resolved, and whether it requires
the property. -/
structure Occurrence where
  name : String
  schema? : Option JsonSchema
  required : Bool

namespace Occurrence

/-- The occurrence has a schema. -/
def isResolvable (occurrence : Occurrence) : Bool := occurrence.schema?.isSome

/-- The property that a resolvable occurrence declares. -/
def declared? (occurrence : Occurrence) : Option Declared :=
  occurrence.schema?.map fun schema =>
    { name := occurrence.name, schema, required := occurrence.required }

end Occurrence

namespace Conversion

variable (c : Conversion)

/-- The occurrence of an element of a flattening. Its schema is made where the groups above it are
open, and that of an array when one of them repeats and arrays are made of what repeats; it requires
the property unless a group above it is optional. -/
def elementOccurrence (names : OpenNames) (entry : FlatElement) : Occurrence where
  name := entry.element.name?.getD ""
  schema? := c.elementSchema? (entry.names names) entry.element true
    (c.options.forcesArray entry.isRepeated)
  required := !entry.isOptional && entry.element.isRequired

/-- The occurrence of an attribute with a name. -/
def attributeOccurrence? (a : Attribute) : Option Occurrence :=
  (nonempty? a.name?).map fun name =>
    { name := attributeMark ++ name, schema? := c.attributeSchema? a, required := a.isRequired }

/-- The occurrences of properties in a sequence with attributes: first the elements of its flattening,
then the attributes that have a name. -/
def occurrences (names : OpenNames) (sequence? : Option Sequence) (attributes : List Attribute) :
    List Occurrence :=
  (Sequence.optionalFlattening c.registry names sequence?).map (c.elementOccurrence names) ++
    attributes.filterMap c.attributeOccurrence?

variable {c}

theorem declaredMember?_eq (names : OpenNames) (entry : FlatElement) :
    c.declaredMember? (entry.member names false false)
        (c.singleSchema? (entry.names names) entry.element) =
      (c.elementOccurrence names entry).declared? := by
  simp only [declaredMember?, FlatElement.member, Options.isArrayMember, Bool.false_or]
  rfl

/-- The properties of a sequence with attributes are declared by its resolvable occurrences. -/
theorem declared_eq_occurrences (names : OpenNames) (sequence? : Option Sequence)
    (attributes : List Attribute) :
    c.declaredElements names sequence? ++ c.declaredAttributes attributes =
      (c.occurrences names sequence? attributes).filterMap Occurrence.declared? := by
  rw [occurrences, List.filterMap_append]
  congr 1
  · rw [declaredElements_eq, List.filterMap_map]
    cases sequence? with
    | none => rfl
    | some sequence =>
        simp only [Sequence.optionalMembers, Sequence.optionalFlattening, Sequence.members,
          Sequence.membersBelow_eq_flattening, declaredBelow, List.filterMap_map]
        exact congrArg (List.filterMap · _) (funext (declaredMember?_eq names))
  · rw [declaredAttributes, List.filterMap_filterMap]
    congr 1
    funext a
    unfold attributeOccurrence?
    cases nonempty? a.name? with
    | none => rfl
    | some name => cases hschema : c.attributeSchema? a <;> simp [Occurrence.declared?]

/-- The object of a sequence with attributes is that of its occurrences. -/
theorem objectSchema_eq_occurrences (names : OpenNames) (sequence? : Option Sequence)
    (attributes : List Attribute) :
    c.objectSchema names sequence? attributes =
      .object
        (declaredProperties []
          ((c.occurrences names sequence? attributes).filterMap Occurrence.declared?))
        (declaredRequired []
          ((c.occurrences names sequence? attributes).filterMap Occurrence.declared?)) := by
  rw [objectSchema, declared_eq_occurrences]
  rfl

/-- With enough depth the call for an object returns, and it leaves the open names as it finds them. -/
theorem callObject_outcome {limit : Nat} {sequence? : Option Sequence}
    (h : c.registry.callDepth (Sequence.optionalNesting sequence?) ≤ limit) (names : OpenNames)
    (attributes : List Attribute) :
    (c.callObject limit sequence? attributes).outcome names =
      (.ok (c.objectSchema names sequence? attributes), names) := by
  have hle := c.registry.remaining_le names
  unfold Registry.callDepth at h
  have hreturns := (emissionReturns_of_room c.registry.room limit).2.2.1
  exact ((c.callsCompute limit).object sequence? attributes).outcome_eq
    (hreturns names sequence? attributes (by omega))

end Conversion

/-! ## The object of a list of occurrences -/

namespace Occurrence

variable (occurrences : List Occurrence)

/-- What is read off the declarations is read off the resolvable occurrences. -/
theorem map_declared? {α : Type} {f : Declared → α} {g : Occurrence → α}
    (h : ∀ o d, declared? o = some d → f d = g o) :
    (occurrences.filterMap declared?).map f = (occurrences.filter isResolvable).map g := by
  induction occurrences with
  | nil => rfl
  | cons first rest ih =>
      cases hfirst : first.declared? with
      | none =>
          have hresolvable : first.isResolvable = false := by
            simpa [declared?, isResolvable] using hfirst
          rw [List.filterMap_cons_none hfirst, List.filter_cons_of_neg (by simp [hresolvable]), ih]
      | some d =>
          have hresolvable : first.isResolvable = true := by
            obtain ⟨schema, hschema, -⟩ := Option.map_eq_some_iff.1 hfirst
            simp [isResolvable, hschema]
          rw [List.filterMap_cons_some hfirst, List.filter_cons_of_pos hresolvable, List.map_cons,
            List.map_cons, ih, h first d hfirst]

/-- Selecting declarations is selecting occurrences. -/
theorem filter_declared? {p : Declared → Bool} {q : Occurrence → Bool}
    (h : ∀ o d, declared? o = some d → p d = q o) :
    (occurrences.filterMap declared?).filter p = (occurrences.filter q).filterMap declared? := by
  induction occurrences with
  | nil => rfl
  | cons first rest ih =>
      cases hfirst : first.declared? with
      | none =>
          rw [List.filterMap_cons_none hfirst, ih, List.filter_cons]
          split
          · rw [List.filterMap_cons_none hfirst]
          · rfl
      | some d =>
          rw [List.filterMap_cons_some hfirst, List.filter_cons, List.filter_cons, ih, h first d hfirst]
          split
          · rw [List.filterMap_cons_some hfirst]
          · rfl

theorem of_declared? {o : Occurrence} {d : Declared} (h : declared? o = some d) :
    d.name = o.name ∧ some d.schema = o.schema? ∧ d.required = o.required := by
  obtain ⟨schema, hschema, rfl⟩ := Option.map_eq_some_iff.1 h
  exact ⟨rfl, hschema.symm, rfl⟩

/-- There is a property for each name of a resolvable occurrence, in order of first occurrence. -/
theorem names_declaredProperties :
    Fields.names (declaredProperties [] (occurrences.filterMap declared?)) =
      ((occurrences.filter isResolvable).map Occurrence.name).eraseDups := by
  have hnames := map_declared? occurrences fun o d hd => (of_declared? hd).1
  rw [← hnames, ← addNames_nil, declaredProperties, Fields.names_update]
  simp only [Fields.names, List.map_map]
  rfl

/-- A property has the schema of the last resolvable occurrence of its name. -/
theorem value?_declaredProperties_eq (name : String) :
    (declaredProperties [] (occurrences.filterMap declared?)).value? name =
      (((occurrences.filter isResolvable).filter fun o => o.name = name).getLast?).bind
        Occurrence.schema? := by
  have hnamed : (occurrences.filterMap declared?).filter (fun d => d.name = name) =
      (occurrences.filter fun o => o.name = name).filterMap declared? :=
    filter_declared? occurrences fun o d hd => by rw [(of_declared? hd).1]
  have hschemas := map_declared? (occurrences.filter fun o => o.name = name)
    fun o d hd => (of_declared? hd).2.1
  -- The last declaration is read off the last resolvable occurrence, as lists of schemas show.
  have hlast := congrArg List.getLast? hschemas
  rw [List.getLast?_map, List.getLast?_map] at hlast
  have hvalue : (declaredProperties [] (occurrences.filterMap declared?)).value? name =
      (((occurrences.filterMap declared?).filter fun d => d.name = name).getLast?).map
        Declared.schema := by
    have hentries := Fields.value?_ofEntries_eq_getLast?
      ((occurrences.filterMap declared?).map fun d => (d.name, d.schema)) name
    rw [List.filter_map, List.getLast?_map, Option.map_map] at hentries
    exact hentries
  have hboth : (occurrences.filter isResolvable).filter (fun o => o.name = name) =
      (occurrences.filter fun o => o.name = name).filter isResolvable := by
    simp only [List.filter_filter, Bool.and_comm]
  rw [hvalue, hnamed, hboth]
  have hjoined := congrArg (fun found => found.bind id) hlast
  simp only [Option.bind_map] at hjoined
  rw [Option.map_eq_bind]
  exact hjoined

/-- A property is required when a resolvable occurrence of its name requires it, in order of first
such occurrence. -/
theorem declaredRequired_eq :
    declaredRequired [] (occurrences.filterMap declared?) =
      (((occurrences.filter isResolvable).filter Occurrence.required).map
        Occurrence.name).eraseDups := by
  have hrequired := filter_declared? occurrences fun o d hd => (of_declared? hd).2.2
  have hnames := map_declared? (occurrences.filter Occurrence.required)
    fun o d hd => (of_declared? hd).1
  rw [declaredRequired, addNames_nil, hrequired, hnames, List.filter_filter, List.filter_filter]
  simp only [Bool.and_comm]

end Occurrence

/-- **Inlining groups equals a flat reference.** Whatever is registered and open, take the resolvable
ones of the occurrences in a sequence with attributes. Their object is built without raising, and the
names that were open are open afterwards. It has one property for each of their names, in order of
first occurrence, with the schema of the last occurrence of the name; and it requires the names that
some of them requires, in order of first such occurrence. -/
theorem Conversion.object_eq_occurrences (c : Conversion) (names : OpenNames)
    (sequence? : Option Sequence) (attributes : List Attribute) :
    let resolvable := (c.occurrences names sequence? attributes).filter Occurrence.isResolvable
    ∃ properties required,
      (∀ limit, c.registry.callDepth (Sequence.optionalNesting sequence?) ≤ limit →
        (c.callObject limit sequence? attributes).outcome names =
          (.ok (.object properties required), names)) ∧
      c.objectSchema names sequence? attributes = .object properties required ∧
      Fields.names properties = (resolvable.map Occurrence.name).eraseDups ∧
      (∀ name, properties.value? name =
        ((resolvable.filter fun o => o.name = name).getLast?).bind Occurrence.schema?) ∧
      required = ((resolvable.filter Occurrence.required).map Occurrence.name).eraseDups := by
  intro resolvable
  have hobject := objectSchema_eq_occurrences (c := c) names sequence? attributes
  refine ⟨_, _, fun limit hlimit => ?_, hobject, ?_, fun name => ?_, ?_⟩
  · rw [← hobject]
    exact callObject_outcome hlimit names attributes
  · exact Occurrence.names_declaredProperties _
  · exact Occurrence.value?_declaredProperties_eq _ name
  · exact Occurrence.declaredRequired_eq _

end SchemaBridge
