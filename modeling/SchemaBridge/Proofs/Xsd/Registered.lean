import SchemaBridge.Xsd.Content
import SchemaBridge.Proofs.Fields

/-!
# Registered declarations

A registered declaration is one of the schema's own and carries the name under which it is found. It
is the last one of its name, so leaving out other declarations does not change what is found
(`value?_indexByName_filter`). To enter what a name refers to is to look the declaration up and then
to open the name (`Registry.enterGroup?_eq` and its siblings).
-/

set_option autoImplicit false

namespace SchemaBridge.Xsd

theorem nonempty?_eq_some_iff (text? : Option String) (text : String) :
    nonempty? text? = some text ↔ text? = some text ∧ text ≠ "" := by
  simp [nonempty?, Option.filter_eq_some_iff]

/-- A declaration in a table of declarations stands in the list and has the name. -/
theorem mem_of_value?_indexByName {α : Type} {name? : α → Option String} {declarations : List α}
    {name : String} {declaration : α}
    (h : (indexByName name? declarations).value? name = some declaration) :
    declaration ∈ declarations ∧ nonempty? (name? declaration) = some name := by
  obtain ⟨d, hd, hentry⟩ := List.mem_filterMap.1 (Fields.mem_of_value?_ofEntries h)
  obtain ⟨found, hname, heq⟩ := Option.map_eq_some_iff.1 hentry
  cases heq
  exact ⟨hd, hname⟩

section indexByName

variable {α : Type} {name? : α → Option String}

theorem value?_indexByName_cons (first : α) (rest : List α) (name : String) :
    (indexByName name? (first :: rest)).value? name =
      ((indexByName name? rest).value? name).or
        (if nonempty? (name? first) = some name then some first else none) := by
  unfold indexByName
  cases hname : nonempty? (name? first) with
  | none => rw [List.filterMap_cons_none (by rw [hname]; rfl)]; simp
  | some found =>
      rw [List.filterMap_cons_some (by rw [hname]; rfl), Fields.value?_ofEntries_cons]
      simp only [Option.some.injEq]

/-- Nothing is found under a name exactly when no declaration has it. -/
theorem value?_indexByName_eq_none_iff {declarations : List α} {name : String} :
    (indexByName name? declarations).value? name = none ↔
      ∀ d ∈ declarations, nonempty? (name? d) ≠ some name := by
  induction declarations with
  | nil => simp [indexByName, Fields.ofEntries, Fields.update, Fields.value?]
  | cons first rest ih =>
      rw [value?_indexByName_cons, Option.or_eq_none_iff, ih, List.forall_mem_cons]
      simp [and_comm]

/-- The declaration that is found is found among fewer declarations too, as long as it is kept. -/
theorem value?_indexByName_filter {declarations : List α} {name : String} {d : α} {keep : α → Bool}
    (h : (indexByName name? declarations).value? name = some d) (hkeep : keep d = true) :
    (indexByName name? (declarations.filter keep)).value? name = some d := by
  induction declarations with
  | nil => cases h
  | cons first rest ih =>
      rw [value?_indexByName_cons] at h
      cases hrest : (indexByName name? rest).value? name with
      | some found =>
          -- A later declaration hides the first one, kept or not.
          rw [hrest, Option.some_or, Option.some.injEq] at h
          have hfound := ih (h ▸ hrest)
          rw [List.filter_cons]
          split
          · rw [value?_indexByName_cons, hfound, Option.some_or]
          · exact hfound
      | none =>
          rw [hrest, Option.none_or, Option.ite_none_right_eq_some, Option.some.injEq] at h
          obtain ⟨hname, rfl⟩ := h
          have hnone : (indexByName name? (rest.filter keep)).value? name = none := by
            rw [value?_indexByName_eq_none_iff] at hrest ⊢
            exact fun other hother => hrest other (List.mem_filter.1 hother).1
          rw [List.filter_cons, if_pos hkeep, value?_indexByName_cons, hnone, if_pos hname]
          rfl

end indexByName

namespace Registry

variable {schema : Schema} {name : String}

theorem mem_of_complexTypes_value? {type : ComplexType}
    (h : (ofSchema schema).complexTypes.value? name = some type) :
    type ∈ schema.complexTypes ∧ nonempty? type.name? = some name :=
  mem_of_value?_indexByName h

theorem mem_of_groups_value? {group : Group}
    (h : (ofSchema schema).groups.value? name = some group) :
    group ∈ schema.groups ∧ nonempty? group.name? = some name :=
  mem_of_value?_indexByName h

/-! ## Entering what is registered -/

/-- Every registered complex type carries the name under which it is found. -/
def TypesNamed (registry : Registry) : Prop :=
  ∀ name type, registry.complexTypes.value? name = some type → type.name? = some name

theorem typesNamed_ofSchema (schema : Schema) : (ofSchema schema).TypesNamed := by
  intro name type h
  exact ((nonempty?_eq_some_iff ..).1 (mem_of_complexTypes_value? h).2).1

theorem typesNamed_ofDocument (document : Document) : (ofDocument document).TypesNamed := by
  intro name type h
  cases hschema : document.schema? with
  | none => simp [ofDocument, hschema, Fields.value?] at h
  | some schema =>
      simp only [ofDocument, hschema] at h
      exact typesNamed_ofSchema schema name type h

theorem enterSimpleType?_eq (registry : Registry) (names : OpenNames) (name? : Option String) :
    registry.enterSimpleType? names name? =
      (registry.simpleType? name?).bind fun type =>
        (names.enter .simpleType name?).map fun inner => (inner, type) := by
  unfold enterSimpleType? simpleType?
  cases hname : nonempty? name? with
  | none => rfl
  | some name =>
      obtain ⟨rfl, -⟩ := (nonempty?_eq_some_iff ..).1 hname
      simp only [Option.bind_some]
      cases registry.simpleTypes.value? name <;> rfl

theorem enterGroup?_eq (registry : Registry) (names : OpenNames) (ref? : Option String) :
    registry.enterGroup? names ref? =
      ((registry.group? ref?).bind Group.sequence?).bind fun content =>
        (names.enter .group ref?).map fun inner => (inner, content) := by
  unfold enterGroup? group?
  cases hname : nonempty? ref? with
  | none => rfl
  | some name =>
      obtain ⟨rfl, -⟩ := (nonempty?_eq_some_iff ..).1 hname
      simp only [Option.bind_some]
      cases (registry.groups.value? name).bind Group.sequence? <;> rfl

/-- A registered complex type is entered under its own name. -/
theorem enterComplexType?_eq {registry : Registry} (hnamed : registry.TypesNamed)
    (names : OpenNames) (name? : Option String) :
    registry.enterComplexType? names name? =
      (registry.complexType? name?).bind fun type =>
        (names.enter .complexType type.name?).map fun inner => (inner, type) := by
  unfold enterComplexType? complexType?
  cases nonempty? name? with
  | none => rfl
  | some name =>
      simp only [Option.bind_some]
      cases htype : registry.complexTypes.value? name with
      | none => rfl
      | some type =>
          simp only [Option.bind_some, hnamed name type htype]

end Registry

end SchemaBridge.Xsd
