import SchemaBridge.JsonSchema.Emission

/-!
# Element paths of a schema

A visit is an element declaration reached from a top-level element by following contents, together
with the names on the way. Unlike the schemas of a conversion, visits follow named types and bases;
a type or group that is open on the way is not entered again.

Two sets of paths are read off the visits: the paths of the elements that a conversion writes as
arrays (`arrayPaths`), and those of the elements whose type is a list (`listPaths`). A path is the
names joined by points.
-/

set_option autoImplicit false

namespace SchemaBridge

open Xsd

/-- An element declaration reached along a path of names. -/
structure Visit where
  /-- The names from the top-level element down to this one. -/
  path : List String
  member : Member
  /-- The element stands directly in a sequence; top-level elements do not. -/
  inSequence : Bool

/-- The members of the content of an element lie below it. -/
theorem enteredMember_lt {registry : Registry} {names : OpenNames} {type : ComplexType} {m : Member}
    (h : m ∈ type.enteredMembers registry names) :
    Prod.Lex (· < ·) (· < ·) (registry.unopened m.names, sizeOf m.element)
      (registry.unopened names, sizeOf type) := by
  induction names, type using ComplexType.enteredMembers.induct registry
  rename_i names type ih
  rw [ComplexType.enteredMembers] at h
  rcases List.mem_append.1 h with h | h
  · rcases Prod.lex_def.1 (Sequence.optionalMember_lt h) with hl | ⟨he, hl⟩
    · exact Prod.Lex.left _ _ hl
    · simp only at he hl
      rw [he]
      apply Prod.Lex.right
      cases type
      simp at hl ⊢
      omega
  · split at h
    · cases h
    · rename_i extension hext
      rcases List.mem_append.1 h with h | h
      · rcases Prod.lex_def.1 (Sequence.optionalMember_lt h) with hl | ⟨he, hl⟩
        · exact Prod.Lex.left _ _ hl
        · simp only at he hl
          rw [he]
          apply Prod.Lex.right
          have hsize := sizeOf_extension_sequence?_lt extension
          cases type
          simp only at hext
          subst hext
          simp
          omega
      · split at h
        · cases h
        · rename_i inner base hentered
          have hlt := Registry.unopened_lt_of_enterComplexType? hentered
          rcases Prod.lex_def.1 (ih extension inner base hentered h) with hl | ⟨he, -⟩
          · exact Prod.Lex.left _ _ (Nat.lt_trans hl hlt)
          · exact Prod.Lex.left _ _ (by simp only at he; omega)

theorem contentMember_lt {registry : Registry} {names : OpenNames} {element : Element} {m : Member}
    (h : m ∈ element.contentMembers registry names) :
    Prod.Lex (· < ·) (· < ·) (registry.unopened m.names, sizeOf m.element)
      (registry.unopened names, sizeOf element) := by
  unfold Element.contentMembers at h
  split at h
  · rename_i type htype
    unfold ComplexType.members at h
    split at h
    · cases h
    · rename_i inner hentered
      have hle := Registry.unopened_le_of_enter registry hentered
      have hsize : sizeOf type < sizeOf element := by
        cases element
        simp only at htype
        subst htype
        simp
        omega
      rcases Prod.lex_def.1 (enteredMember_lt h) with hl | ⟨he, hl⟩
      · exact Prod.Lex.left _ _ (Nat.lt_of_lt_of_le hl hle)
      · simp only at he hl
        rcases Nat.lt_or_eq_of_le hle with hn | hn
        · exact Prod.Lex.left _ _ (by omega)
        · rw [he, hn]
          exact Prod.Lex.right _ (Nat.lt_trans hl hsize)
  · split at h
    · cases h
    · rename_i inner type hentered
      have hlt := Registry.unopened_lt_of_enterComplexType? hentered
      rcases Prod.lex_def.1 (enteredMember_lt h) with hl | ⟨he, -⟩
      · exact Prod.Lex.left _ _ (Nat.lt_trans hl hlt)
      · exact Prod.Lex.left _ _ (by simp only at he; omega)

/-- The visits of an element below a path and of everything in its content; none when it has no
name. -/
def visitsBelow (registry : Registry) (path : List String) (inSequence : Bool) (m : Member) :
    List Visit :=
  match nonempty? m.element.name? with
  | none => []
  | some name =>
      { path := path ++ [name], member := m, inSequence } ::
        (m.element.contentMembers registry m.names).attach.flatMap fun below =>
          visitsBelow registry (path ++ [name]) true below.1
termination_by (registry.unopened m.names, sizeOf m.element)
decreasing_by exact contentMember_lt below.2

/-- The visits of all top-level elements of a schema, with names that are open from the start. -/
def Xsd.Schema.visits (registry : Registry) (names : OpenNames) (schema : Schema) : List Visit :=
  schema.elements.flatMap fun element => visitsBelow registry [] false { element, names }

/-- The names of a path joined by points. -/
def joinedPath (path : List String) : String := String.intercalate "." path

/-- The visited element is written as an array. -/
def Visit.isArray (options : Options) (v : Visit) : Bool :=
  options.forcesArray v.member.repeats || options.isArrayElement v.member.element v.inSequence

/-- The list at the end of the chain of restrictions that starts at a simple type. -/
def resolveListType? (registry : Registry) (names : OpenNames) (type : SimpleType) :
    Option ListType :=
  match type.list? with
  | some list => some list
  | none =>
      let base? := type.restriction?.bind Restriction.base?
      match _entered : registry.enterSimpleType? names base? with
      | none => none
      | some (inner, base) => resolveListType? registry inner base
termination_by registry.unopened names
decreasing_by exact Registry.unopened_lt_of_enterSimpleType? _entered

/-- The type of the visited element is a list: an inline one, or the named one. -/
def Visit.isList (registry : Registry) (v : Visit) : Bool :=
  ((v.member.element.simpleType?.bind SimpleType.list?).isSome) ||
    ((registry.simpleType? v.member.element.typeName?).bind
      (resolveListType? registry v.member.names)).isSome

/-- The paths of the elements of a schema that are written as arrays. -/
def Xsd.Schema.arrayPaths (options : Options) (registry : Registry) (names : OpenNames)
    (schema : Schema) : List String :=
  ((schema.visits registry names).filter (Visit.isArray options)).map fun v => joinedPath v.path

/-- The paths of the elements of a schema whose type is a list. -/
def Xsd.Schema.listPaths (registry : Registry) (names : OpenNames) (schema : Schema) :
    List String :=
  ((schema.visits registry names).filter (Visit.isList registry)).map fun v => joinedPath v.path

/-- The schema of a document, if it declares a top-level element. -/
def rootedSchema? (document : Document) : Option Schema :=
  document.schema?.filter fun schema => !schema.elements.isEmpty

/-- The array paths of a document under given options. -/
def Xsd.Document.arrayPaths (options : Options) (document : Document) : List String :=
  match rootedSchema? document with
  | none => []
  | some schema => schema.arrayPaths options (Registry.ofSchema schema) {}

/-- The array paths of a document. Options are looked at only when there is an element to visit. -/
def deriveArrayPaths (document : Document) (options? : Option (Fields Json)) :
    Except Failure (List String) :=
  match rootedSchema? document with
  | none => .ok []
  | some _ => (Options.resolve options?).map fun options => document.arrayPaths options

/-- The list paths of a document. -/
def deriveListPaths (document : Document) : List String :=
  match rootedSchema? document with
  | none => []
  | some schema => schema.listPaths (Registry.ofSchema schema) {}

/-- The members of a list of paths, in the order of their code points and without repetitions. -/
def sortedPaths (paths : List String) : List String :=
  Options.sorted (addNames [] paths)

end SchemaBridge
