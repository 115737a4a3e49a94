import Mathlib.Logic.Relation
import SchemaBridge.Proofs.Xsd.ElementReading

/-!
# Spellings of a tree of values

One schema can be spelled as a tree of values in many ways. A single child may stand in a list or by
itself, there may be texts and numbers between children, a tag without nodes may as well be missing,
keys that are not read may hold anything, and a number or a truth value may stand where its text is
meant. These changes can be made anywhere in a tree (`NodeStep`, `ValueStep`). Which keys are read
depends on the node: each kind of node has attributes and tags of its own (`NodeKind`).

A reader looks at the attributes and at the children of its tags and at nothing else
(`readsSame_of_parts`). A change keeps the attributes, and it keeps the children or changes them in
turn (`NodeStep.readsSame`). So trees that differ by such changes are the same schema
(`ofNode_eq_of_respelled`).
-/

set_option autoImplicit false

namespace SchemaBridge.Xsd

/-! ## What is read from a node -/

/-- The kinds of nodes, by the declaration that is read from them. -/
inductive NodeKind where
  | schema
  | element
  | complexType
  | content
  | extension
  | sequence
  | group
  | declaredAttribute
  | simpleType
  | list
  | union
  | restriction
  | facet
deriving DecidableEq

namespace NodeKind

/-- The attributes that are read from nodes of a kind. -/
def attributes : NodeKind → List String
  | .schema | .content | .sequence => []
  | .element => ["name", "type", "minOccurs", "maxOccurs", "use"]
  | .complexType | .simpleType => ["name"]
  | .extension | .restriction => ["base"]
  | .group => ["name", "ref", "minOccurs", "maxOccurs"]
  | .declaredAttribute => ["name", "type", "use"]
  | .list => ["itemType"]
  | .union => ["memberTypes"]
  | .facet => ["value"]

/-- The tags of the children that are read from nodes of a kind, and the kinds of these children. -/
def tags : NodeKind → List (String × NodeKind)
  | .schema => [("element", .element), ("complexType", .complexType), ("simpleType", .simpleType),
      ("group", .group)]
  | .element => [("complexType", .complexType), ("simpleType", .simpleType)]
  | .complexType => [("sequence", .sequence), ("simpleContent", .content),
      ("complexContent", .content)]
  | .content => [("extension", .extension)]
  | .extension => [("sequence", .sequence), ("attribute", .declaredAttribute)]
  | .sequence => [("element", .element), ("group", .group)]
  | .group => [("sequence", .sequence)]
  | .declaredAttribute | .list => [("simpleType", .simpleType)]
  | .simpleType => [("restriction", .restriction), ("union", .union), ("list", .list)]
  | .restriction => ["enumeration", "pattern", "minInclusive", "maxInclusive", "minExclusive",
      "maxExclusive", "minLength", "maxLength", "length"].map fun tag => (tag, .facet)
  | .union | .facet => []

/-- The keys that are read from nodes of a kind. -/
def keys (kind : NodeKind) : List String :=
  kind.attributes.map (attributeMark ++ ·) ++ kind.tags.map Prod.fst

/-- The tags of children do not look like the keys of attributes. -/
theorem tag_isElementKey {kind inner : NodeKind} {tag : String} (h : (tag, inner) ∈ kind.tags) :
    IsElementKey tag := by
  have hall : ∀ entry ∈ kind.tags, IsElementKey entry.1 := by
    cases kind <;> decide
  exact hall _ h

end NodeKind

/-- Nothing under a key is a node. -/
def HoldsNoNode (value : Json) : Prop :=
  value.fields? = none ∧ ∀ items, value = .arr items → ∀ item ∈ items, item.fields? = none

/-- A whole number or a truth value, and the text that spells it. -/
inductive SpelledOut : Json → String → Prop where
  | whole (n : Int) : SpelledOut (.int n) (toString n)
  | true : SpelledOut (.bool true) "True"
  | false : SpelledOut (.bool false) "False"

/-! ## Changes of the spelling -/

mutual

/-- One change somewhere in a node of a kind. -/
inductive NodeStep : NodeKind → Node → Node → Prop where
  /-- An attribute is spelled out. -/
  | spelledOut {kind : NodeKind} {before after : Node} {name text : String} {value : Json}
      (h : SpelledOut value text) :
      NodeStep kind (before ++ (attributeMark ++ name, value) :: after)
        (before ++ (attributeMark ++ name, .str text) :: after)
  /-- The children of a tag change. -/
  | children {kind inner : NodeKind} {before after : Node} {tag : String} {value other : Json}
      (htag : (tag, inner) ∈ kind.tags) (h : ValueStep inner value other) :
      NodeStep kind (before ++ (tag, value) :: after) (before ++ (tag, other) :: after)
  /-- A tag that is missing gets a value without nodes. -/
  | noChildren {kind inner : NodeKind} {before after : Node} {tag : String} {value : Json}
      (htag : (tag, inner) ∈ kind.tags) (hvalue : HoldsNoNode value)
      (hnew : tag ∉ Fields.names (before ++ after)) :
      NodeStep kind (before ++ after) (before ++ (tag, value) :: after)
  /-- A key that is not read is added. -/
  | unreadKey {kind : NodeKind} {before after : Node} {key : String} {value : Json}
      (hkey : key ∉ kind.keys) : NodeStep kind (before ++ after) (before ++ (key, value) :: after)
  /-- A key that is not read gets another value. -/
  | unreadValue {kind : NodeKind} {before after : Node} {key : String} {value other : Json}
      (hkey : key ∉ kind.keys) :
      NodeStep kind (before ++ (key, value) :: after) (before ++ (key, other) :: after)

/-- One change in the value of a tag whose children are nodes of a kind. -/
inductive ValueStep : NodeKind → Json → Json → Prop where
  /-- A node by itself becomes a list of one. -/
  | wrap {kind : NodeKind} (child : Node) : ValueStep kind (.obj child) (.arr [.obj child])
  /-- Something that is no node is put into a list. -/
  | insert {kind : NodeKind} {before after : List Json} {item : Json}
      (hitem : item.fields? = none) :
      ValueStep kind (.arr (before ++ after)) (.arr (before ++ item :: after))
  /-- A node by itself changes. -/
  | lone {kind : NodeKind} {child other : Node} (h : NodeStep kind child other) :
      ValueStep kind (.obj child) (.obj other)
  /-- A node in a list changes. -/
  | among {kind : NodeKind} {before after : List Json} {child other : Node}
      (h : NodeStep kind child other) :
      ValueStep kind (.arr (before ++ .obj child :: after)) (.arr (before ++ .obj other :: after))

end

/-- Two nodes of a kind that differ by any number of changes, made or undone anywhere. -/
def Respelled (kind : NodeKind) : Node → Node → Prop :=
  Relation.EqvGen (NodeStep kind)

/-! ## Readers -/

/-- The declaration that is read from nodes of a kind is the same for two nodes. -/
def ReadsSame : NodeKind → Node → Node → Prop
  | .schema, first, second => Schema.ofNode first = Schema.ofNode second
  | .element, first, second => Element.ofNode first = Element.ofNode second
  | .complexType, first, second => ComplexType.ofNode first = ComplexType.ofNode second
  | .content, first, second => Extension.ofContent? first = Extension.ofContent? second
  | .extension, first, second => Extension.ofNode first = Extension.ofNode second
  | .sequence, first, second => Sequence.ofNode first = Sequence.ofNode second
  | .group, first, second => Group.ofNode first = Group.ofNode second
  | .declaredAttribute, first, second => Attribute.ofNode first = Attribute.ofNode second
  | .simpleType, first, second => SimpleType.ofNode first = SimpleType.ofNode second
  | .list, first, second => ListType.ofNode first = ListType.ofNode second
  | .union, first, second => Union.ofNode first = Union.ofNode second
  | .restriction, first, second => Restriction.ofNode first = Restriction.ofNode second
  | .facet, first, second => first.attribute? "value" = second.attribute? "value"

theorem ReadsSame.refl (kind : NodeKind) (node : Node) : ReadsSame kind node node := by
  cases kind <;> exact rfl

/-- Nodes of a kind that are the same to its reader, pairwise. -/
abbrev AllReadSame (kind : NodeKind) : List Node → List Node → Prop :=
  List.Forall₂ (ReadsSame kind)

theorem AllReadSame.refl (kind : NodeKind) (nodes : List Node) : AllReadSame kind nodes nodes :=
  List.forall₂_same.2 fun node _ => .refl kind node

namespace AllReadSame

variable {α : Type} {kind : NodeKind} {first second : Node} {tag : String}

theorem map_eq {f : Node → α} (h : AllReadSame kind (first.children tag) (second.children tag))
    (hread : ∀ a b, ReadsSame kind a b → f a = f b) :
    (first.children tag).map f = (second.children tag).map f := by
  rw [← List.forall₂_eq_eq_eq, List.forall₂_map_left_iff, List.forall₂_map_right_iff]
  exact h.imp fun a b hab => hread a b hab

theorem map_first_eq {f : Node → α}
    (h : AllReadSame kind (first.children tag) (second.children tag))
    (hread : ∀ a b, ReadsSame kind a b → f a = f b) :
    (first.child? tag).map f = (second.child? tag).map f := by
  rw [Node.child?, Node.child?, ← List.head?_map, ← List.head?_map, h.map_eq hread]

theorem bind_first_eq {f : Node → Option α}
    (h : AllReadSame kind (first.children tag) (second.children tag))
    (hread : ∀ a b, ReadsSame kind a b → f a = f b) :
    (first.child? tag).bind f = (second.child? tag).bind f := by
  have hmap := congrArg (fun read? => Option.bind read? id) (h.map_first_eq hread)
  simpa only [Option.bind_map, Function.id_comp] using hmap

theorem filterMap_eq {f : Node → Option α}
    (h : AllReadSame kind (first.children tag) (second.children tag))
    (hread : ∀ a b, ReadsSame kind a b → f a = f b) :
    (first.children tag).filterMap f = (second.children tag).filterMap f := by
  have hmap := congrArg (List.filterMap id) (h.map_eq hread)
  rwa [List.filterMap_map, List.filterMap_map] at hmap

end AllReadSame

/-- **A reader looks at the attributes and the children of its kind**, and at nothing else. -/
theorem readsSame_of_parts {kind : NodeKind} {first second : Node}
    (hattributes : ∀ name ∈ kind.attributes, first.attribute? name = second.attribute? name)
    (hchildren : ∀ tag inner, (tag, inner) ∈ kind.tags →
      AllReadSame inner (first.children tag) (second.children tag)) :
    ReadsSame kind first second := by
  cases kind with
  | schema =>
      show Schema.ofNode first = Schema.ofNode second
      rw [Schema.ofNode, Schema.ofNode,
        (hchildren "element" .element (by decide)).map_eq fun _ _ h => h,
        (hchildren "complexType" .complexType (by decide)).map_eq fun _ _ h => h,
        (hchildren "simpleType" .simpleType (by decide)).map_eq fun _ _ h => h,
        (hchildren "group" .group (by decide)).map_eq fun _ _ h => h]
  | element =>
      show Element.ofNode first = Element.ofNode second
      rw [Element.ofNode, Element.ofNode, map_head?_attachedChildren, map_head?_attachedChildren,
        Occurs.ofNode, Occurs.ofNode, hattributes "name" (by decide),
        hattributes "type" (by decide), hattributes "minOccurs" (by decide),
        hattributes "maxOccurs" (by decide), hattributes "use" (by decide),
        (hchildren "complexType" .complexType (by decide)).map_first_eq fun _ _ h => h,
        (hchildren "simpleType" .simpleType (by decide)).map_first_eq fun _ _ h => h]
  | complexType =>
      show ComplexType.ofNode first = ComplexType.ofNode second
      rw [ComplexType.ofNode, ComplexType.ofNode, map_head?_attachedChildren,
        map_head?_attachedChildren, bind_head?_attachedChildren, bind_head?_attachedChildren,
        bind_head?_attachedChildren, bind_head?_attachedChildren, hattributes "name" (by decide),
        (hchildren "sequence" .sequence (by decide)).map_first_eq fun _ _ h => h,
        (hchildren "simpleContent" .content (by decide)).bind_first_eq fun _ _ h => h,
        (hchildren "complexContent" .content (by decide)).bind_first_eq fun _ _ h => h]
  | content =>
      show Extension.ofContent? first = Extension.ofContent? second
      rw [Extension.ofContent?, Extension.ofContent?, map_head?_attachedChildren,
        map_head?_attachedChildren,
        (hchildren "extension" .extension (by decide)).map_first_eq fun _ _ h => h]
  | extension =>
      show Extension.ofNode first = Extension.ofNode second
      rw [Extension.ofNode, Extension.ofNode, map_head?_attachedChildren,
        map_head?_attachedChildren, hattributes "base" (by decide),
        (hchildren "sequence" .sequence (by decide)).map_first_eq fun _ _ h => h,
        (hchildren "attribute" .declaredAttribute (by decide)).map_eq fun _ _ h => h]
  | sequence =>
      show Sequence.ofNode first = Sequence.ofNode second
      rw [Sequence.ofNode, Sequence.ofNode, map_attachedChildren, map_attachedChildren,
        map_attachedChildren, map_attachedChildren,
        (hchildren "element" .element (by decide)).map_eq fun _ _ h => h,
        (hchildren "group" .group (by decide)).map_eq fun _ _ h => h]
  | group =>
      show Group.ofNode first = Group.ofNode second
      rw [Group.ofNode, Group.ofNode, map_head?_attachedChildren, map_head?_attachedChildren,
        Occurs.ofNode, Occurs.ofNode, hattributes "name" (by decide), hattributes "ref" (by decide),
        hattributes "minOccurs" (by decide), hattributes "maxOccurs" (by decide),
        (hchildren "sequence" .sequence (by decide)).map_first_eq fun _ _ h => h]
  | declaredAttribute =>
      show Attribute.ofNode first = Attribute.ofNode second
      rw [Attribute.ofNode, Attribute.ofNode, hattributes "name" (by decide),
        hattributes "type" (by decide), hattributes "use" (by decide),
        (hchildren "simpleType" .simpleType (by decide)).map_first_eq fun _ _ h => h]
  | simpleType =>
      show SimpleType.ofNode first = SimpleType.ofNode second
      rw [SimpleType.ofNode, SimpleType.ofNode, map_head?_attachedChildren,
        map_head?_attachedChildren, hattributes "name" (by decide),
        (hchildren "restriction" .restriction (by decide)).map_first_eq fun _ _ h => h,
        (hchildren "union" .union (by decide)).map_first_eq fun _ _ h => h,
        (hchildren "list" .list (by decide)).map_first_eq fun _ _ h => h]
  | list =>
      show ListType.ofNode first = ListType.ofNode second
      rw [ListType.ofNode, ListType.ofNode, map_head?_attachedChildren, map_head?_attachedChildren,
        hattributes "itemType" (by decide),
        (hchildren "simpleType" .simpleType (by decide)).map_first_eq fun _ _ h => h]
  | union =>
      show Union.ofNode first = Union.ofNode second
      rw [Union.ofNode, Union.ofNode, hattributes "memberTypes" (by decide)]
  | restriction =>
      show Restriction.ofNode first = Restriction.ofNode second
      have hfacet : ∀ tag, (tag, NodeKind.facet) ∈ NodeKind.restriction.tags →
          ((first.child? tag).bind fun n => n.attribute? "value") =
            (second.child? tag).bind fun n => n.attribute? "value" :=
        fun tag htag => (hchildren tag .facet htag).bind_first_eq fun _ _ h => h
      have hfacets : ∀ tag, (tag, NodeKind.facet) ∈ NodeKind.restriction.tags →
          ((first.children tag).filterMap fun n => n.attribute? "value") =
            (second.children tag).filterMap fun n => n.attribute? "value" :=
        fun tag htag => (hchildren tag .facet htag).filterMap_eq fun _ _ h => h
      simp only [Restriction.ofNode, hattributes "base" (by decide),
        hfacets "enumeration" (by decide), hfacets "pattern" (by decide),
        hfacet "minInclusive" (by decide), hfacet "maxInclusive" (by decide),
        hfacet "minExclusive" (by decide), hfacet "maxExclusive" (by decide),
        hfacet "minLength" (by decide), hfacet "maxLength" (by decide),
        hfacet "length" (by decide)]
  | facet => exact hattributes "value" (by decide)

/-! ## Changes and readers -/

namespace Node

/-- The nodes that are the children in a value. -/
def nodesIn (value : Json) : List Node := (asList value).filterMap Json.fields?

theorem children_eq (node : Node) (tag : String) :
    node.children tag = nodesIn ((node.value? tag).getD .null) := rfl

theorem attribute?_congr {first second : Node} {name : String}
    (h : first.value? (attributeMark ++ name) = second.value? (attributeMark ++ name)) :
    first.attribute? name = second.attribute? name := by
  rw [attribute?, attribute?, h]

theorem children_congr {first second : Node} {tag : String}
    (h : first.value? tag = second.value? tag) : first.children tag = second.children tag := by
  rw [children_eq, children_eq, h]

end Node

section Lookup

variable {before after : Node} {key : String}

theorem value?_append_cons_of_ne {value : Json} {other : String} (h : other ≠ key) :
    Fields.value? (before ++ (key, value) :: after) other = Fields.value? (before ++ after) other := by
  induction before with
  | nil => exact if_neg (Ne.symm h)
  | cons first rest ih =>
      obtain ⟨own, old⟩ := first
      rw [List.cons_append, List.cons_append, Fields.value?, Fields.value?, ih]

/-- Under a key stands its first value. -/
theorem value?_append_cons_self (value : Json) :
    Fields.value? (before ++ (key, value) :: after) key =
      some ((Fields.value? before key).getD value) := by
  induction before with
  | nil => exact if_pos rfl
  | cons first rest ih =>
      obtain ⟨own, old⟩ := first
      rw [List.cons_append, Fields.value?, Fields.value?, ih]
      split <;> rfl

end Lookup

/-- Nodes with the same values under the keys that are read. -/
theorem readsSame_of_value? {kind : NodeKind} {first second : Node}
    (h : ∀ key ∈ kind.keys, Fields.value? first key = Fields.value? second key) :
    ReadsSame kind first second := by
  apply readsSame_of_parts
  · intro name hname
    apply Node.attribute?_congr
    exact h _ (List.mem_append_left _ (List.mem_map_of_mem hname))
  · intro tag inner htag
    rw [Node.children_congr (h tag (List.mem_append_right _ (List.mem_map_of_mem htag)))]
    exact .refl inner _

theorem HoldsNoNode.nodesIn_eq {value : Json} (h : HoldsNoNode value) :
    Node.nodesIn value = [] := by
  obtain ⟨hlone, hitems⟩ := h
  rw [Node.nodesIn, List.filterMap_eq_nil_iff]
  cases value with
  | arr items => exact hitems items rfl
  | str text =>
      intro item hitem
      by_cases htext : text = ""
      · simp [asList, htext] at hitem
      · simp only [asList, htext, if_false, List.mem_singleton] at hitem
        exact hitem ▸ hlone
  | null => simp [asList]
  | _ =>
      intro item hitem
      simp only [asList, List.mem_singleton] at hitem
      exact hitem ▸ hlone

/-- The kinds of the children are settled by their tag. -/
theorem NodeKind.tag_settles {kind inner other : NodeKind} {tag : String}
    (h : (tag, inner) ∈ kind.tags) (hother : (tag, other) ∈ kind.tags) : other = inner := by
  have hall : ∀ entry ∈ kind.tags, ∀ twin ∈ kind.tags, twin.1 = entry.1 → twin.2 = entry.2 := by
    cases kind <;> decide
  exact hall _ h _ hother rfl

/-- The key of an attribute is no tag. -/
theorem NodeKind.tag_ne_attribute {kind inner : NodeKind} {tag : String}
    (h : (tag, inner) ∈ kind.tags) (name : String) : tag ≠ attributeMark ++ name :=
  ne_append_of_not_isMarked (NodeKind.tag_isElementKey h).1 name

mutual

/-- **A change keeps what is read.** -/
theorem NodeStep.readsSame {kind : NodeKind} {first second : Node} :
    NodeStep kind first second → ReadsSame kind first second
  | @NodeStep.spelledOut kind before after name text value h => by
      apply readsSame_of_parts
      · intro other _
        by_cases hname : other = name
        · -- An earlier value under the key hides this one; otherwise it is read as its text.
          subst hname
          rw [Node.attribute?, Node.attribute?, value?_append_cons_self, value?_append_cons_self]
          cases Fields.value? before (attributeMark ++ other) with
          | some earlier => rfl
          | none => cases h <;> rfl
        · have hkey : attributeMark ++ other ≠ attributeMark ++ name :=
            fun heq => hname (attributeMark_append_inj.1 heq)
          apply Node.attribute?_congr
          rw [value?_append_cons_of_ne hkey, value?_append_cons_of_ne hkey]
      · intro tag inner htag
        have hkey := NodeKind.tag_ne_attribute htag name
        rw [Node.children_congr ((value?_append_cons_of_ne hkey).trans
          (value?_append_cons_of_ne hkey).symm)]
        exact .refl inner _
  | @NodeStep.children kind inner before after tag value other htag h => by
      apply readsSame_of_parts
      · intro name _
        have hkey := (NodeKind.tag_ne_attribute htag name).symm
        apply Node.attribute?_congr
        rw [value?_append_cons_of_ne hkey, value?_append_cons_of_ne hkey]
      · intro sibling found hfound
        by_cases htags : sibling = tag
        · subst htags
          rw [NodeKind.tag_settles htag hfound, Node.children_eq, Node.children_eq,
            value?_append_cons_self, value?_append_cons_self]
          cases Fields.value? before sibling with
          | some earlier => exact .refl inner _
          | none => exact h.allReadSame
        · rw [Node.children_congr ((value?_append_cons_of_ne htags).trans
            (value?_append_cons_of_ne htags).symm)]
          exact .refl found _
  | @NodeStep.noChildren kind inner before after tag value htag hvalue hnew => by
      apply readsSame_of_parts
      · intro name _
        apply Node.attribute?_congr
        rw [value?_append_cons_of_ne (NodeKind.tag_ne_attribute htag name).symm]
      · intro sibling found _
        by_cases htags : sibling = tag
        · -- Neither a missing tag nor the new value has a node.
          subst htags
          have hmissing : Fields.value? (before ++ after) sibling = none :=
            (Fields.value?_eq_none_iff ..).2 hnew
          have hbefore : Fields.value? before sibling = none := by
            apply (Fields.value?_eq_none_iff ..).2
            intro hmem
            rw [Fields.names, List.map_append] at hnew
            exact hnew (List.mem_append_left _ hmem)
          rw [Node.children_eq, Node.children_eq, value?_append_cons_self, hmissing, hbefore,
            Option.getD_none, Option.getD_some, Option.getD_none, hvalue.nodesIn_eq]
          exact .nil
        · rw [Node.children_congr (value?_append_cons_of_ne htags).symm]
          exact .refl found _
  | @NodeStep.unreadKey kind before after key value hkey => by
      apply readsSame_of_value?
      intro other hother
      have hne : other ≠ key := fun heq => hkey (heq ▸ hother)
      rw [value?_append_cons_of_ne hne]
  | @NodeStep.unreadValue kind before after key value changed hkey => by
      apply readsSame_of_value?
      intro other hother
      have hne : other ≠ key := fun heq => hkey (heq ▸ hother)
      rw [value?_append_cons_of_ne hne, value?_append_cons_of_ne hne]

/-- A change under a tag keeps what is read from the children. -/
theorem ValueStep.allReadSame {kind : NodeKind} {value other : Json} :
    ValueStep kind value other → AllReadSame kind (Node.nodesIn value) (Node.nodesIn other)
  | .wrap child => .refl kind [child]
  | @ValueStep.insert kind before after item hitem => by
      have hnodes : Node.nodesIn (.arr (before ++ item :: after)) =
          Node.nodesIn (.arr (before ++ after)) := by
        simp only [Node.nodesIn, asList, List.filterMap_append, List.filterMap_cons_none hitem]
      rw [hnodes]
      exact .refl kind _
  | .lone h => .cons h.readsSame .nil
  | @ValueStep.among kind before after child other h => by
      simp only [Node.nodesIn, asList, List.filterMap_append, List.filterMap_cons, Json.fields?]
      exact List.rel_append (AllReadSame.refl kind _) (.cons h.readsSame (AllReadSame.refl kind _))

end

/-- **Reading does not depend on the spelling.** Trees that differ by changes of the spelling, however
many of them and however deep, are the same schema. -/
theorem ofNode_eq_of_respelled {first second : Node} (h : Respelled .schema first second) :
    Schema.ofNode first = Schema.ofNode second := by
  induction h with
  | rel _ _ hstep => exact hstep.readsSame
  | refl _ => rfl
  | symm _ _ _ ih => exact ih.symm
  | trans _ _ _ _ _ hfirst hsecond => exact hfirst.trans hsecond

/-- Respelling a child respells the node around it. -/
theorem Respelled.child {kind inner : NodeKind} {tag : String} (htag : (tag, inner) ∈ kind.tags)
    {place : Node → Json} (hplace : ∀ a b, NodeStep inner a b → ValueStep inner (place a) (place b))
    (before after : Node) {child other : Node} (h : Respelled inner child other) :
    Respelled kind (before ++ (tag, place child) :: after)
      (before ++ (tag, place other) :: after) := by
  induction h with
  | rel _ _ hstep => exact .rel _ _ (.children htag (hplace _ _ hstep))
  | refl _ => exact .refl _
  | symm _ _ _ ih => exact .symm _ _ ih
  | trans _ _ _ _ _ hfirst hsecond => exact .trans _ _ _ hfirst hsecond

/-- An element declaration with a number as an attribute and a list of one child. -/
def orderNode : Node :=
  [("@_name", .str "order"), ("@_minOccurs", .int 0),
    ("complexType", .obj [("sequence", .obj [("element", .arr [.obj [("@_name", .str "item")]])])])]

/-- The same declaration with the number as a text, the child by itself, and a simple type that is no
node. -/
def spelledOrderNode : Node :=
  [("@_name", .str "order"), ("@_minOccurs", .str "0"), ("simpleType", .str "none"),
    ("complexType", .obj [("sequence", .obj [("element", .obj [("@_name", .str "item")])])])]

theorem orderNode_respelled : Respelled .element orderNode spelledOrderNode := by
  have hcount : NodeStep .element orderNode _ :=
    @NodeStep.spelledOut .element [("@_name", .str "order")] _ "minOccurs" _ _ (.whole 0)
  have hsimple := @NodeStep.noChildren .element .simpleType
    [("@_name", .str "order"), ("@_minOccurs", .str "0")]
    [("complexType", .obj [("sequence", .obj [("element", .arr [.obj [("@_name", .str "item")]])])])]
    "simpleType" (.str "none") (by decide) ⟨rfl, by rintro items ⟨⟩⟩ (by decide)
  -- The child is taken out of its list, two declarations further down.
  have hitem : Respelled .sequence [("element", .arr [.obj [("@_name", .str "item")]])]
      [("element", .obj [("@_name", .str "item")])] :=
    .symm _ _ (.rel _ _ (@NodeStep.children .sequence .element [] [] "element" _ _ (by decide)
      (.wrap _)))
  have htype : Respelled .complexType
      [("sequence", .obj [("element", .arr [.obj [("@_name", .str "item")]])])]
      [("sequence", .obj [("element", .obj [("@_name", .str "item")])])] :=
    hitem.child (by decide) (fun _ _ => .lone) [] []
  have helement := htype.child (show ("complexType", .complexType) ∈ NodeKind.element.tags by decide)
    (fun _ _ => .lone)
    [("@_name", .str "order"), ("@_minOccurs", .str "0"), ("simpleType", .str "none")] []
  exact .trans _ _ _ (.rel _ _ hcount) (.trans _ _ _ (.rel _ _ hsimple) helement)

/-- The declaration as the only child of a schema. -/
def orderTree : Node := [("element", .obj orderNode)]

/-- The other declaration in a list with null, next to a key that is not read. -/
def spelledOrderTree : Node :=
  [("annotation", .obj []), ("element", .arr [.null, .obj spelledOrderNode])]

/-- A schema read from two spellings. -/
theorem ofNode_spelledOrderTree :
    Respelled .schema orderTree spelledOrderTree ∧
      Schema.ofNode orderTree = Schema.ofNode spelledOrderTree := by
  have hnode : Respelled .schema [("element", .arr [.null, .obj orderNode])]
      [("element", .arr [.null, .obj spelledOrderNode])] :=
    orderNode_respelled.child (by decide)
      (fun _ _ h => @ValueStep.among .element [.null] [] _ _ h) [] []
  have hwrap : NodeStep .schema orderTree _ :=
    @NodeStep.children .schema .element [] [] "element" _ _ (by decide) (.wrap orderNode)
  have hnull : NodeStep .schema _ _ :=
    @NodeStep.children .schema .element [] [] "element" _ _ (by decide)
      (@ValueStep.insert .element [] [.obj orderNode] .null rfl)
  have hunread : NodeStep .schema _ spelledOrderTree :=
    @NodeStep.unreadKey .schema [] [("element", .arr [.null, .obj spelledOrderNode])] "annotation"
      (.obj []) (by decide)
  have h : Respelled .schema orderTree spelledOrderTree :=
    .trans _ _ _ (.rel _ _ hwrap) (.trans _ _ _ (.rel _ _ hnull)
      (.trans _ _ _ hnode (.rel _ _ hunread)))
  exact ⟨h, ofNode_eq_of_respelled h⟩

end SchemaBridge.Xsd
