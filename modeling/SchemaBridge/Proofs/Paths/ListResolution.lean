import Mathlib.Data.Fintype.Pigeonhole
import Mathlib.Data.Set.Finite.List
import Mathlib.Tactic.IntervalCases
import SchemaBridge.Proofs.Paths.Accumulation
import SchemaBridge.Proofs.Xsd.Declares

/-!
# Chains of restrictions

A simple type restricts a registered one, that restricts a further one, and so on: the chain of a
type ends at a type without a registered base, or it comes back to a type that it has passed
(`Registry.chain_ends_or_circles`). The search for a list goes down the chain and refuses a base
whose name is open. It never opens the name of the type that it starts from, so it notices a circle
late, or not at its first type.

The refusal loses nothing. Where the chain comes back to a base it has passed, all that follows was
seen before, so a list that comes first stands before the chain comes back
(`Registry.resolveListType?_of_first`). The search therefore finds the first list of the chain, and
nothing exactly when the chain ends or circles without one (`Registry.search_finds_first_list`).
-/

set_option autoImplicit false

namespace SchemaBridge

namespace Xsd

/-- The name of the base of a simple type. -/
def SimpleType.baseName? (type : SimpleType) : Option String :=
  nonempty? (type.restriction?.bind Restriction.base?)

namespace Registry

variable (registry : Registry)

/-- The registered simple type that a simple type restricts. -/
def baseOf? (type : SimpleType) : Option SimpleType :=
  registry.simpleType? (type.restriction?.bind Restriction.base?)

/-- The simple type that a chain of restrictions comes to in a number of steps; none beyond the end
of the chain. -/
def chainAt? : Nat → SimpleType → Option SimpleType
  | 0, type => some type
  | n + 1, type => (registry.baseOf? type).bind (chainAt? n)

/-- The types that a chain passes in fewer steps are no lists. -/
def ListlessBelow (n : Nat) (type : SimpleType) : Prop :=
  ∀ m < n, ∀ passed, registry.chainAt? m type = some passed → passed.list? = none

/-- The first list of a chain. -/
def FirstList (type : SimpleType) (list : ListType) : Prop :=
  ∃ n found, registry.chainAt? n type = some found ∧ found.list? = some list ∧
    registry.ListlessBelow n type

/-- The chain ends, and no type of it is a list. -/
def EndsListless (type : SimpleType) : Prop :=
  ∃ n, registry.chainAt? n type = none ∧ registry.ListlessBelow n type

/-- The chain comes back to a type that it has passed, and no type of it is a list. -/
def CirclesListless (type : SimpleType) : Prop :=
  ∃ m n, m < n ∧ (∃ passed, registry.chainAt? m type = some passed ∧
    registry.chainAt? n type = some passed) ∧ registry.ListlessBelow n type

variable {registry} {type base : SimpleType} {list : ListType} {names : OpenNames}

/-! ## Steps of a chain -/

theorem chainAt?_succ (h : registry.baseOf? type = some base) (n : Nat) :
    registry.chainAt? (n + 1) type = registry.chainAt? n base := by
  rw [chainAt?, h, Option.bind_some]

theorem chainAt?_add (m n : Nat) (type : SimpleType) :
    registry.chainAt? (m + n) type = (registry.chainAt? m type).bind (registry.chainAt? n) := by
  induction m generalizing type with
  | zero => rw [Nat.zero_add, chainAt?, Option.bind_some]
  | succ m ih =>
      rw [Nat.succ_add, chainAt?, chainAt?, Option.bind_assoc]
      exact Option.bind_congr fun base _ => ih base

/-- Where a chain comes back to a type, it goes on as before. -/
theorem chainAt?_add_of_eq {m n : Nat} (h : registry.chainAt? m type = registry.chainAt? n type)
    (steps : Nat) :
    registry.chainAt? (m + steps) type = registry.chainAt? (n + steps) type := by
  rw [chainAt?_add, chainAt?_add, h]

theorem listlessBelow_succ_iff (h : registry.baseOf? type = some base) (n : Nat) :
    registry.ListlessBelow (n + 1) type ↔ type.list? = none ∧ registry.ListlessBelow n base := by
  constructor
  · intro hless
    refine ⟨hless 0 (Nat.succ_pos n) type rfl, fun m hm passed hpassed => ?_⟩
    exact hless (m + 1) (Nat.succ_lt_succ hm) passed ((chainAt?_succ h m).trans hpassed)
  · rintro ⟨htype, hless⟩ m hm passed hpassed
    cases m with
    | zero =>
        obtain rfl := Option.some.inj hpassed
        exact htype
    | succ m =>
        exact hless m (Nat.lt_of_succ_lt_succ hm) passed ((chainAt?_succ h m).symm.trans hpassed)

theorem baseOf?_eq_some_iff :
    registry.baseOf? type = some base ↔
      ∃ name, type.baseName? = some name ∧ registry.simpleTypes.value? name = some base :=
  Option.bind_eq_some_iff

/-- A chain has no other types than its first one and the registered ones. -/
theorem mem_of_chainAt?_succ {n : Nat} {passed : SimpleType}
    (h : registry.chainAt? (n + 1) type = some passed) :
    passed ∈ registry.simpleTypes.map Prod.snd := by
  rw [chainAt?_add n 1] at h
  obtain ⟨last, -, hlast⟩ := Option.bind_eq_some_iff.1 h
  rw [chainAt?, Option.bind_eq_some_iff] at hlast
  obtain ⟨found, hbase, hfound⟩ := hlast
  obtain rfl := Option.some.inj hfound
  obtain ⟨name, -, hvalue⟩ := baseOf?_eq_some_iff.1 hbase
  exact List.mem_map.2 ⟨(name, found), Fields.mem_of_value? hvalue, rfl⟩

/-- **Every chain ends or circles**: there are finitely many registered types to come to. -/
theorem chain_ends_or_circles (registry : Registry) (type : SimpleType) :
    (∃ n, registry.chainAt? n type = none) ∨
      ∃ m n, m < n ∧ ∃ passed, registry.chainAt? m type = some passed ∧
        registry.chainAt? n type = some passed := by
  by_cases hends : ∃ n, registry.chainAt? n type = none
  · exact Or.inl hends
  · right
    have hgoes : ∀ n, ∃ passed, registry.chainAt? n type = some passed := by
      intro n
      exact Option.ne_none_iff_exists'.1 fun hnone => hends ⟨n, hnone⟩
    choose passed hpassed using hgoes
    have hfinite : Finite {found // found ∈ registry.simpleTypes.map Prod.snd} :=
      (List.finite_toSet _).to_subtype
    obtain ⟨m, n, hne, heq⟩ := Finite.exists_ne_map_eq_of_infinite fun n =>
      (⟨passed (n + 1), mem_of_chainAt?_succ (hpassed (n + 1))⟩ :
        {found // found ∈ registry.simpleTypes.map Prod.snd})
    have hsame : passed (m + 1) = passed (n + 1) := congrArg Subtype.val heq
    rcases Nat.lt_or_gt_of_ne hne with hlt | hlt
    · exact ⟨m + 1, n + 1, Nat.succ_lt_succ hlt, passed (m + 1), hpassed _, hsame ▸ hpassed _⟩
    · exact ⟨n + 1, m + 1, Nat.succ_lt_succ hlt, passed (n + 1), hpassed _, hsame ▸ hpassed _⟩

/-! ## First lists -/

theorem firstList_of_list (h : type.list? = some list) : registry.FirstList type list :=
  ⟨0, type, rfl, h, fun _ hm => absurd hm (Nat.not_lt_zero _)⟩

theorem FirstList.of_base (hbase : registry.baseOf? type = some base) (hlist : type.list? = none)
    (h : registry.FirstList base list) : registry.FirstList type list := by
  obtain ⟨n, found, hfound, hhas, hless⟩ := h
  exact ⟨n + 1, found, (chainAt?_succ hbase n).trans hfound, hhas,
    (listlessBelow_succ_iff hbase n).2 ⟨hlist, hless⟩⟩

/-- A chain that has any list has a first one. -/
theorem exists_firstList {n : Nat} {found : SimpleType}
    (hfound : registry.chainAt? n type = some found) (hlist : found.list? ≠ none) :
    ∃ list, registry.FirstList type list := by
  classical
  have hsome : ∃ n found, registry.chainAt? n type = some found ∧ found.list? ≠ none :=
    ⟨n, found, hfound, hlist⟩
  obtain ⟨first, hfirst, hhas⟩ := Nat.find_spec hsome
  obtain ⟨list, hlist⟩ := Option.ne_none_iff_exists'.1 hhas
  refine ⟨list, Nat.find hsome, first, hfirst, hlist, fun m hm passed hpassed => ?_⟩
  by_contra hpassedList
  exact Nat.find_min hsome hm ⟨passed, hpassed, hpassedList⟩

/-- A chain that comes back to a type before its first list never comes to the list. -/
theorem FirstList.not_circlesListless (h : registry.FirstList type list) :
    ¬ registry.CirclesListless type := by
  rintro ⟨m, n, hlt, ⟨passed, hm, hn⟩, hless⟩
  obtain ⟨first, found, hfound, hhas, hfirst⟩ := h
  by_cases hbefore : first < n
  · rw [hless first hbefore found hfound] at hhas
    cases hhas
  · -- The list stands beyond the return, so it stands as far beyond the first passage too.
    have hagain : registry.chainAt? (m + (first - n)) type = some found := by
      rw [chainAt?_add_of_eq (hm.trans hn.symm), Nat.add_sub_cancel' (Nat.le_of_not_lt hbefore)]
      exact hfound
    rw [hfirst _ (by omega) found hagain] at hhas
    cases hhas

theorem FirstList.not_endsListless (h : registry.FirstList type list) :
    ¬ registry.EndsListless type := by
  rintro ⟨n, hn, hless⟩
  obtain ⟨first, found, hfound, hhas, -⟩ := h
  by_cases hbefore : first < n
  · rw [hless first hbefore found hfound] at hhas
    cases hhas
  · rw [← Nat.add_sub_cancel' (Nat.le_of_not_lt hbefore), chainAt?_add, hn] at hfound
    cases hfound

/-- A chain without a first list ends or circles without one. -/
theorem endsListless_or_circlesListless (h : ∀ list, ¬ registry.FirstList type list) :
    registry.EndsListless type ∨ registry.CirclesListless type := by
  have hless : ∀ n, registry.ListlessBelow n type := by
    intro n m _ passed hpassed
    by_contra hlist
    obtain ⟨list, hlist⟩ := exists_firstList hpassed hlist
    exact h list hlist
  rcases chain_ends_or_circles registry type with ⟨n, hn⟩ | ⟨m, n, hlt, hpassed⟩
  · exact Or.inl ⟨n, hn, hless n⟩
  · exact Or.inr ⟨m, n, hlt, hpassed, hless n⟩

/-! ## The search -/

/-- What the search finds is the first list, whatever names are open. -/
theorem firstList_of_resolveListType? (h : resolveListType? registry names type = some list) :
    registry.FirstList type list := by
  induction names, type using resolveListType?.induct registry with
  | case1 names type found hlist =>
      rw [resolveListType?_eq, hlist] at h
      exact firstList_of_list (hlist.trans h)
  | case2 names type hlist base? hentered =>
      rw [resolveListType?_eq, hlist] at h
      simp only [base?] at hentered
      rw [hentered] at h
      cases h
  | case3 names type hlist base? inner base hentered ih =>
      rw [resolveListType?_eq, hlist] at h
      simp only [base?] at hentered
      rw [hentered] at h
      rw [enterSimpleType?_eq] at hentered
      obtain ⟨found, hfound, hmap⟩ := Option.bind_eq_some_iff.1 hentered
      obtain ⟨inner', -, heq⟩ := Option.map_eq_some_iff.1 hmap
      obtain ⟨rfl, rfl⟩ := Prod.mk.inj heq
      exact (ih h).of_base hfound hlist

/-- A base whose name is not open is entered. -/
theorem enterSimpleType?_of_closed {name : String} (hname : type.baseName? = some name)
    (hvalue : registry.simpleTypes.value? name = some base)
    (hclosed : names.isOpen .simpleType name = false) :
    registry.enterSimpleType? names (type.restriction?.bind Restriction.base?) =
      some (names.push .simpleType name, base) := by
  obtain ⟨hbase, -⟩ := (nonempty?_eq_some_iff ..).1 hname
  have henter := (OpenNames.enter_some_eq_some_iff names _ .simpleType name).2 ⟨hclosed, rfl⟩
  rw [enterSimpleType?_eq, hbase, henter, ← hbase]
  have hfound : registry.baseOf? type = some base := baseOf?_eq_some_iff.2 ⟨name, hname, hvalue⟩
  rw [show registry.simpleType? (type.restriction?.bind Restriction.base?) = some base from hfound]
  rfl

/-- **The guard hides no list**: the search comes to the first list of the chain when none of the
bases before it has an open name. -/
theorem resolveListType?_of_first (n : Nat) {found : SimpleType}
    (hfound : registry.chainAt? n type = some found) (hlist : found.list? = some list)
    (hless : registry.ListlessBelow n type)
    (hclosed : ∀ m < n, ∀ passed name, registry.chainAt? m type = some passed →
      passed.baseName? = some name → names.isOpen .simpleType name = false) :
    resolveListType? registry names type = some list := by
  induction n generalizing type names with
  | zero =>
      obtain rfl := Option.some.inj hfound
      rw [resolveListType?_eq, hlist]
  | succ n ih =>
      obtain ⟨base, hbase, hrest⟩ := Option.bind_eq_some_iff.1 hfound
      obtain ⟨htype, hbelow⟩ := (listlessBelow_succ_iff hbase n).1 hless
      obtain ⟨name, hname, hvalue⟩ := baseOf?_eq_some_iff.1 hbase
      have hfree := hclosed 0 (Nat.succ_pos n) type name rfl hname
      rw [resolveListType?_eq, htype, enterSimpleType?_of_closed hname hvalue hfree]
      refine ih hrest hbelow fun m hm passed other hpassed hother => ?_
      have houter := hclosed (m + 1) (Nat.succ_lt_succ hm) passed other
        ((chainAt?_succ hbase m).trans hpassed) hother
      have hne : other ≠ name := by
        rintro rfl
        -- A base that is named again lies on a circle that the list is not on.
        have hagain : registry.chainAt? (m + 1) base = some base := by
          rw [chainAt?_add, hpassed, Option.bind_some,
            chainAt?_succ (baseOf?_eq_some_iff.2 ⟨other, hother, hvalue⟩) 0]
          rfl
        have hfirst : registry.FirstList base list := ⟨n, found, hrest, hlist, hbelow⟩
        refine hfirst.not_circlesListless ⟨0, m + 1, Nat.succ_pos m, ⟨base, rfl, hagain⟩, ?_⟩
        exact fun k hk => hbelow k (by omega)
      rw [isOpen_push, houter]
      simp [hne]

theorem resolveListType?_eq_some_iff (hempty : names.simpleTypes = []) :
    resolveListType? registry names type = some list ↔ registry.FirstList type list := by
  refine ⟨firstList_of_resolveListType?, ?_⟩
  rintro ⟨n, found, hfound, hlist, hless⟩
  refine resolveListType?_of_first n hfound hlist hless fun _ _ _ name _ _ => ?_
  simp [OpenNames.isOpen, OpenNames.ofKind, hempty]

theorem resolveListType?_eq_none_iff (hempty : names.simpleTypes = []) :
    resolveListType? registry names type = none ↔
      registry.EndsListless type ∨ registry.CirclesListless type := by
  constructor
  · intro hnone
    refine endsListless_or_circlesListless fun list hlist => ?_
    rw [(resolveListType?_eq_some_iff hempty).2 hlist] at hnone
    cases hnone
  · intro hless
    rw [Option.eq_none_iff_forall_ne_some]
    intro list hlist
    have hfirst := (resolveListType?_eq_some_iff hempty).1 hlist
    exact hless.elim hfirst.not_endsListless hfirst.not_circlesListless

/-- A search with enough depth returns what following the restrictions finds, and changes nothing. -/
theorem outcome_callListType {limit : Nat} (hlimit : registry.walkDepth 0 ≤ limit)
    (type : SimpleType) (state : CollectorState) :
    (Collecting.callListType registry limit type).outcome state =
      (.ok (resolveListType? registry state.names type), state) := by
  have hroom := registry.walkRemaining_le state.names
  have hreturns := resolveListTypeWithin_eq registry.walkRoom type
    (show registry.walkRemaining state.names + 1 ≤ limit by unfold walkDepth at hlimit; omega)
  have hcall := Collecting.callListType_inspects registry limit type state
  simp only [hreturns] at hcall
  exact hcall

/-- **The search finds the first list of a chain.** For every registry and every simple type, from
every state of a collector in which no simple type is open: the search returns without changing the
state, it returns a list exactly when this is the first list of the chain of restrictions, and it
returns nothing exactly when the chain ends, or comes back to a type it has passed, without a list. -/
theorem search_finds_first_list (registry : Registry) (type : SimpleType) {state : CollectorState}
    (hempty : state.names.simpleTypes = []) {limit : Nat} (hlimit : registry.walkDepth 0 ≤ limit) :
    ∃ list?, (Collecting.callListType registry limit type).outcome state = (.ok list?, state) ∧
      resolveListType? registry state.names type = list? ∧
      (∀ list, list? = some list ↔ registry.FirstList type list) ∧
      (list? = none ↔ registry.EndsListless type ∨ registry.CirclesListless type) :=
  ⟨_, outcome_callListType hlimit type state, rfl,
    fun _ => resolveListType?_eq_some_iff hempty, resolveListType?_eq_none_iff hempty⟩

/-! ## A list behind a restriction, and a circle entered from outside -/

/-- A list of sizes, a restriction of it, and two types that restrict each other. -/
def sizesRegistry : Registry where
  simpleTypes :=
    [("Sizes", { name? := some "Sizes", list? := some { itemType? := some "xs:int" } }),
      ("ShortSizes", { name? := some "ShortSizes", restriction? := some { base? := some "Sizes" } }),
      ("Hen", { name? := some "Hen", restriction? := some { base? := some "Egg" } }),
      ("Egg", { name? := some "Egg", restriction? := some { base? := some "Hen" } })]

/-- An unnamed restriction of a registered type. -/
def restrictionOf (name : String) : SimpleType :=
  { restriction? := some { base? := some name } }

/-- A collector inside a group. -/
def groupState : CollectorState := { names := { groups := ["Goods"] } }

/-- The search comes to the list behind two restrictions, and from outside the circle it comes back
without a list. -/
theorem search_finds_first_list_sizesRegistry :
    groupState.names.simpleTypes = [] ∧ sizesRegistry.walkDepth 0 ≤ 6 ∧
      (Collecting.callListType sizesRegistry 6 (restrictionOf "ShortSizes")).outcome groupState =
        (.ok (some { itemType? := some "xs:int" }), groupState) ∧
      (Collecting.callListType sizesRegistry 6 (restrictionOf "Hen")).outcome groupState =
        (.ok none, groupState) := by
  have hempty : groupState.names.simpleTypes = [] := rfl
  have hlimit : sizesRegistry.walkDepth 0 ≤ 6 := by decide
  obtain ⟨found?, hfound, -, hlist, -⟩ :=
    sizesRegistry.search_finds_first_list (restrictionOf "ShortSizes") hempty hlimit
  obtain ⟨nothing?, hnothing, -, -, hnone⟩ :=
    sizesRegistry.search_finds_first_list (restrictionOf "Hen") hempty hlimit
  refine ⟨hempty, hlimit, ?_, ?_⟩
  · rw [hfound, (hlist { itemType? := some "xs:int" }).2 ⟨2, _, rfl, rfl, ?_⟩]
    intro m hm passed hpassed
    interval_cases m <;> · cases hpassed; rfl
  · rw [hnothing, hnone.2 (Or.inr ⟨1, 3, by decide, ⟨_, rfl, rfl⟩, ?_⟩)]
    intro m hm passed hpassed
    interval_cases m <;> · cases hpassed; rfl

end Registry

end Xsd

end SchemaBridge
