import SchemaBridge.Fields

/-!
# Tables built from entries

What a table built by `Fields.ofEntries` holds under a name: the value of the last entry with the
name (`value?_update`), whatever a function does to the values (`value?_ofEntries_map`). When no
name occurs twice, the table holds exactly its entries (`value?_ofEntries_eq_some_iff`).
-/

set_option autoImplicit false

namespace SchemaBridge.Fields

variable {α β : Type}

/-- Insertion adds one entry and keeps or drops the others. -/
theorem mem_of_mem_put {fields : Fields α} {name : String} {value : α} {entry : String × α}
    (h : entry ∈ put fields name value) : entry ∈ fields ∨ entry = (name, value) := by
  induction fields with
  | nil =>
      simp only [put, List.mem_singleton] at h
      exact Or.inr h
  | cons first rest ih =>
      obtain ⟨key, old⟩ := first
      by_cases hk : key = name
      · simp only [put, hk, if_true, List.mem_cons] at h
        rcases h with h | h
        · exact Or.inr h
        · exact Or.inl (List.mem_cons_of_mem _ h)
      · simp only [put, hk, if_false, List.mem_cons] at h
        rcases h with h | h
        · exact Or.inl (h ▸ List.mem_cons_self ..)
        · rcases ih h with h | h
          · exact Or.inl (List.mem_cons_of_mem _ h)
          · exact Or.inr h

theorem nodup_names_put {fields : Fields α} (h : (names fields).Nodup) (name : String) (value : α) :
    (names (put fields name value)).Nodup := by
  rw [names_put]
  split
  · exact h
  · next hnew =>
      apply List.nodup_append.2
      refine ⟨h, by simp, ?_⟩
      intro key hkey other hother heq
      rw [List.mem_singleton.1 hother] at heq
      exact hnew (heq ▸ hkey)

theorem mem_names_iff_isSome {fields : Fields α} {name : String} :
    name ∈ names fields ↔ (value? fields name).isSome := by
  rw [Option.isSome_iff_ne_none, Ne, value?_eq_none_iff]
  exact Classical.not_not.symm

/-- A name that occurs once has the value of its entry. -/
theorem value?_eq_some_iff {fields : Fields α} (hnodup : (names fields).Nodup) {name : String}
    {value : α} : value? fields name = some value ↔ (name, value) ∈ fields := by
  refine ⟨mem_of_value?, fun h => ?_⟩
  induction fields with
  | nil => cases h
  | cons entry rest ih =>
      have hnot := List.nodup_cons.1 hnodup
      rcases List.mem_cons.1 h with rfl | h
      · exact if_pos rfl
      · have hne : entry.1 ≠ name := fun heq => hnot.1 (heq ▸ List.mem_map_of_mem h)
        exact (if_neg hne).trans (ih hnot.2 h)

/-- A table is known by its names, in order, and by what it holds under them. -/
theorem eq_of_names_eq {first second : Fields α} (hnodup : (names first).Nodup)
    (hnames : names first = names second)
    (hvalues : ∀ name, value? first name = value? second name) :
    first = second := by
  induction first generalizing second with
  | nil => exact (List.map_eq_nil_iff.1 hnames.symm).symm
  | cons entry rest ih =>
      obtain ⟨key, value⟩ := entry
      cases second with
      | nil => cases hnames
      | cons other others =>
          obtain ⟨otherKey, otherValue⟩ := other
          have hkey : key = otherKey := (List.cons.inj hnames).1
          have hrest : names rest = names others := (List.cons.inj hnames).2
          subst hkey
          have hhead : some value = some otherValue := by simpa [value?] using hvalues key
          have hnot := List.nodup_cons.1 hnodup
          rw [Option.some.inj hhead, ih hnot.2 hrest]
          intro name
          by_cases hname : key = name
          · subst hname
            rw [(value?_eq_none_iff rest key).2 hnot.1]
            exact ((value?_eq_none_iff others key).2 (hrest ▸ hnot.1)).symm
          · simpa [value?, hname] using hvalues name

theorem mem_of_mem_update {extra fields : Fields α} {entry : String × α}
    (h : entry ∈ update fields extra) : entry ∈ fields ∨ entry ∈ extra := by
  -- The table changes with each entry of the second one, so it is generalized.
  induction extra generalizing fields with
  | nil => exact Or.inl h
  | cons first rest ih =>
      have hrest : entry ∈ update (put fields first.1 first.2) rest := h
      rcases ih hrest with h | h
      · rcases mem_of_mem_put h with h | h
        · exact Or.inl h
        · exact Or.inr (h ▸ List.mem_cons_self ..)
      · exact Or.inr (List.mem_cons_of_mem _ h)

theorem names_append (first second : List (String × α)) :
    names (first ++ second) = names first ++ names second :=
  List.map_append

theorem mem_names_update {fields extra : Fields α} {name : String} :
    name ∈ names (update fields extra) ↔ name ∈ names fields ∨ name ∈ names extra := by
  induction extra generalizing fields with
  | nil => simp [update, names]
  | cons first rest ih =>
      have hrest : update fields (first :: rest) = update (put fields first.1 first.2) rest := rfl
      have hput : name ∈ names (put fields first.1 first.2) ↔
          name ∈ names fields ∨ name = first.1 := by
        rw [names_put]
        split
        · rename_i hold
          exact ⟨Or.inl, fun h => h.elim id fun heq => heq ▸ hold⟩
        · rw [List.mem_append, List.mem_singleton]
      have hcons : name ∈ names (first :: rest) ↔ name = first.1 ∨ name ∈ names rest :=
        List.mem_cons
      rw [hrest, ih, hput, hcons, or_assoc]

/-- A looked-up value is that of one of the entries. -/
theorem mem_of_value?_ofEntries {entries : List (String × α)} {name : String} {value : α}
    (h : value? (ofEntries entries) name = some value) : (name, value) ∈ entries := by
  rcases mem_of_mem_update (mem_of_value? h) with h | h
  · cases h
  · exact h

theorem without_cons (entry : String × α) (rest : Fields α) (key : String) :
    without (entry :: rest) key =
      if entry.1 = key then rest.without key else entry :: rest.without key := by
  by_cases h : entry.1 = key <;> simp [without, h]

/-- Taking a name out undoes its insertion and commutes with any other one. -/
theorem without_put (fields : Fields α) (name key : String) (value : α) :
    (put fields name value).without key =
      if name = key then fields.without key else put (fields.without key) name value := by
  induction fields with
  | nil => exact without_cons (name, value) [] key
  | cons first rest ih =>
      obtain ⟨other, old⟩ := first
      by_cases hother : other = name
      · subst hother
        simp only [put, without_cons, if_true]
        split
        · rfl
        · simp [put]
      · simp only [put, if_neg hother, without_cons, ih]
        by_cases hkey : other = key
        · simp [hkey]
        · by_cases hname : name = key <;> simp [put, hother, hkey, hname]

theorem without_update (fields extra : Fields α) (key : String) :
    (update fields extra).without key = update (fields.without key) (extra.without key) := by
  -- The table changes with each inserted entry, so it is generalized.
  induction extra generalizing fields with
  | nil => rfl
  | cons first rest ih =>
      have hrest : update fields (first :: rest) = update (put fields first.1 first.2) rest := rfl
      rw [hrest, ih, without_put, without_cons]
      split
      · rfl
      · rfl

/-- Looking a name up after one insertion. -/
theorem value?_put (fields : Fields α) (name other : String) (value : α) :
    value? (put fields name value) other =
      if name = other then some value else value? fields other := by
  by_cases h : name = other
  · subst h
    simp [value?_put_self]
  · simp [h, value?_put_of_ne fields value (Ne.symm h)]

/-- A function of values acts on what is found. -/
theorem value?_map (f : α → β) (fields : Fields α) (name : String) :
    value? (fields.map fun entry => (entry.1, f entry.2)) name = (value? fields name).map f := by
  induction fields with
  | nil => rfl
  | cons entry rest ih =>
      by_cases h : entry.1 = name
      · simp [value?, h]
      · simpa [value?, h] using ih

/-- The second table is looked at first. -/
theorem value?_update (fields extra : Fields α) (name : String) :
    value? (update fields extra) name =
      (value? (ofEntries extra) name).or (value? fields name) := by
  have key : ∀ (extra fields : Fields α),
      value? (update fields extra) name =
        (value? (update [] extra) name).or (value? fields name) := by
    intro extra
    induction extra with
    | nil => intro fields; rfl
    | cons first rest ih =>
        intro fields
        have hcons : ∀ table : Fields α,
            update table (first :: rest) = update (put table first.1 first.2) rest := fun _ => rfl
        rw [hcons, hcons, ih (put fields first.1 first.2), ih (put [] first.1 first.2), value?_put,
          value?_put, Option.or_assoc]
        congr 1
        by_cases h : first.1 = name
        · simp [h]
        · simp [h, value?]
  exact key extra fields

theorem ofEntries_append (first second : List (String × α)) :
    ofEntries (first ++ second) = update (ofEntries first) second := by
  simp [ofEntries, update, List.foldl_append]

/-- The last entry with a name counts. -/
theorem value?_ofEntries_append (first second : List (String × α)) (name : String) :
    value? (ofEntries (first ++ second)) name =
      (value? (ofEntries second) name).or (value? (ofEntries first) name) := by
  rw [ofEntries_append, value?_update]

theorem value?_ofEntries_cons (entry : String × α) (rest : List (String × α)) (name : String) :
    value? (ofEntries (entry :: rest)) name =
      (value? (ofEntries rest) name).or (if entry.1 = name then some entry.2 else none) := by
  rw [← List.singleton_append, value?_ofEntries_append]
  rfl

/-- A name of no entry has no value. -/
theorem value?_ofEntries_eq_none {entries : List (String × α)} {name : String}
    (h : ∀ entry ∈ entries, entry.1 ≠ name) : value? (ofEntries entries) name = none := by
  cases hv : value? (ofEntries entries) name with
  | none => rfl
  | some value => exact absurd rfl (h _ (mem_of_value?_ofEntries hv))

/-- A function of names and values acts on a table as it acts on the entries. -/
theorem value?_ofEntries_map (f : α → β) (entries : List (String × α)) (name : String) :
    value? (ofEntries (entries.map fun entry => (entry.1, f entry.2))) name =
      (value? (ofEntries entries) name).map f := by
  induction entries with
  | nil => rfl
  | cons entry rest ih =>
      rw [List.map_cons, value?_ofEntries_cons, value?_ofEntries_cons, ih, Option.map_or]
      by_cases h : entry.1 = name <;> simp [h]

/-- When no name occurs twice, the values are exactly those of the entries. -/
theorem value?_ofEntries_eq_some_iff {entries : List (String × α)}
    (hnodup : (entries.map Prod.fst).Nodup) {name : String} {value : α} :
    value? (ofEntries entries) name = some value ↔ (name, value) ∈ entries := by
  refine ⟨mem_of_value?_ofEntries, fun h => ?_⟩
  induction entries with
  | nil => cases h
  | cons entry rest ih =>
      rw [List.map_cons, List.nodup_cons] at hnodup
      rw [value?_ofEntries_cons]
      -- Later entries go before the first one, and none of them has its name.
      rcases List.mem_cons.1 h with h | h
      · have hnone : value? (ofEntries rest) name = none := by
          apply value?_ofEntries_eq_none
          intro other hother heq
          exact hnodup.1 (List.mem_map.2 ⟨other, hother, by rw [heq, ← h]⟩)
        rw [hnone, ← h]
        simp
      · rw [ih hnodup.2 h]
        rfl

end SchemaBridge.Fields
