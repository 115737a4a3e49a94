/-!
# Ordered fields

A table of named values that remembers the order in which its names first appeared. Objects of a
JSON value, type tables and registries of declarations are all such tables, and every printed
document shows their order.

`Fields.put` is the one way in which tables grow: a new name goes to the end, a name already present
keeps its place and takes the new value. So the place of a name is that of its first insertion and
its value is that of its last one (`value?_put_self`, `value?_put_of_ne`, `names_put`).
-/

set_option autoImplicit false

namespace SchemaBridge

/-- Named values in order of first insertion. -/
abbrev Fields (α : Type) : Type := List (String × α)

namespace Fields

variable {α β : Type}

/-- The value of a name, if the table has the name. -/
def value? (fields : Fields α) (name : String) : Option α :=
  match fields with
  | [] => none
  | (key, value) :: rest => if key = name then some value else value? rest name

/-- The names, in order. -/
def names (fields : Fields α) : List String :=
  List.map Prod.fst fields

/-- Give a name a value: in place when the name is present, at the end otherwise. -/
def put (fields : Fields α) (name : String) (value : α) : Fields α :=
  match fields with
  | [] => [(name, value)]
  | (key, old) :: rest =>
      if key = name then (key, value) :: rest else (key, old) :: put rest name value

/-- Insert every entry of the second table into the first one, in order. -/
def update (fields : Fields α) (extra : Fields α) : Fields α :=
  List.foldl (fun table entry => put table entry.1 entry.2) fields extra

/-- The table without a name. -/
def without (fields : Fields α) (name : String) : Fields α :=
  List.filter (fun entry => entry.1 ≠ name) fields

/-- The table built by inserting the entries of a list one after another. -/
def ofEntries (entries : List (String × α)) : Fields α :=
  update [] entries

/-! ## How lookup and insertion fit together -/

theorem value?_put_self (fields : Fields α) (name : String) (value : α) :
    value? (put fields name value) name = some value := by
  induction fields with
  | nil => simp [put, value?]
  | cons entry rest ih =>
      obtain ⟨key, old⟩ := entry
      by_cases h : key = name
      · simp [put, value?, h]
      · simp [put, value?, h, ih]

theorem value?_put_of_ne (fields : Fields α) {name other : String} (value : α)
    (hne : other ≠ name) : value? (put fields name value) other = value? fields other := by
  induction fields with
  | nil => simp [put, value?, Ne.symm hne]
  | cons entry rest ih =>
      obtain ⟨key, old⟩ := entry
      by_cases h : key = name
      · subst h
        simp [put, value?, Ne.symm hne]
      · by_cases ho : key = other
        · subst ho
          simp [put, value?, hne]
        · simp [put, value?, h, ho, ih]

/-- Insertion keeps the names and adds the new one at the end when it is missing. -/
theorem names_put (fields : Fields α) (name : String) (value : α) :
    names (put fields name value) =
      if name ∈ names fields then names fields else names fields ++ [name] := by
  induction fields with
  | nil => simp [put, names]
  | cons entry rest ih =>
      obtain ⟨key, old⟩ := entry
      by_cases h : key = name
      · simp [put, names, h]
      · by_cases hm : name ∈ names rest
        · simp only [hm, if_true] at ih
          simp only [names] at hm ih ⊢
          simp [put, h, hm, ih]
        · simp only [hm, if_false] at ih
          simp only [names] at hm ih ⊢
          simp [put, h, hm, ih, Ne.symm h]

/-- A name has a value exactly when it is among the names. -/
theorem value?_eq_none_iff (fields : Fields α) (name : String) :
    value? fields name = none ↔ name ∉ names fields := by
  induction fields with
  | nil => simp [value?, names]
  | cons entry rest ih =>
      obtain ⟨key, old⟩ := entry
      by_cases h : key = name
      · simp [value?, names, h]
      · simp only [names] at ih ⊢
        simp [value?, h, ih, Ne.symm h]

theorem mem_names_of_value? {fields : Fields α} {name : String} {value : α}
    (h : value? fields name = some value) : name ∈ names fields := by
  apply Decidable.byContradiction
  intro hn
  rw [(value?_eq_none_iff fields name).2 hn] at h
  cases h

/-- A looked-up value stands in the table. -/
theorem mem_of_value? {fields : Fields α} {name : String} {value : α}
    (h : value? fields name = some value) : (name, value) ∈ fields := by
  induction fields with
  | nil => simp [value?] at h
  | cons entry rest ih =>
      obtain ⟨key, old⟩ := entry
      by_cases hk : key = name
      · simp only [value?, hk, if_true, Option.some.injEq] at h
        simp [hk, h]
      · simp only [value?, hk, if_false] at h
        exact List.mem_cons_of_mem _ (ih h)

end Fields

end SchemaBridge
