/-!
# MakeTools.Table

Ordered tables: values under names, in the order in which the names were
first given.  A later value for a name replaces the earlier one and keeps its
place.
-/

namespace MakeTools

/-- A table as the list of its entries, each name once. -/
abbrev Table (α : Type) := List (String × α)

namespace Table

variable {α : Type}

/-- Give a name its value: in its old place, or behind all others if the name
is new. -/
def put (t : Table α) (name : String) (value : α) : Table α :=
  match t with
  | [] => [(name, value)]
  | entry :: rest =>
    if entry.1 = name then (name, value) :: rest else entry :: put rest name value

/-- The table of a list of settings, made one after the other. -/
def ofSettings (settings : List (String × α)) : Table α :=
  settings.foldl (fun t s => t.put s.1 s.2) []

/-- The value of a name. -/
def get? (t : Table α) (name : String) : Option α := t.lookup name

/-- The names, in order. -/
def names (t : Table α) : List String := t.map Prod.fst

/-! ## What a setting does to the view -/

/-- A name that was there keeps its place, a new one goes last. -/
theorem names_put (t : Table α) (name : String) (value : α) :
    (t.put name value).names = if name ∈ t.names then t.names else t.names ++ [name] := by
  induction t with
  | nil => simp [put, names]
  | cons entry rest ih =>
    obtain ⟨key, old⟩ := entry
    simp only [names, List.map_cons] at ih ⊢
    by_cases h : key = name
    · simp [put, h]
    · by_cases hm : name ∈ List.map Prod.fst rest
      · simp [put, h, Ne.symm h, hm, ih]
      · simp [put, h, Ne.symm h, hm, ih]

/-- The value just given is the one found. -/
theorem get?_put_self (t : Table α) (name : String) (value : α) :
    (t.put name value).get? name = some value := by
  induction t with
  | nil => simp [put, get?]
  | cons entry rest ih =>
    obtain ⟨key, old⟩ := entry
    simp only [get?] at ih ⊢
    by_cases h : key = name
    · simp [put, h]
    · have hb : (name == key) = false := by simp [Ne.symm h]
      simp [put, h, List.lookup_cons, hb, ih]

/-- The other names keep their values. -/
theorem get?_put_of_ne (t : Table α) {name other : String} (value : α) (h : other ≠ name) :
    (t.put name value).get? other = t.get? other := by
  have hb : (other == name) = false := by simp [h]
  induction t with
  | nil => simp [put, get?, List.lookup_cons, hb]
  | cons entry rest ih =>
    obtain ⟨key, old⟩ := entry
    simp only [get?] at ih ⊢
    by_cases he : key = name
    · simp [put, he, List.lookup_cons, hb]
    · simp [put, he, List.lookup_cons, ih]

/-- Of several values that a name was given, the last one is found. -/
theorem get?_foldl_put (settings : List (String × α)) (t : Table α) (name : String) :
    get? (settings.foldl (fun t s => t.put s.1 s.2) t) name =
      (settings.reverse.lookup name).or (t.get? name) := by
  induction settings generalizing t with
  | nil => rfl
  | cons s settings ih =>
    obtain ⟨key, value⟩ := s
    rw [List.foldl_cons, ih, List.reverse_cons, List.lookup_append, Option.or_assoc]
    congr 1
    by_cases h : name = key
    · simp [h, get?_put_self]
    · have hb : (name == key) = false := by simp [h]
      simp [get?_put_of_ne t value h, List.lookup_cons, hb]

theorem get?_ofSettings (settings : List (String × α)) (name : String) :
    (ofSettings settings).get? name = settings.reverse.lookup name := by
  rw [ofSettings, get?_foldl_put]
  simp [get?]

end Table
end MakeTools
