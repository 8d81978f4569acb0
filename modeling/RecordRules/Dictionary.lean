set_option autoImplicit false

namespace RecordRules

structure Dictionary (α : Type) where
  entries : List (String × α)
deriving DecidableEq, Repr

namespace Dictionary

variable {α : Type}

def empty : Dictionary α := ⟨[]⟩

def insertEntry (name : String) (value : α) : List (String × α) → List (String × α)
  | [] => [(name, value)]
  | (key, old) :: rest =>
      if name = key then (name, value) :: rest
      else if name < key then (name, value) :: (key, old) :: rest
      else (key, old) :: insertEntry name value rest

def insert (map : Dictionary α) (name : String) (value : α) : Dictionary α :=
  ⟨insertEntry name value map.entries⟩

def insertAll (map : Dictionary α) (entries : List (String × α)) : Dictionary α :=
  entries.foldl (fun map entry => map.insert entry.1 entry.2) map

def ofList (entries : List (String × α)) : Dictionary α := empty.insertAll entries

def find? (map : Dictionary α) (name : String) : Option α :=
  (map.entries.find? (·.1 = name)).map (·.2)

def contains (map : Dictionary α) (name : String) : Bool := (map.find? name).isSome

def names (map : Dictionary α) : List String := map.entries.map (·.1)

def size (map : Dictionary α) : Nat := map.entries.length

theorem find_insert_entry (entries : List (String × α)) (name other : String) (value : α) :
    (insertEntry name value entries).find? (·.1 = other) =
      if name = other then some (name, value) else entries.find? (·.1 = other) := by
  induction entries with
  | nil => by_cases hit : name = other <;> simp [insertEntry, hit]
  | cons entry rest ih =>
      obtain ⟨key, old⟩ := entry
      by_cases same : name = key
      · subst same
        by_cases hit : name = other <;> simp [insertEntry, hit]
      · by_cases before : name < key
        · rw [insertEntry, if_neg same, if_pos before]
          by_cases hit : name = other <;> simp [hit]
        · rw [insertEntry, if_neg same, if_neg before, List.find?_cons, List.find?_cons, ih]
          by_cases hit : key = other
          · simp [hit, show name ≠ other from fun equal => same (equal.trans hit.symm)]
          · simp [hit]

@[simp] theorem find_insert (map : Dictionary α) (name other : String) (value : α) :
    (map.insert name value).find? other = if name = other then some value else map.find? other := by
  by_cases hit : name = other <;> simp [insert, find?, find_insert_entry, hit]

@[simp] theorem find_empty (name : String) : (empty : Dictionary α).find? name = none := rfl

theorem find_insert_all (map : Dictionary α) (entries : List (String × α)) (name : String) :
    (map.insertAll entries).find? name = ((ofList entries).find? name).or (map.find? name) := by
  induction entries generalizing map with
  | nil => rfl
  | cons entry rest ih =>
      have step : map.insertAll (entry :: rest) = (map.insert entry.1 entry.2).insertAll rest := rfl
      have own : ofList (entry :: rest) = (empty.insert entry.1 entry.2).insertAll rest := rfl
      rw [step, own, ih, ih (empty.insert entry.1 entry.2), find_insert, find_insert, find_empty]
      cases (ofList rest).find? name with
      | some value => rfl
      | none => by_cases same : entry.1 = name <;> simp [same]

end Dictionary

end RecordRules
