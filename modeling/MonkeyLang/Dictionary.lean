/-! Finite maps from names. Names are listed in the order in which they first came. -/

namespace MonkeyLang

structure Dictionary (α : Type) where
  entries : List (String × α)

namespace Dictionary

variable {α : Type}

def empty : Dictionary α := ⟨[]⟩

def find? (dictionary : Dictionary α) (name : String) : Option α :=
  (dictionary.entries.find? (·.1 == name)).map (·.2)

/-- Replaces the entry of a name where it stands, and adds a new name at the end. -/
def insertEntry (name : String) (value : α) : List (String × α) → List (String × α)
  | [] => [(name, value)]
  | entry :: rest =>
      if entry.1 = name then (name, value) :: rest else entry :: insertEntry name value rest

def insert (dictionary : Dictionary α) (name : String) (value : α) : Dictionary α :=
  ⟨insertEntry name value dictionary.entries⟩

theorem find?_empty (name : String) : (empty : Dictionary α).find? name = none := rfl

theorem find?_insert (dictionary : Dictionary α) (name query : String) (value : α) :
    (dictionary.insert name value).find? query =
      if name = query then some value else dictionary.find? query := by
  obtain ⟨entries⟩ := dictionary
  simp only [insert, find?]
  induction entries with
  | nil => by_cases same : name = query <;> simp [insertEntry, same]
  | cons entry rest ih =>
      simp only [insertEntry]
      split
      next found => by_cases same : name = query <;> simp [found, same]
      next other =>
        by_cases here : entry.1 = query
        · have different : ¬name = query := fun same => other (here.trans same.symm)
          simp [here, different]
        · simpa [List.find?_cons, here] using ih

def sorted (dictionary : Dictionary α) : List (String × α) :=
  dictionary.entries.mergeSort fun left right => !decide (right.1 < left.1)

end Dictionary

end MonkeyLang
