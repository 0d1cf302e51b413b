/-!
# Tables by id

Entries sorted by id (code-point order), each id once; inserting an id that is there replaces
its entry.
-/

set_option autoImplicit false

namespace RuleEngine

structure IdMap (α : Type) where
  entries : List (String × α) := []
deriving DecidableEq, Repr

namespace IdMap

variable {α : Type}

instance : Inhabited (IdMap α) := ⟨{}⟩

def get? (m : IdMap α) (id : String) : Option α :=
  (m.entries.find? (·.1 == id)).map (·.2)

def contains (m : IdMap α) (id : String) : Bool := m.entries.any (·.1 == id)

/-- Inserts into a sorted list, replacing the entry of an equal id. -/
def insertSorted (id : String) (a : α) : List (String × α) → List (String × α)
  | [] => [(id, a)]
  | (k, b) :: rest =>
    if id < k then (id, a) :: (k, b) :: rest
    else if id = k then (id, a) :: rest
    else (k, b) :: insertSorted id a rest

def insert (m : IdMap α) (id : String) (a : α) : IdMap α := ⟨insertSorted id a m.entries⟩

def modify (m : IdMap α) (id : String) (f : α → α) : IdMap α :=
  ⟨m.entries.map fun (k, a) => if k == id then (k, f a) else (k, a)⟩

def keys (m : IdMap α) : List String := m.entries.map (·.1)

def values (m : IdMap α) : List α := m.entries.map (·.2)

def size (m : IdMap α) : Nat := m.entries.length

theorem get?_insert_self (m : IdMap α) (id : String) (a : α) : (m.insert id a).get? id = some a := by
  simp only [insert, get?]
  induction m.entries with
  | nil => simp [insertSorted]
  | cons e rest ih =>
    obtain ⟨k, b⟩ := e
    simp only [insertSorted]
    split
    · simp
    · split
      · simp
      · rename_i h1 h2
        simp only [List.find?_cons]
        have : (k == id) = false := by simp; exact fun h => h2 h.symm
        simpa [this] using ih

end IdMap

end RuleEngine
