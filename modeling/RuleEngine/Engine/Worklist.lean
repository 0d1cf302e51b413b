/-!
# The worklist

Pending ids with ranks, popped lowest rank first and, among equal ranks, earliest pushed first.
Pushing a pending id changes nothing. The structure carries its invariants: distinct ids, the set
holding exactly them, and every entry numbered below the next number.
-/

set_option autoImplicit false

namespace RuleEngine

namespace Worklist

structure Entry where
  rank : Int
  seq : Nat
  id : String
deriving DecidableEq, Repr

/-- The order the heap pops in: by rank, then by push number, then by id. -/
def Entry.le (a b : Entry) : Bool :=
  a.rank < b.rank || (a.rank == b.rank && (a.seq < b.seq || (a.seq == b.seq && decide (a.id ≤ b.id))))

/-- The entry first in the heap's order; among equal entries, the one earliest in the list. -/
def first? : List Entry → Option Entry
  | [] => none
  | e :: rest =>
    match first? rest with
    | none => some e
    | some m => if e.le m then some e else some m

theorem first?_mem : ∀ {es : List Entry} {e : Entry}, first? es = some e → e ∈ es
  | [], _, found => by simp [first?] at found
  | x :: rest, e, found => by
    simp only [first?] at found
    split at found
    · cases found
      exact List.mem_cons_self
    · rename_i m later
      split at found
      · cases found
        exact List.mem_cons_self
      · cases found
        exact List.mem_cons_of_mem x (first?_mem later)

theorem ids_nodup_erase {heap : List Entry} (distinct : (heap.map (·.id)).Nodup) (e : Entry) :
    ((heap.erase e).map (·.id)).Nodup :=
  distinct.sublist (List.erase_sublist.map _)

theorem eq_of_id_eq : ∀ {heap : List Entry}, (heap.map (·.id)).Nodup →
    ∀ {e f : Entry}, e ∈ heap → f ∈ heap → e.id = f.id → e = f
  | [], _, _, _, member, _, _ => absurd member List.not_mem_nil
  | a :: rest, distinct, e, f, memberE, memberF, same => by
    obtain ⟨fresh, distinctRest⟩ := List.nodup_cons.mp distinct
    rcases List.mem_cons.mp memberE with rfl | laterE <;> rcases List.mem_cons.mp memberF with rfl | laterF
    · rfl
    · exact absurd (List.mem_map.mpr ⟨f, laterF, same.symm⟩) fresh
    · exact absurd (List.mem_map.mpr ⟨e, laterE, same⟩) fresh
    · exact eq_of_id_eq distinctRest laterE laterF same

theorem mem_ids_erase {heap : List Entry} (distinct : (heap.map (·.id)).Nodup) {e : Entry}
    (member : e ∈ heap) (x : String) :
    x ∈ (heap.erase e).map (·.id) ↔ x ≠ e.id ∧ x ∈ heap.map (·.id) := by
  have entries : heap.Nodup := List.Pairwise.of_map (·.id) (fun _ _ other same => other (same ▸ rfl)) distinct
  simp only [List.mem_map, entries.mem_erase_iff]
  constructor
  · rintro ⟨f, ⟨other, present⟩, rfl⟩
    exact ⟨fun same => other (eq_of_id_eq distinct present member same), f, present, rfl⟩
  · rintro ⟨other, f, present, rfl⟩
    exact ⟨f, ⟨fun same => other (same ▸ rfl), present⟩, rfl⟩

theorem members_iff_nil (x : String) : x ∈ ([] : List String) ↔ x ∈ ([] : List Entry).map (·.id) :=
  Iff.rfl

theorem seq_lt_nil : ∀ e ∈ ([] : List Entry), e.seq < 0 := fun _ member => nomatch member

end Worklist

structure Worklist where
  heap : List Worklist.Entry := []
  members : List String := []
  nextSeq : Nat := 0
  ids_nodup : (heap.map (·.id)).Nodup := by exact List.nodup_nil
  members_iff : ∀ x, x ∈ members ↔ x ∈ heap.map (·.id) := by exact Worklist.members_iff_nil
  seq_lt : ∀ e ∈ heap, e.seq < nextSeq := by exact Worklist.seq_lt_nil
deriving DecidableEq

namespace Worklist

instance : Inhabited Worklist := ⟨{}⟩

def contains (w : Worklist) (id : String) : Bool := w.members.contains id

/-- Adds an id with a rank unless it is pending; answers whether it was added. -/
def push (w : Worklist) (id : String) (rank : Int) : Worklist × Bool :=
  if absent : w.contains id then (w, false)
  else
    ({ heap := ⟨rank, w.nextSeq, id⟩ :: w.heap
       members := id :: w.members
       nextSeq := w.nextSeq + 1
       ids_nodup := by
         refine List.nodup_cons.mpr ⟨fun present => absent ?_, w.ids_nodup⟩
         simpa [contains] using (w.members_iff id).mpr present
       members_iff := fun x => by simp [w.members_iff x]
       seq_lt := by
         intro e member
         rcases List.mem_cons.mp member with rfl | older
         · exact Nat.lt_succ_self _
         · exact Nat.lt_succ_of_lt (w.seq_lt e older) }, true)

def pop (w : Worklist) : Option String × Worklist :=
  match found : first? w.heap with
  | none => (none, w)
  | some e =>
    (some e.id,
      { heap := w.heap.erase e
        members := w.members.filter (· != e.id)
        nextSeq := w.nextSeq
        ids_nodup := ids_nodup_erase w.ids_nodup e
        members_iff := fun x => by
          rw [mem_ids_erase w.ids_nodup (first?_mem found) x, List.mem_filter, w.members_iff x]
          simp [and_comm]
        seq_lt := fun f member => w.seq_lt f (List.mem_of_mem_erase member) })

/-- The pending ids in the order they will be popped. -/
def pending (w : Worklist) : List String := (w.heap.mergeSort Entry.le).map (·.id)

def size (w : Worklist) : Nat := w.heap.length

def isEmpty (w : Worklist) : Bool := w.heap.isEmpty

def render (w : Worklist) : String := "[" ++ ", ".intercalate w.pending ++ "]"

end Worklist

end RuleEngine
