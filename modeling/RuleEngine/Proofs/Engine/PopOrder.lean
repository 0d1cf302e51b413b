import RuleEngine.Engine.Worklist

/-! # The worklist pops in rank order

The heap's order (rank, then push number, then id) is total, so a pop takes the least pending
entry; seen as its entries in pop order, a worklist behaves as a ranked list over any sequence of
operations. -/
set_option autoImplicit false
namespace RuleEngine

namespace Worklist

namespace Entry

theorem le_iff {a b : Entry} : a.le b = true ↔
    a.rank < b.rank ∨ a.rank = b.rank ∧ (a.seq < b.seq ∨ a.seq = b.seq ∧ a.id ≤ b.id) := by
  simp [le]

theorem le_total (a b : Entry) : (a.le b || b.le a) = true := by
  simp only [Bool.or_eq_true, le_iff]
  have := String.le_total a.id b.id
  grind

theorem le_refl (a : Entry) : a.le a = true := by
  simpa using le_total a a

theorem le_trans {a b c : Entry} (ab : a.le b = true) (bc : b.le c = true) : a.le c = true := by
  rw [le_iff] at *
  have := @String.le_trans a.id b.id c.id
  grind

theorem le_antisymm {a b : Entry} (ab : a.le b = true) (ba : b.le a = true) : a = b := by
  rw [le_iff] at ab ba
  have := @String.le_antisymm a.id b.id
  cases a
  cases b
  simp only [Entry.mk.injEq]
  grind

theorem le_of_seq_lt {a b : Entry} (later : b.seq < a.seq) : a.le b = decide (a.rank < b.rank) := by
  simp only [le]
  grind

end Entry

/-! ## The first entry -/

theorem first?_eq_none : ∀ {es : List Entry}, first? es = none ↔ es = []
  | [] => by simp [first?]
  | e :: rest => by
    simp only [first?, reduceCtorEq, iff_false]
    split <;> (try split) <;> simp

theorem first?_le : ∀ {es : List Entry} {e : Entry}, first? es = some e → ∀ f ∈ es, e.le f = true
  | [], _, found => by simp [first?] at found
  | x :: rest, e, found => by
    intro f member
    simp only [first?] at found
    split at found
    · -- nothing follows `x`
      rename_i nothing
      obtain rfl : x = e := Option.some.inj found
      obtain rfl : rest = [] := first?_eq_none.mp nothing
      obtain rfl : f = x := List.mem_singleton.mp member
      exact Entry.le_refl f
    · rename_i m later
      have mFirst := first?_le later
      split at found
      · rename_i before
        obtain rfl : x = e := Option.some.inj found
        rcases List.mem_cons.mp member with rfl | inRest
        · exact Entry.le_refl f
        · exact Entry.le_trans before (mFirst f inRest)
      · rename_i notBefore
        obtain rfl : m = e := Option.some.inj found
        rcases List.mem_cons.mp member with rfl | inRest
        · simpa [notBefore] using Entry.le_total f m
        · exact mFirst f inRest

/-! ## Pop order -/

theorem pairwise_mergeSort (es : List Entry) :
    (es.mergeSort Entry.le).Pairwise (fun a b => a.le b = true) :=
  @List.pairwise_mergeSort _ Entry.le (fun _ _ _ => Entry.le_trans) Entry.le_total es

theorem mergeSort_of_first? {es : List Entry} {e : Entry} (found : first? es = some e) :
    es.mergeSort Entry.le = e :: (es.erase e).mergeSort Entry.le := by
  have member := first?_mem found
  have perm : (es.mergeSort Entry.le).Perm (e :: (es.erase e).mergeSort Entry.le) :=
    (List.mergeSort_perm es _).trans
      ((List.perm_cons_erase member).trans ((List.mergeSort_perm _ _).symm.cons e))
  refine perm.eq_of_pairwise (fun a b _ _ => Entry.le_antisymm) (pairwise_mergeSort es) ?_
  refine List.pairwise_cons.mpr ⟨fun f sorted => ?_, pairwise_mergeSort _⟩
  exact first?_le found f (List.mem_of_mem_erase (List.mem_mergeSort.mp sorted))

theorem mem_pending (w : Worklist) (y : String) : y ∈ w.pending ↔ y ∈ w.heap.map (·.id) := by
  simp only [pending, List.mem_map, List.mem_mergeSort]

theorem pending_perm (w : Worklist) : w.pending.Perm (w.heap.map (·.id)) :=
  (List.mergeSort_perm w.heap Entry.le).map Entry.id

theorem contains_iff (w : Worklist) (id : String) : w.contains id = true ↔ id ∈ w.pending := by
  rw [mem_pending, ← w.members_iff id]
  simp [contains]

theorem pop_some {w w' : Worklist} {id : String} (popped : w.pop = (some id, w')) :
    ∃ e, first? w.heap = some e ∧ e.id = id ∧ w'.heap = w.heap.erase e ∧ w'.nextSeq = w.nextSeq := by
  unfold pop at popped
  split at popped
  · cases popped
  · rename_i e found
    cases popped
    exact ⟨e, found, rfl, rfl, rfl⟩

theorem pop_none {w w' : Worklist} (popped : w.pop = (none, w')) : w.heap = [] ∧ w' = w := by
  unfold pop at popped
  split at popped
  · rename_i found
    cases popped
    exact ⟨first?_eq_none.mp found, rfl⟩
  · cases popped

theorem pop_eq_none_iff (w : Worklist) : w.pop.1 = none ↔ w.heap = [] := by
  cases popped : w.pop with
  | mk head w' =>
    cases head with
    | none => exact ⟨fun _ => (pop_none popped).1, fun _ => rfl⟩
    | some id =>
        obtain ⟨e, found, -, -, -⟩ := pop_some popped
        refine ⟨fun answered => (by cases answered), fun empty => ?_⟩
        simp [empty, first?] at found

theorem pop_least {w w' : Worklist} {id : String} (popped : w.pop = (some id, w')) :
    ∃ e ∈ w.heap, e.id = id ∧ w'.heap = w.heap.erase e ∧
      ∀ f ∈ w.heap, e.rank < f.rank ∨ e.rank = f.rank ∧ e.seq ≤ f.seq := by
  obtain ⟨e, found, named, heap, -⟩ := pop_some popped
  refine ⟨e, first?_mem found, named, heap, fun f member => ?_⟩
  have first := Entry.le_iff.mp (first?_le found f member)
  omega

theorem pending_of_pop_some {w w' : Worklist} {id : String} (popped : w.pop = (some id, w')) :
    w.pending = id :: w'.pending := by
  obtain ⟨e, found, rfl, heap, -⟩ := pop_some popped
  simp only [pending, heap, mergeSort_of_first? found, List.map_cons]

theorem pending_of_pop_none {w w' : Worklist} (popped : w.pop = (none, w')) : w.pending = [] := by
  simp [pending, (pop_none popped).1]

theorem pending_of_isEmpty {w : Worklist} (empty : w.isEmpty = true) : w.pending = [] := by
  simp [pending, List.isEmpty_iff.mp (by simpa [isEmpty] using empty)]

/-! ## Pushes -/

theorem push_of_contains {w : Worklist} {id : String} (present : w.contains id = true) (rank : Int) :
    w.push id rank = (w, false) := by
  simp [push, present]

theorem push_of_not_contains {w : Worklist} {id : String} (absent : w.contains id = false) (rank : Int) :
    (w.push id rank).2 = true ∧ (w.push id rank).1.heap = ⟨rank, w.nextSeq, id⟩ :: w.heap ∧
      (w.push id rank).1.nextSeq = w.nextSeq + 1 := by
  simp [push, absent]

theorem mem_pending_push (w : Worklist) (id : String) (rank : Int) (y : String) :
    y ∈ (w.push id rank).1.pending ↔ y = id ∨ y ∈ w.pending := by
  cases present : w.contains id
  · rw [mem_pending, (push_of_not_contains present rank).2.1, mem_pending]
    simp [eq_comm]
  · rw [push_of_contains present]
    constructor
    · exact .inr
    · rintro (rfl | member)
      · exact (contains_iff w y).mp present
      · exact member

/-- The ids successive pops answer, at most `n` of them. -/
def drain : Nat → Worklist → List String
  | 0, _ => []
  | n + 1, w =>
    match w.pop with
    | (some id, w') => id :: drain n w'
    | (none, _) => []

theorem pending_eq_drain : ∀ (n : Nat) (w : Worklist), w.size = n → w.pending = drain n w
  | 0, w, empty => by
    simp [pending, List.length_eq_zero_iff.mp (show w.heap.length = 0 from empty), drain]
  | n + 1, w, nonEmpty => by
    cases popped : w.pop with
    | mk head w' =>
      cases head with
      | none =>
          have := (pop_none popped).1
          simp [size, this] at nonEmpty
      | some id =>
          obtain ⟨e, found, -, heap, -⟩ := pop_some popped
          have fewer : w'.size = n := by
            have : (w.heap.erase e).length = w.heap.length - 1 := List.length_erase_of_mem (first?_mem found)
            simp only [size, heap] at nonEmpty ⊢
            omega
          rw [pending_of_pop_some popped, drain, popped, pending_eq_drain n w' fewer]

/-! ## The list a worklist behaves as -/

/-- The entries in pop order, as (id, rank) pairs. -/
def view (w : Worklist) : List (String × Int) := (w.heap.mergeSort Entry.le).map fun e => (e.id, e.rank)

end Worklist

namespace RankedList

/-- Inserts a pair after every pair of lower or equal rank. -/
def insert (e : String × Int) : List (String × Int) → List (String × Int)
  | [] => [e]
  | x :: rest => if e.2 < x.2 then e :: x :: rest else x :: insert e rest

def contains (l : List (String × Int)) (id : String) : Bool := l.any (·.1 == id)

/-- Inserts a pair unless its id has one, which keeps its first rank; answers whether it was
inserted. -/
def push (l : List (String × Int)) (id : String) (rank : Int) : List (String × Int) × Bool :=
  if contains l id then (l, false) else (insert (id, rank) l, true)

def pop : List (String × Int) → Option String × List (String × Int)
  | [] => (none, [])
  | e :: rest => (some e.1, rest)

theorem insert_append {e : String × Int} {front : List (String × Int)} (notAbove : ∀ x ∈ front, ¬ e.2 < x.2)
    (back : List (String × Int)) : insert e (front ++ back) = front ++ insert e back := by
  induction front with
  | nil => rfl
  | cons x rest ih =>
      simp only [List.cons_append, insert, notAbove x List.mem_cons_self, if_false]
      rw [ih fun y member => notAbove y (List.mem_cons_of_mem x member)]

theorem insert_perm (e : String × Int) (l : List (String × Int)) : (insert e l).Perm (e :: l) := by
  induction l with
  | nil => exact List.Perm.refl _
  | cons x rest ih =>
      simp only [insert]
      split
      · exact List.Perm.refl _
      · exact (ih.cons x).trans (List.Perm.swap e x rest)

theorem mem_insert (e : String × Int) (l : List (String × Int)) (x : String × Int) :
    x ∈ insert e l ↔ x = e ∨ x ∈ l := by
  rw [(insert_perm e l).mem_iff, List.mem_cons]

theorem pairwise_insert (e : String × Int) :
    ∀ {l : List (String × Int)}, l.Pairwise (fun a b => a.2 ≤ b.2) → (insert e l).Pairwise (fun a b => a.2 ≤ b.2)
  | [], _ => List.pairwise_singleton _ _
  | x :: rest, sorted => by
    obtain ⟨xFirst, sortedRest⟩ := List.pairwise_cons.mp sorted
    simp only [insert]
    split
    · rename_i below
      refine List.pairwise_cons.mpr ⟨fun y member => ?_, sorted⟩
      rcases List.mem_cons.mp member with rfl | later
      · omega
      · have := xFirst y later
        omega
    · rename_i notBelow
      refine List.pairwise_cons.mpr ⟨fun y member => ?_, pairwise_insert e sortedRest⟩
      rcases (mem_insert e rest y).mp member with rfl | later
      · omega
      · exact xFirst y later

end RankedList

namespace Worklist

theorem pending_eq_view (w : Worklist) : w.pending = w.view.map (·.1) := by
  simp [pending, view, List.map_map, Function.comp_def]

theorem contains_eq_view (w : Worklist) (id : String) : w.contains id = RankedList.contains w.view id := by
  rw [Bool.eq_iff_iff, contains_iff, pending_eq_view]
  simp [RankedList.contains]

theorem size_eq_view (w : Worklist) : w.size = w.view.length := by
  simp [size, view]

theorem view_pairwise (w : Worklist) : w.view.Pairwise (fun a b => a.2 ≤ b.2) := by
  refine List.pairwise_map.mpr ((pairwise_mergeSort w.heap).imp fun {a b} before => ?_)
  have := Entry.le_iff.mp before
  omega

theorem view_ids_nodup (w : Worklist) : (w.view.map (·.1)).Nodup := by
  rw [← pending_eq_view]
  exact ((List.mergeSort_perm w.heap Entry.le).map (·.id)).nodup_iff.mpr w.ids_nodup

theorem view_push (w : Worklist) (id : String) (rank : Int) :
    (w.push id rank).1.view = (RankedList.push w.view id rank).1 ∧
      (w.push id rank).2 = (RankedList.push w.view id rank).2 := by
  cases present : w.contains id
  · obtain ⟨added, heap, -⟩ := push_of_not_contains present rank
    have absent : RankedList.contains w.view id = false := by rw [← contains_eq_view, present]
    simp only [RankedList.push, absent, Bool.false_eq_true, if_false, added, and_true]
    obtain ⟨front, back, placed, sorted, notBehind⟩ :=
      @List.mergeSort_cons _ Entry.le (fun _ _ _ => Entry.le_trans) Entry.le_total
        ⟨rank, w.nextSeq, id⟩ w.heap
    have older : ∀ e ∈ front ++ back, e.seq < w.nextSeq := fun e member =>
      w.seq_lt e (List.mem_mergeSort.mp (sorted ▸ member))
    have frontNotAbove : ∀ x ∈ front.map (fun e => (e.id, e.rank)), ¬ rank < x.2 := by
      intro x member
      obtain ⟨e, inFront, rfl⟩ := List.mem_map.mp member
      have notFirst := notBehind e inFront
      rw [Entry.le_of_seq_lt (older e (List.mem_append_left back inFront))] at notFirst
      simpa using notFirst
    have backAbove : ∀ e ∈ back.take 1, rank < e.rank := by
      intro e member
      have sortedAll := pairwise_mergeSort (⟨rank, w.nextSeq, id⟩ :: w.heap)
      rw [placed] at sortedAll
      have first : (⟨rank, w.nextSeq, id⟩ : Entry).le e = true :=
        (List.pairwise_cons.mp (List.pairwise_append.mp sortedAll).2.1).1 e (List.mem_of_mem_take member)
      rw [Entry.le_of_seq_lt (older e (List.mem_append_right front (List.mem_of_mem_take member)))] at first
      simpa using first
    simp only [view, heap, placed, sorted, List.map_append, List.map_cons]
    rw [RankedList.insert_append (e := (id, rank)) frontNotAbove]
    congr 1
    cases back with
    | nil => rfl
    | cons e rest => simp [RankedList.insert, backAbove e (by simp)]
  · have inView : RankedList.contains w.view id = true := by rw [← contains_eq_view, present]
    simp [push_of_contains present, RankedList.push, inView]

theorem view_pop (w : Worklist) : w.pop.2.view = (RankedList.pop w.view).2 ∧ w.pop.1 = (RankedList.pop w.view).1 := by
  cases popped : w.pop with
  | mk head w' =>
    cases head with
    | none =>
        obtain ⟨empty, rfl⟩ := pop_none popped
        simp [view, empty, RankedList.pop]
    | some id =>
        obtain ⟨e, found, rfl, heap, -⟩ := pop_some popped
        simp [view, heap, mergeSort_of_first? found, RankedList.pop]

/-! ## Sequences of operations -/

inductive Op where
  | push (id : String) (rank : Int)
  | pop
  | contains (id : String)

inductive Reply where
  | added (fresh : Bool)
  | popped (id : Option String)
  | present (member : Bool)
deriving DecidableEq

def perform (w : Worklist) : Op → Worklist × Reply
  | .push id rank => let (w', added) := w.push id rank; (w', .added added)
  | .pop => let (id, w') := w.pop; (w', .popped id)
  | .contains id => (w, .present (w.contains id))

def replay : Worklist → List Op → Worklist × List Reply
  | w, [] => (w, [])
  | w, op :: rest =>
    let (w', reply) := w.perform op
    let (w'', replies) := replay w' rest
    (w'', reply :: replies)

end Worklist

namespace RankedList

def perform (l : List (String × Int)) : Worklist.Op → List (String × Int) × Worklist.Reply
  | .push id rank => let (l', added) := push l id rank; (l', .added added)
  | .pop => let (id, l') := pop l; (l', .popped id)
  | .contains id => (l, .present (contains l id))

def replay : List (String × Int) → List Worklist.Op → List (String × Int) × List Worklist.Reply
  | l, [] => (l, [])
  | l, op :: rest =>
    let (l', reply) := perform l op
    let (l'', replies) := replay l' rest
    (l'', reply :: replies)

end RankedList

namespace Worklist

theorem view_perform (w : Worklist) (op : Op) :
    (w.perform op).1.view = (RankedList.perform w.view op).1 ∧
      (w.perform op).2 = (RankedList.perform w.view op).2 := by
  cases op with
  | push id rank =>
      obtain ⟨viewed, answered⟩ := view_push w id rank
      simp only [perform, RankedList.perform, viewed, answered, and_self]
  | pop =>
      obtain ⟨viewed, answered⟩ := view_pop w
      simp only [perform, RankedList.perform, viewed, answered, and_self]
  | contains id => simp [perform, RankedList.perform, contains_eq_view]

theorem view_replay : ∀ (ops : List Op) (w : Worklist),
    (w.replay ops).1.view = (RankedList.replay w.view ops).1 ∧
      (w.replay ops).2 = (RankedList.replay w.view ops).2
  | [], w => ⟨rfl, rfl⟩
  | op :: rest, w => by
    obtain ⟨viewed, answered⟩ := view_perform w op
    obtain ⟨viewedRest, answeredRest⟩ := view_replay rest (w.perform op).1
    simp only [replay, RankedList.replay, ← viewed, ← answered, viewedRest, answeredRest, and_self]

end Worklist

/-- From the empty worklist any sequence of pushes, pops and membership tests answers as the ranked
list does: the pending ids, count and membership are the list's, each pending id once. -/
theorem worklist_behaves_as_rankedList (ops : List Worklist.Op) :
    let run := ({} : Worklist).replay ops
    let spec := RankedList.replay [] ops
    run.2 = spec.2 ∧ run.1.view = spec.1 ∧ run.1.pending = spec.1.map (·.1) ∧ run.1.size = spec.1.length ∧
      (∀ id, run.1.contains id = RankedList.contains spec.1 id) ∧
      (spec.1.map (·.1)).Nodup ∧ spec.1.Pairwise (fun a b => a.2 ≤ b.2) ∧
      (run.1.heap.map (·.id)).Nodup ∧ (∀ x, x ∈ run.1.members ↔ x ∈ run.1.heap.map (·.id)) ∧
      run.1.pending = Worklist.drain run.1.size run.1 := by
  intro run spec
  obtain ⟨viewed, answered⟩ := Worklist.view_replay ops {}
  have fresh : ({} : Worklist).view = [] := by simp [Worklist.view]
  rw [fresh] at viewed answered
  refine ⟨answered, viewed, ?_, ?_, fun id => ?_, ?_, ?_, run.1.ids_nodup, run.1.members_iff,
    Worklist.pending_eq_drain _ run.1 rfl⟩
  · rw [Worklist.pending_eq_view, viewed]
  · rw [Worklist.size_eq_view, viewed]
  · rw [Worklist.contains_eq_view, viewed]
  · rw [← viewed]
    exact run.1.view_ids_nodup
  · rw [← viewed]
    exact run.1.view_pairwise

end RuleEngine
