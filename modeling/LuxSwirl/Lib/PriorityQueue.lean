import Mathlib.Data.List.Sort

/-!
# Priority queues

Entries come out by their keys, the least first. A queue is a list of entries in the order of
their keys: `put` inserts one, and `get` takes the head.
-/

namespace LuxSwirl.Lib

structure PriorityQueue {α κ : Type*} [LinearOrder κ] (key : α → κ) where
  entries : List α
  ordered : entries.Pairwise fun a b => key a ≤ key b

namespace PriorityQueue

variable {α κ : Type*} [LinearOrder κ] {key : α → κ}

def empty : PriorityQueue key := ⟨[], List.Pairwise.nil⟩

def put (entry : α) (queue : PriorityQueue key) : PriorityQueue key where
  entries := queue.entries.orderedInsert (fun a b => key a ≤ key b) entry
  ordered := queue.ordered.orderedInsert entry _

def get (queue : PriorityQueue key) : Option (α × PriorityQueue key) :=
  match queue with
  | ⟨[], _⟩ => none
  | ⟨first :: rest, ordered⟩ => some (first, ⟨rest, ordered.of_cons⟩)

theorem perm_put (entry : α) (queue : PriorityQueue key) : (queue.put entry).entries.Perm (entry :: queue.entries) :=
  List.perm_orderedInsert ..

theorem mem_put {entry other : α} {queue : PriorityQueue key} :
    other ∈ (queue.put entry).entries ↔ other = entry ∨ other ∈ queue.entries := by
  rw [(perm_put entry queue).mem_iff, List.mem_cons]

/-- What comes out is the first entry, and no other has a lesser key. -/
theorem of_get {queue rest : PriorityQueue key} {first : α} (got : queue.get = some (first, rest)) :
    queue.entries = first :: rest.entries ∧ ∀ other ∈ rest.entries, key first ≤ key other := by
  obtain ⟨entries, ordered⟩ := queue
  cases entries with
  | nil => cases got
  | cons head tail =>
    cases got
    exact ⟨rfl, (List.pairwise_cons.mp ordered).1⟩

end PriorityQueue

end LuxSwirl.Lib
