import IotstackDriver.Utils.ListRuns
import IotstackDriver.Utils.ListQueries

/-! What the functions of the list leave alone: nodes of other lists in the same heap. -/

namespace IotstackDriver.Utils

open Support

variable {α : Type} {list list' : LinkedList α} {heap heap' : Heap α} {nodes before after : List NodeRef}
  {node other : NodeRef} {ptr link result : Option NodeRef}

theorem Heap.write_frame {change : ListNode α → ListNode α} (written : heap.write ptr change = some heap')
    (apart : ptr ≠ some other) : heap'.node other = heap.node other := by
  obtain ⟨ref, rfl, written⟩ := Option.bind_eq_some_iff.mp written
  obtain ⟨own, -, same⟩ := Option.bind_eq_some_iff.mp written
  cases same
  exact Function.update_of_ne (fun equal => apart (congrArg some equal.symm)) ..

theorem Heap.release_frame (released : heap.release ptr = some heap') (apart : ptr ≠ some other) :
    heap'.node other = heap.node other := by
  obtain ⟨ref, rfl, released⟩ := Option.bind_eq_some_iff.mp released
  obtain ⟨own, -, same⟩ := Option.bind_eq_some_iff.mp released
  cases same
  exact Function.update_of_ne (fun equal => apart (congrArg some equal.symm)) ..

/-- A push writes to the node and to the last one. -/
theorem listRpush_frame (pushed : listRpush list (some node) heap = some (result, list', heap'))
    (apart : other ≠ node) (behind : list.tail ≠ some other) : heap'.node other = heap.node other := by
  have here : some node ≠ some other := fun same => apart (Option.some.inj same).symm
  unfold listRpush at pushed
  simp only [reduceCtorEq, ↓reduceIte, Option.bind_eq_bind] at pushed
  split at pushed
  · obtain ⟨first, set, pushed⟩ := Option.bind_eq_some_iff.mp pushed
    obtain ⟨second, set', pushed⟩ := Option.bind_eq_some_iff.mp pushed
    obtain ⟨third, set'', same⟩ := Option.bind_eq_some_iff.mp pushed
    cases same
    exact (Heap.write_frame set'' behind).trans
      ((Heap.write_frame set' here).trans (Heap.write_frame set here))
  · obtain ⟨first, set, pushed⟩ := Option.bind_eq_some_iff.mp pushed
    obtain ⟨second, set', same⟩ := Option.bind_eq_some_iff.mp pushed
    cases same
    exact (Heap.write_frame set' here).trans (Heap.write_frame set here)

private theorem bypassNext_frame {own : ListNode α} (bypassed : bypassNext list own heap = some (list', heap'))
    (apart : own.prev ≠ some other) : heap'.node other = heap.node other := by
  unfold bypassNext at bypassed
  split at bypassed
  · rename_i prev found
    obtain ⟨written, set, same⟩ := Option.map_eq_some_iff.mp bypassed
    cases same
    exact Heap.write_frame set (found ▸ apart)
  · cases bypassed
    rfl

private theorem bypassPrev_frame {own : ListNode α} (bypassed : bypassPrev list own heap = some (list', heap'))
    (apart : own.next ≠ some other) : heap'.node other = heap.node other := by
  unfold bypassPrev at bypassed
  split at bypassed
  · rename_i next found
    obtain ⟨written, set, same⟩ := Option.map_eq_some_iff.mp bypassed
    cases same
    exact Heap.write_frame set (found ▸ apart)
  · cases bypassed
    rfl

/-- An unlinking writes to the nodes of its list only. -/
theorem listRemove_frame (valid : WellFormed list heap (before ++ node :: after))
    (removed : listRemove list (some node) heap = some (list', heap'))
    (apart : other ∉ before ++ node :: after) : heap'.node other = heap.node other := by
  have member : node ∈ before ++ node :: after := by simp
  obtain ⟨own, found⟩ := Option.isSome_iff_exists.mp (valid.allocated member)
  have back : own.prev = before.getLast? := by
    simpa [Heap.prev, found] using valid.prev_eq
  have ahead : own.next = after.head? := by
    simpa [Heap.next, found] using valid.next_eq
  have behind : own.prev ≠ some other := by
    rw [back]
    exact fun same => apart (List.mem_append_left _ (List.mem_of_getLast? same))
  have beyond : own.next ≠ some other := by
    rw [ahead]
    exact fun same => apart (by simp [List.mem_of_head? same])
  have here : some node ≠ some other := fun same => apart (Option.some.inj same ▸ member)
  obtain ⟨list₁, heap₁, bypassed, first⟩ := bypassNext_spec found valid.forward valid.distinct back
  have found₁ : heap₁.node node = some own := first.node.trans found
  simp only [listRemove, Heap.read, Option.bind_some, found, bypassed, found₁, Option.bind_eq_bind] at removed
  obtain ⟨⟨list₂, heap₂⟩, bypassed', removed⟩ := Option.bind_eq_some_iff.mp removed
  obtain ⟨last, -, removed⟩ := Option.bind_eq_some_iff.mp removed
  obtain ⟨heap₃, released, same⟩ := Option.bind_eq_some_iff.mp removed
  cases same
  have freed : heap'.node other = (heap₂.callFree list₂.free last.val).node other :=
    Heap.release_frame released here
  exact freed.trans ((bypassPrev_frame bypassed' beyond).trans (bypassNext_frame bypassed behind))

/-- The values an iterator comes to, up to `NULL`. At most so many rounds are made. -/
def drain (heap : Heap α) : Nat → ListIterator → Option (List α)
  | 0, _ => none
  | rounds + 1, it => do
    let (node, it) ← listIteratorNext it heap
    match node with
    | none => some []
    | some node =>
      let val ← heap.val node
      let later ← drain heap rounds it
      return val :: later

theorem drain_over {it : ListIterator} {values : List α} {rounds : Nat} (covers : it.Over heap nodes)
    (held : nodes.map heap.val = values.map some) (enough : nodes.length < rounds) :
    drain heap rounds it = some values := by
  induction nodes generalizing it values rounds with
  | nil =>
    obtain ⟨rounds, rfl⟩ := Nat.exists_eq_succ_of_ne_zero (Nat.ne_zero_of_lt enough)
    obtain ⟨after, stepped, -⟩ := covers.next
    cases values with
    | nil => simp [drain, stepped]
    | cons => cases held
  | cons node rest ih =>
    obtain ⟨rounds, rfl⟩ := Nat.exists_eq_succ_of_ne_zero (Nat.ne_zero_of_lt enough)
    obtain ⟨after, stepped, later⟩ := covers.next
    cases values with
    | nil => cases held
    | cons value others =>
      obtain ⟨first, tail⟩ := List.cons.inj held
      simp [drain, stepped, first, ih later tail (Nat.lt_of_succ_lt_succ enough)]

end IotstackDriver.Utils
