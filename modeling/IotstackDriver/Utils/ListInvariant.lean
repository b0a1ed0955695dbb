import IotstackDriver.Utils.ListLinks

/-! The invariant of the linked list, and what each of its functions does to it. -/

namespace IotstackDriver.Utils

open Support

variable {α : Type} {list : LinkedList α} {heap : Heap α} {nodes before after : List NodeRef}
  {node last : NodeRef}

/-- The list holds exactly these nodes, from head to tail: the links lead through
them in both directions and end with `NULL`. -/
structure WellFormed (list : LinkedList α) (heap : Heap α) (nodes : List NodeRef) : Prop where
  forward : Path heap.next list.head nodes none
  backward : Path heap.prev list.tail nodes.reverse none
  distinct : nodes.Nodup
  length : list.len.toNat = nodes.length
  empty : (list.head = none ∧ list.tail = none) ↔ list.len = 0

theorem len_eq_zero_iff (length : list.len.toNat = nodes.length) : list.len = 0 ↔ nodes = [] := by
  rw [← List.length_eq_zero_iff, ← length]
  exact ⟨fun zero => by rw [zero]; rfl, fun zero => UInt32.toNat_inj.mp (zero.trans rfl)⟩

namespace WellFormed

/-- The test for an empty list follows from the rest. -/
theorem of_paths (forward : Path heap.next list.head nodes none)
    (backward : Path heap.prev list.tail nodes.reverse none) (distinct : nodes.Nodup)
    (length : list.len.toNat = nodes.length) : WellFormed list heap nodes where
  forward := forward
  backward := backward
  distinct := distinct
  length := length
  empty := by
    rw [len_eq_zero_iff length, forward.start_eq, backward.start_eq]
    cases nodes <;> simp

theorem allocated (valid : WellFormed list heap nodes) (member : node ∈ nodes) :
    heap.allocated node = true := by
  obtain ⟨next, found⟩ := valid.forward.linked member
  obtain ⟨own, held, -⟩ := Option.map_eq_some_iff.mp found
  simp [Heap.allocated, held]

theorem tail_eq (valid : WellFormed list heap nodes) : list.tail = nodes.getLast? := by
  rw [valid.backward.start_eq, Option.or_none, List.head?_reverse]

theorem mirror (valid : WellFormed list heap nodes) :
    WellFormed list.mirror heap.mirror nodes.reverse :=
  .of_paths (by simpa using valid.backward) (by simpa using valid.forward)
    (List.nodup_reverse.mpr valid.distinct) (by simpa using valid.length)

/-- The links of a listed node are its neighbours. -/
theorem next_eq (valid : WellFormed list heap (before ++ node :: after)) :
    heap.next node = some after.head? := by
  obtain ⟨middle, -, rest⟩ := path_append.mp valid.forward
  obtain ⟨-, next, found, later⟩ := path_cons.mp rest
  rw [found, later.start_eq, Option.or_none]

theorem prev_eq (valid : WellFormed list heap (before ++ node :: after)) :
    heap.prev node = some before.getLast? := by
  have mirrored : WellFormed list.mirror heap.mirror (after.reverse ++ node :: before.reverse) := by
    simpa using valid.mirror
  simpa using mirrored.next_eq

end WellFormed

/-- Only links and the ends of the list changed. -/
structure Relinked (list : LinkedList α) (heap : Heap α) (list' : LinkedList α) (heap' : Heap α) :
    Prop where
  free : list'.free = list.free
  matchFn : list'.matchFn = list.matchFn
  freed : heap'.freed = heap.freed
  val : heap'.val = heap.val

theorem Relinked.mirror {list' : LinkedList α} {heap' : Heap α}
    (relinked : Relinked list.mirror heap.mirror list' heap') :
    Relinked list heap list'.mirror heap'.mirror where
  free := relinked.free
  matchFn := relinked.matchFn
  freed := relinked.freed
  val := by simpa using relinked.val

/-- The node stands alone. -/
structure Detached (heap : Heap α) (node : NodeRef) : Prop where
  prev : heap.prev node = some none
  next : heap.next node = some none

theorem Detached.mirror (detached : Detached heap node) : Detached heap.mirror node :=
  ⟨by simpa using detached.next, by simpa using detached.prev⟩

private theorem nodup_snoc : (nodes ++ [node]).Nodup ↔ node ∉ nodes ∧ nodes.Nodup := by
  rw [← List.nodup_reverse, List.reverse_append]
  simp

private theorem toNat_succ (length : list.len.toNat = nodes.length)
    (room : nodes.length + 1 < 2 ^ 32) : (list.len + 1).toNat = nodes.length + 1 := by
  rw [UInt32.toNat_add, length]
  exact Nat.mod_eq_of_lt room

private theorem toNat_pred {len : UInt32} {count : Nat} (length : len.toNat = count + 1) :
    (len - 1).toNat = count := by
  have positive : 1 ≤ len := by
    rw [UInt32.le_iff_toNat_le, length]
    exact Nat.le_add_left ..
  rw [UInt32.toNat_sub_of_le _ _ positive, length]
  rfl

open Heap

theorem listRpush_spec (valid : WellFormed list heap nodes) (known : heap.allocated node = true)
    (fresh : node ∉ nodes) (room : nodes.length + 1 < 2 ^ 32) : ∃ list' heap',
    listRpush list (some node) heap = some (some node, list', heap') ∧
      WellFormed list' heap' (nodes ++ [node]) ∧ Relinked list heap list' heap' := by
  have counted : (list.len + 1).toNat = (nodes ++ [node]).length := by
    rw [toNat_succ valid.length room, List.length_append, List.length_singleton]
  have distinct : (nodes ++ [node]).Nodup :=
    nodup_snoc.mpr ⟨fresh, valid.distinct⟩
  have empty := len_eq_zero_iff valid.length
  rcases nodes.eq_nil_or_concat' with rfl | ⟨before, last, rfl⟩
  · have zero : list.len = 0 := empty.mpr rfl
    refine ⟨{ list with head := some node, tail := some node, len := list.len + 1 },
      (heap.putNext node none).putPrev node none, ?_, ?_, ?_⟩
    · simp [listRpush, zero, setNext_eq, setPrev_eq, known]
    · refine .of_paths ?_ ?_ distinct counted
      · rw [putPrev_next, putNext_next known]
        exact Support.Path.extend .stop (by simp)
      · rw [putPrev_prev (by simpa using known), putNext_prev]
        exact Support.Path.extend .stop (by simp)
    · constructor <;> simp
  · have nonzero : list.len ≠ 0 := by simp [empty]
    have tail : list.tail = some last := by simp [valid.tail_eq]
    have linked : heap.allocated last = true := valid.allocated (by simp)
    have different : node ≠ last := fun same => fresh (by simp [same])
    have absent : last ∉ before := (nodup_snoc.mp valid.distinct).1
    refine ⟨{ list with tail := some node, len := list.len + 1 },
      ((heap.putPrev node (some last)).putNext node none).putNext last (some node), ?_, ?_, ?_⟩
    · simp [listRpush, nonzero, tail, setNext_eq, setPrev_eq, known, linked]
    · refine .of_paths ?_ ?_ distinct counted
      · rw [putNext_next (by simpa using linked), putNext_next (by simpa using known), putPrev_next]
        refine path_concat.mpr ⟨(valid.forward.update fresh).redirect absent, ?_⟩
        rw [Function.update_of_ne different, Function.update_self]
      · rw [putNext_prev, putNext_prev, putPrev_prev known, List.reverse_append]
        exact (tail ▸ valid.backward).extend (by simpa [and_comm] using fresh)
    · constructor <;> simp

theorem listRpop_empty (valid : WellFormed list heap []) :
    listRpop list heap = some (none, list, heap) := by
  have zero : list.len = 0 := (len_eq_zero_iff valid.length).mpr rfl
  simp [listRpop, zero]

theorem listRpop_spec (valid : WellFormed list heap (nodes ++ [last])) : ∃ list' heap',
    listRpop list heap = some (some last, list', heap') ∧ WellFormed list' heap' nodes ∧
      Relinked list heap list' heap' ∧ Detached heap' last := by
  have counted : (list.len - 1).toNat = nodes.length :=
    toNat_pred (by rw [valid.length, List.length_append, List.length_singleton])
  obtain ⟨absent, distinct⟩ := nodup_snoc.mp valid.distinct
  have nonzero : list.len ≠ 0 := by simp [len_eq_zero_iff valid.length]
  have tail : list.tail = some last := by simp [valid.tail_eq]
  have linked : heap.allocated last = true := valid.allocated (by simp)
  have single : ({ list with len := list.len - 1 } : LinkedList α).len = 0 ↔ nodes = [] :=
    len_eq_zero_iff counted
  rcases nodes.eq_nil_or_concat' with rfl | ⟨before, prev, rfl⟩
  · have zero : list.len - 1 = 0 := single.mpr rfl
    refine ⟨{ list with head := none, tail := none, len := list.len - 1 },
      (heap.putPrev last none).putNext last none, ?_, ?_, ?_, ?_⟩
    · simp [listRpop, nonzero, zero, tail, setNext_eq, setPrev_eq, linked]
    · exact .of_paths .stop .stop distinct counted
    · constructor <;> simp
    · constructor
      · rw [putNext_prev, putPrev_prev linked, Function.update_self]
      · rw [putNext_next (by simpa using linked), Function.update_self]
  · have many : list.len - 1 ≠ 0 := by simp [single]
    have known : heap.allocated prev = true := valid.allocated (by simp)
    have back : heap.prev last = some (some prev) := by
      simpa using (show WellFormed list heap ((before ++ [prev]) ++ last :: []) from valid).prev_eq
    obtain ⟨own, found, same⟩ := Option.map_eq_some_iff.mp back
    refine ⟨{ list with tail := some prev, len := list.len - 1 },
      ((heap.putNext prev none).putPrev last none).putNext last none, ?_, ?_, ?_, ?_⟩
    · simp [listRpop, nonzero, many, tail, Heap.read, found, same, setNext_eq, setPrev_eq, known, linked]
    · refine .of_paths ?_ ?_ distinct counted
      · rw [putNext_next (by simpa using linked), putPrev_next, putNext_next known]
        refine Path.update (Path.redirect (path_concat.mp valid.forward).1 ?_) absent
        exact (nodup_snoc.mp distinct).1
      · rw [putNext_prev, putPrev_prev (by simpa using linked), putNext_prev]
        have whole : Path heap.prev list.tail (last :: (before ++ [prev]).reverse) none := by
          simpa using valid.backward
        obtain ⟨-, next, back', rest⟩ := path_cons.mp whole
        cases back.symm.trans back'
        exact rest.update (by simpa [and_comm] using absent)
    · constructor <;> simp
    · constructor
      · rw [putNext_prev, putPrev_prev (by simpa using linked), Function.update_self]
      · rw [putNext_next (by simpa using linked), Function.update_self]

/-- The functions at the head, seen in the mirror. -/
theorem listLpush_spec (valid : WellFormed list heap nodes) (known : heap.allocated node = true)
    (fresh : node ∉ nodes) (room : nodes.length + 1 < 2 ^ 32) : ∃ list' heap',
    listLpush list (some node) heap = some (some node, list', heap') ∧
      WellFormed list' heap' (node :: nodes) ∧ Relinked list heap list' heap' := by
  obtain ⟨list', heap', pushed, formed, relinked⟩ := listRpush_spec valid.mirror (by simpa using known)
    (by simpa using fresh) (by simpa using room)
  refine ⟨list'.mirror, heap'.mirror, ?_, by simpa using formed.mirror, relinked.mirror⟩
  rw [listLpush_mirror, pushed]
  rfl

theorem listLpop_empty (valid : WellFormed list heap []) :
    listLpop list heap = some (none, list, heap) := by
  rw [listLpop_mirror, listRpop_empty (by simpa using valid.mirror)]
  simp [mirrorResult]

theorem listLpop_spec (valid : WellFormed list heap (node :: nodes)) : ∃ list' heap',
    listLpop list heap = some (some node, list', heap') ∧ WellFormed list' heap' nodes ∧
      Relinked list heap list' heap' ∧ Detached heap' node := by
  obtain ⟨list', heap', popped, formed, relinked, alone⟩ :=
    listRpop_spec (by simpa using valid.mirror)
  refine ⟨list'.mirror, heap'.mirror, ?_, by simpa using formed.mirror, relinked.mirror, alone.mirror⟩
  rw [listLpop_mirror, popped]
  rfl

/-- One direction of an unlinking: the way past the node, and nothing else. -/
structure Bypassed (list : LinkedList α) (heap : Heap α) (node : NodeRef) (nodes : List NodeRef)
    (list' : LinkedList α) (heap' : Heap α) : Prop where
  forward : Path heap'.next list'.head nodes none
  prev : heap'.prev = heap.prev
  tail : list'.tail = list.tail
  len : list'.len = list.len
  relinked : Relinked list heap list' heap'
  node : heap'.node node = heap.node node

theorem bypassNext_spec {own : ListNode α} (found : heap.node node = some own)
    (path : Path heap.next list.head (before ++ node :: after) none)
    (distinct : (before ++ node :: after).Nodup) (back : own.prev = before.getLast?) :
    ∃ list' heap', bypassNext list own heap = some (list', heap') ∧
      Bypassed list heap node (before ++ after) list' heap' := by
  have link : own.next = after.head? := by
    obtain ⟨middle, -, rest⟩ := path_append.mp path
    obtain ⟨-, next, linked, later⟩ := path_cons.mp rest
    have same : some own.next = some next := by simpa [Heap.next, found] using linked
    rw [Option.some.inj same, later.start_eq, Option.or_none]
  rcases before.eq_nil_or_concat' with rfl | ⟨earlier, prev, rfl⟩
  · have first : own.prev = none := back
    refine ⟨{ list with head := own.next }, heap, by simp [bypassNext, first], ?_⟩
    obtain ⟨-, next, linked, rest⟩ := path_cons.mp path
    have same : some own.next = some next := by simpa [Heap.next, found] using linked
    exact ⟨Option.some.inj same ▸ rest, rfl, rfl, rfl, ⟨rfl, rfl, rfl, rfl⟩, rfl⟩
  · have previous : own.prev = some prev := by simpa using back
    have whole : Path heap.next list.head (earlier ++ prev :: node :: after) none := by simpa using path
    have known : heap.allocated prev = true := by
      have member : prev ∈ earlier ++ prev :: node :: after := by simp
      obtain ⟨link, linked⟩ := whole.linked member
      obtain ⟨held, there, -⟩ := Option.map_eq_some_iff.mp linked
      simp [Heap.allocated, there]
    have different : node ≠ prev := by
      rintro rfl
      simp [List.nodup_append] at distinct
    refine ⟨list, heap.putNext prev own.next, by simp [bypassNext, previous, setNext_eq known], ?_⟩
    refine ⟨?_, putNext_prev, rfl, rfl, ⟨rfl, rfl, rfl, putNext_val⟩, ?_⟩
    · rw [putNext_next known, link]
      simpa using whole.bypass (by simpa using distinct)
    · simp [putNext, put, different]

/-- The other direction, seen in the mirror. -/
theorem bypassPrev_spec {own : ListNode α} (found : heap.node node = some own)
    (path : Path heap.prev list.tail (before ++ node :: after).reverse none)
    (distinct : (before ++ node :: after).Nodup) (ahead : own.next = after.head?) :
    ∃ list' heap', bypassPrev list own heap = some (list', heap') ∧
      Bypassed list.mirror heap.mirror node (before ++ after).reverse list'.mirror heap'.mirror := by
  have mirrored : heap.mirror.node node = some own.mirror := by simp [Heap.mirror, found]
  have whole : Path heap.mirror.next list.mirror.head (after.reverse ++ node :: before.reverse) none := by
    simpa using path
  obtain ⟨list', heap', bypassed, done⟩ := bypassNext_spec mirrored whole
    (by simpa using List.nodup_reverse.mpr distinct) (by simpa [ListNode.mirror] using ahead)
  refine ⟨list'.mirror, heap'.mirror, ?_, by simpa using done⟩
  rw [bypassPrev_mirror, bypassed]
  rfl

section Release

variable {free : Option FreePtr} {value : α}

/-- What `free` functions are handed for these values. -/
def handed (free : Option FreePtr) (vals : List α) : List (FreePtr × α) :=
  vals.flatMap fun val => free.toList.map fun callback => (callback, val)

/-- A node and its value freed. -/
def Heap.drop (heap : Heap α) (free : Option FreePtr) (node : NodeRef) (value : α) : Heap α where
  node := Function.update heap.node node none
  freed := heap.freed ++ handed free [value]

theorem release_eq (known : heap.allocated node = true) :
    (heap.callFree free value).release (some node) = some (heap.drop free node value) := by
  obtain ⟨own, found⟩ := Option.isSome_iff_exists.mp known
  simp [callFree, release, drop, handed, found]

private theorem drop_field {β : Type} {field : ListNode α → β} :
    (fun ref => ((heap.drop free node value).node ref).map field) =
      Function.update (fun ref => (heap.node ref).map field) node none := by
  funext ref
  by_cases same : ref = node
  · subst same
    simp [drop]
  · simp [drop, same]

theorem drop_next : (heap.drop free node value).next = Function.update heap.next node none := drop_field

theorem drop_prev : (heap.drop free node value).prev = Function.update heap.prev node none := drop_field

theorem drop_val : (heap.drop free node value).val = Function.update heap.val node none := drop_field

end Release

/-- The node is gone and its value was handed to `free`. -/
structure Removed (list : LinkedList α) (heap : Heap α) (node : NodeRef) (list' : LinkedList α)
    (heap' : Heap α) : Prop where
  free : list'.free = list.free
  matchFn : list'.matchFn = list.matchFn
  freed : heap'.freed = heap.freed ++ handed list.free (heap.val node).toList
  val : heap'.val = Function.update heap.val node none

theorem listRemove_spec (valid : WellFormed list heap (before ++ node :: after)) : ∃ list' heap',
    listRemove list (some node) heap = some (list', heap') ∧
      WellFormed list' heap' (before ++ after) ∧ Removed list heap node list' heap' := by
  have member : node ∈ before ++ node :: after := by simp
  obtain ⟨own, found⟩ := Option.isSome_iff_exists.mp (valid.allocated member)
  have back : own.prev = before.getLast? := by
    simpa [Heap.prev, found] using valid.prev_eq
  have ahead : own.next = after.head? := by
    simpa [Heap.next, found] using valid.next_eq
  obtain ⟨list₁, heap₁, bypassed, first⟩ := bypassNext_spec found valid.forward valid.distinct back
  have found₁ : heap₁.node node = some own := first.node.trans found
  have backward : Path heap₁.prev list₁.tail (before ++ node :: after).reverse none := by
    rw [first.prev, first.tail]
    exact valid.backward
  obtain ⟨list₂, heap₂, bypassed', second⟩ := bypassPrev_spec found₁ backward valid.distinct ahead
  have found₂ : heap₂.node node = some own := by
    have same := congrArg (Option.map ListNode.mirror) second.node
    simpa [Heap.mirror, Function.comp_def, ListNode.mirror, found₁] using same
  have next : heap₂.next = heap₁.next := by simpa using second.prev
  have head : list₂.head = list₁.head := second.tail
  have len : list₂.len = list.len := second.len.trans first.len
  have relinked := second.relinked.mirror
  obtain ⟨absent, distinct⟩ := List.nodup_cons.mp (List.nodup_middle.mp valid.distinct)
  refine ⟨{ list₂ with len := list₂.len - 1 }, heap₂.drop list₂.free node own.val, ?_, ?_, ?_⟩
  · have known : heap₂.allocated node = true := by simp [Heap.allocated, found₂]
    simp [listRemove, Heap.read, found, found₁, found₂, bypassed, bypassed', release_eq known]
  · refine .of_paths ?_ ?_ distinct (toNat_pred ?_)
    · rw [drop_next, next]
      exact (head ▸ first.forward).update absent
    · rw [drop_prev]
      exact Path.update (by simpa using second.forward) (by simpa [and_comm] using absent)
    · rw [len, valid.length]
      simp
      omega
  · have free : list₂.free = list.free := relinked.free.trans first.relinked.free
    refine ⟨free, relinked.matchFn.trans first.relinked.matchFn, ?_, ?_⟩
    · have freed : heap₂.freed = heap.freed := by
        simpa using relinked.freed.trans first.relinked.freed
      simp [Heap.drop, free, freed, Heap.val, found]
    · have val : heap₂.val = heap.val := by simpa using relinked.val.trans first.relinked.val
      rw [drop_val, val]

/-- Every value once, from head to tail. -/
structure Destroyed (list : LinkedList α) (heap : Heap α) (nodes : List NodeRef) (heap' : Heap α) :
    Prop where
  freed : heap'.freed = heap.freed ++ handed list.free (nodes.filterMap heap.val)
  gone : ∀ ref ∈ nodes, heap'.node ref = none
  kept : ∀ ref ∉ nodes, heap'.node ref = heap.node ref

private theorem destroyNodes_spec (free : Option FreePtr) {start : Option NodeRef}
    (path : Path heap.next start nodes none) (distinct : nodes.Nodup) : ∃ heap',
    destroyNodes free nodes.length start heap = some heap' ∧
      heap'.freed = heap.freed ++ handed free (nodes.filterMap heap.val) ∧
      (∀ ref ∈ nodes, heap'.node ref = none) ∧ ∀ ref ∉ nodes, heap'.node ref = heap.node ref := by
  induction nodes generalizing start heap with
  | nil => exact ⟨heap, rfl, by simp [handed], by simp, fun _ _ => rfl⟩
  | cons node rest ih =>
    obtain ⟨rfl, next, linked, path⟩ := path_cons.mp path
    obtain ⟨absent, distinct⟩ := List.nodup_cons.mp distinct
    obtain ⟨own, found, same⟩ := Option.map_eq_some_iff.mp linked
    have known : heap.allocated node = true := by simp [Heap.allocated, found]
    have later : Path (heap.drop free node own.val).next next rest none := by
      rw [drop_next]
      exact path.update absent
    obtain ⟨heap', destroyed, freed, gone, kept⟩ := ih later distinct
    have vals : rest.filterMap (heap.drop free node own.val).val = rest.filterMap heap.val := by
      refine List.filterMap_congr fun ref member => ?_
      have different : ref ≠ node := fun equal => absent (equal ▸ member)
      rw [drop_val, Function.update_of_ne different]
    refine ⟨heap', ?_, ?_, ?_, ?_⟩
    · simpa [destroyNodes, Heap.read, found, release_eq known, same] using destroyed
    · rw [freed, vals]
      simp [Heap.drop, handed, Heap.val, found]
    · intro ref member
      rcases List.mem_cons.mp member with rfl | later
      · rw [kept ref absent]
        exact Function.update_self ..
      · exact gone ref later
    · intro ref outside
      obtain ⟨different, later⟩ := List.ne_and_not_mem_of_not_mem_cons outside
      rw [kept ref later]
      exact Function.update_of_ne different ..

theorem listDestroy_spec (valid : WellFormed list heap nodes) :
    ∃ heap', listDestroy list heap = some heap' ∧ Destroyed list heap nodes heap' := by
  obtain ⟨heap', destroyed, freed, gone, kept⟩ :=
    destroyNodes_spec list.free valid.forward valid.distinct
  exact ⟨heap', by rw [listDestroy, valid.length, destroyed], freed, gone, kept⟩

end IotstackDriver.Utils
