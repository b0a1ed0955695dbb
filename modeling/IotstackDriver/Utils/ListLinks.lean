import IotstackDriver.Utils.LinkedList

/-! What the assignments to links do to the heap, and the symmetry of the list: a
function at the head is the one at the tail seen in a mirror. -/

namespace IotstackDriver.Utils

open Support

variable {α : Type} {list : LinkedList α} {heap : Heap α} {nodes before after : List NodeRef}
  {node other : NodeRef} {ptr link : Option NodeRef}

namespace Heap

def allocated (heap : Heap α) (node : NodeRef) : Bool := (heap.node node).isSome

theorem allocated_eq : heap.allocated node = (heap.val node).isSome := by
  simp [allocated, val]

/-- The heap after an allocated node is overwritten. -/
def put (heap : Heap α) (node : NodeRef) (change : ListNode α → ListNode α) : Heap α :=
  { heap with node := Function.update heap.node node ((heap.node node).map change) }

def putNext (heap : Heap α) (node : NodeRef) (link : Option NodeRef) : Heap α :=
  heap.put node fun own => { own with next := link }

def putPrev (heap : Heap α) (node : NodeRef) (link : Option NodeRef) : Heap α :=
  heap.put node fun own => { own with prev := link }

variable {change : ListNode α → ListNode α} {β : Type} {field : ListNode α → β}

theorem write_eq (known : heap.allocated node = true) :
    heap.write (some node) change = some (heap.put node change) := by
  obtain ⟨own, found⟩ := Option.isSome_iff_exists.mp known
  simp [write, put, found]

theorem setNext_eq (known : heap.allocated node = true) :
    heap.setNext (some node) link = some (heap.putNext node link) := write_eq known

theorem setPrev_eq (known : heap.allocated node = true) :
    heap.setPrev (some node) link = some (heap.putPrev node link) := write_eq known

private theorem put_field : ((heap.put node change).node other).map field =
    if other = node then (heap.node other).map fun own => field (change own)
    else (heap.node other).map field := by
  by_cases same : other = node
  · subst same
    simp [put, Function.comp_def]
  · simp [put, same]

/-- A field the write keeps. -/
private theorem put_kept (kept : ∀ own, field (change own) = field own) :
    ((heap.put node change).node other).map field = (heap.node other).map field := by
  rw [put_field]
  simp only [kept, ite_self]

/-- A field the write gives a value. -/
private theorem put_given {given : β} (known : heap.allocated node = true)
    (set : ∀ own, field (change own) = given) : ((heap.put node change).node other).map field =
      Function.update (fun other => (heap.node other).map field) node (some given) other := by
  obtain ⟨own, found⟩ := Option.isSome_iff_exists.mp known
  rw [put_field, Function.update_apply]
  split
  · rename_i same
    rw [same, found, Option.map_some, set]
  · rfl

theorem putNext_next (known : heap.allocated node = true) :
    (heap.putNext node link).next = Function.update heap.next node (some link) :=
  funext fun _ => put_given known fun _ => rfl

theorem putPrev_prev (known : heap.allocated node = true) :
    (heap.putPrev node link).prev = Function.update heap.prev node (some link) :=
  funext fun _ => put_given known fun _ => rfl

@[simp] theorem putNext_prev : (heap.putNext node link).prev = heap.prev :=
  funext fun _ => put_kept fun _ => rfl

@[simp] theorem putPrev_next : (heap.putPrev node link).next = heap.next :=
  funext fun _ => put_kept fun _ => rfl

@[simp] theorem putNext_val : (heap.putNext node link).val = heap.val :=
  funext fun _ => put_kept fun _ => rfl

@[simp] theorem putPrev_val : (heap.putPrev node link).val = heap.val :=
  funext fun _ => put_kept fun _ => rfl

@[simp] theorem putNext_freed : (heap.putNext node link).freed = heap.freed := rfl
@[simp] theorem putPrev_freed : (heap.putPrev node link).freed = heap.freed := rfl

@[simp] theorem putNext_allocated : (heap.putNext node link).allocated other = heap.allocated other := by
  simp [allocated_eq]

@[simp] theorem putPrev_allocated : (heap.putPrev node link).allocated other = heap.allocated other := by
  simp [allocated_eq]

/-- The two links of a node may be set in either order. -/
theorem setNext_setPrev (first second : Option NodeRef) (rest : Heap α → Option β) :
    ((heap.setNext ptr first).bind fun heap => (heap.setPrev ptr second).bind rest) =
      (heap.setPrev ptr second).bind fun heap => (heap.setNext ptr first).bind rest := by
  cases ptr with
  | none => rfl
  | some node => cases found : heap.node node <;> simp [setNext, setPrev, write, found]

end Heap

section Mirror

def ListNode.mirror (own : ListNode α) : ListNode α := { own with prev := own.next, next := own.prev }

def Heap.mirror (heap : Heap α) : Heap α :=
  { heap with node := fun ref => (heap.node ref).map ListNode.mirror }

def LinkedList.mirror (list : LinkedList α) : LinkedList α :=
  { list with head := list.tail, tail := list.head }

@[simp] theorem LinkedList.mirror_mirror : list.mirror.mirror = list := rfl
@[simp] theorem LinkedList.mirror_head : list.mirror.head = list.tail := rfl
@[simp] theorem LinkedList.mirror_tail : list.mirror.tail = list.head := rfl
@[simp] theorem LinkedList.mirror_len : list.mirror.len = list.len := rfl

@[simp] theorem Heap.mirror_mirror : heap.mirror.mirror = heap := by
  simp [mirror, Function.comp_def, ListNode.mirror]

@[simp] theorem Heap.mirror_next : heap.mirror.next = heap.prev := by
  funext ref
  simp [mirror, next, prev, Function.comp_def, ListNode.mirror]

@[simp] theorem Heap.mirror_prev : heap.mirror.prev = heap.next := by
  funext ref
  simp [mirror, next, prev, Function.comp_def, ListNode.mirror]

@[simp] theorem Heap.mirror_val : heap.mirror.val = heap.val := by
  funext ref
  simp [mirror, val, Function.comp_def, ListNode.mirror]

@[simp] theorem Heap.mirror_freed : heap.mirror.freed = heap.freed := rfl

@[simp] theorem Heap.mirror_allocated : heap.mirror.allocated node = heap.allocated node := by
  simp [allocated_eq]

theorem Heap.mirror_read : heap.mirror.read ptr = (heap.read ptr).map ListNode.mirror := by
  cases ptr <;> rfl

private theorem mirror_write {change : ListNode α → ListNode α} : heap.mirror.write ptr change =
    (heap.write ptr fun own => (change own.mirror).mirror).map Heap.mirror := by
  cases ptr with
  | none => rfl
  | some node =>
    cases found : heap.node node with
    | none => simp [Heap.write, Heap.mirror, found]
    | some own =>
      simp only [Heap.write, Heap.mirror, found, Option.bind_eq_bind, Option.bind_some,
        Option.map_some, Option.some.injEq, Heap.mk.injEq, and_true]
      funext ref
      by_cases same : ref = node
      · subst same
        simp [ListNode.mirror]
      · simp [same]

theorem Heap.mirror_setNext : heap.mirror.setNext ptr link = (heap.setPrev ptr link).map Heap.mirror :=
  mirror_write

theorem Heap.mirror_setPrev : heap.mirror.setPrev ptr link = (heap.setNext ptr link).map Heap.mirror :=
  mirror_write

/-- What a push or pop returns, mirrored. -/
def mirrorResult (result : Option NodeRef × LinkedList α × Heap α) :
    Option NodeRef × LinkedList α × Heap α :=
  (result.1, result.2.1.mirror, result.2.2.mirror)

theorem listLpush_mirror :
    listLpush list ptr heap = (listRpush list.mirror ptr heap.mirror).map mirrorResult := by
  unfold listLpush listRpush
  by_cases absent : ptr = none
  · simp [absent, mirrorResult]
  · by_cases empty : list.len = 0
    · simp [absent, empty, Heap.mirror_setPrev, Heap.mirror_setNext, Option.map_bind,
        Option.bind_map, mirrorResult, LinkedList.mirror, Heap.setNext_setPrev]
    · simp [absent, empty, Heap.mirror_setPrev, Heap.mirror_setNext, Option.map_bind,
        Option.bind_map, mirrorResult, LinkedList.mirror]

theorem listLpop_mirror :
    listLpop list heap = (listRpop list.mirror heap.mirror).map mirrorResult := by
  unfold listLpop listRpop
  by_cases empty : list.len = 0
  · simp [empty, mirrorResult]
  · by_cases single : list.len - 1 = 0
    · simp [empty, single, Heap.mirror_setPrev, Heap.mirror_setNext, Option.map_bind,
        Option.bind_map, mirrorResult, LinkedList.mirror, Heap.setNext_setPrev]
    · simp [empty, single, Heap.mirror_setPrev, Heap.mirror_setNext, Heap.mirror_read,
        Option.map_bind, Option.bind_map, Function.comp_def, mirrorResult, LinkedList.mirror,
        ListNode.mirror, Heap.setNext_setPrev]

theorem bypassPrev_mirror {own : ListNode α} : bypassPrev list own heap =
    (bypassNext list.mirror own.mirror heap.mirror).map fun result =>
      (result.1.mirror, result.2.mirror) := by
  unfold bypassPrev bypassNext
  cases found : own.next with
  | none => simp [found, ListNode.mirror, LinkedList.mirror]
  | some next => simp [found, ListNode.mirror, Heap.mirror_setNext, Function.comp_def]

end Mirror

end IotstackDriver.Utils
