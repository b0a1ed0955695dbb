import IotstackDriver.Support.Path
import Mathlib.Data.UInt

/-! The linked list of `utils_list.c` over a heap of nodes. `none` is an access
through `NULL` or to a node that is not allocated: nothing that follows it is
defined. -/

namespace IotstackDriver.Utils

open Support

/-- The address of a node. -/
abbrev NodeRef := Nat

/-- A `free` function, by its address. -/
abbrev FreePtr := Nat

variable {α : Type}

structure ListNode (α : Type) where
  prev : Option NodeRef
  next : Option NodeRef
  val : α

/-- The allocated nodes, and the values handed to a `free` function, in order. -/
structure Heap (α : Type) where
  node : NodeRef → Option (ListNode α)
  freed : List (FreePtr × α)

/-- A `List`. A `match` function has no effects. -/
structure LinkedList (α : Type) where
  head : Option NodeRef
  tail : Option NodeRef
  len : UInt32
  free : Option FreePtr
  matchFn : Option (α → α → Bool)

inductive ListDirection where
  | head
  | tail
  deriving DecidableEq

structure ListIterator where
  next : Option NodeRef
  direction : ListDirection

namespace Heap

def next (heap : Heap α) (ref : NodeRef) : Option (Option NodeRef) :=
  (heap.node ref).map ListNode.next

def prev (heap : Heap α) (ref : NodeRef) : Option (Option NodeRef) :=
  (heap.node ref).map ListNode.prev

def val (heap : Heap α) (ref : NodeRef) : Option α := (heap.node ref).map ListNode.val

def read (heap : Heap α) (ptr : Option NodeRef) : Option (ListNode α) := ptr.bind heap.node

/-- Overwrite an allocated node. -/
def write (heap : Heap α) (ptr : Option NodeRef) (change : ListNode α → ListNode α) :
    Option (Heap α) := do
  let ref ← ptr
  let own ← heap.node ref
  some { heap with node := Function.update heap.node ref (some (change own)) }

def setNext (heap : Heap α) (ptr link : Option NodeRef) : Option (Heap α) :=
  heap.write ptr fun own => { own with next := link }

def setPrev (heap : Heap α) (ptr link : Option NodeRef) : Option (Heap α) :=
  heap.write ptr fun own => { own with prev := link }

/-- `free` of a node. -/
def release (heap : Heap α) (ptr : Option NodeRef) : Option (Heap α) := do
  let ref ← ptr
  let _ ← heap.node ref
  some { heap with node := Function.update heap.node ref none }

/-- `if (free) free(val)`. -/
def callFree (heap : Heap α) (free : Option FreePtr) (val : α) : Heap α :=
  { heap with freed := heap.freed ++ free.toList.map fun callback => (callback, val) }

end Heap

/-- `ptr` is what `malloc` returns. -/
def listNodeNew (ptr : Option NodeRef) (val : α) (heap : Heap α) : Option NodeRef × Heap α :=
  match ptr with
  | none => (none, heap)
  | some ref =>
    (some ref, { heap with node := Function.update heap.node ref (some ⟨none, none, val⟩) })

/-- A new list; its creator sets `free` and `match` afterwards. -/
def listNew (allocated : Bool) : Option (LinkedList α) :=
  if allocated then some ⟨none, none, 0, none, none⟩ else none

def listRpush (self : LinkedList α) (node : Option NodeRef) (heap : Heap α) :
    Option (Option NodeRef × LinkedList α × Heap α) := do
  if node = none then return (none, self, heap)
  if self.len ≠ 0 then
    let heap ← heap.setPrev node self.tail
    let heap ← heap.setNext node none
    let heap ← heap.setNext self.tail node
    return (node, { self with tail := node, len := self.len + 1 }, heap)
  let heap ← heap.setNext node none
  let heap ← heap.setPrev node none
  return (node, { self with head := node, tail := node, len := self.len + 1 }, heap)

def listRpop (self : LinkedList α) (heap : Heap α) :
    Option (Option NodeRef × LinkedList α × Heap α) := do
  if self.len = 0 then return (none, self, heap)
  let node := self.tail
  if self.len - 1 ≠ 0 then
    let own ← heap.read node
    let heap ← heap.setNext own.prev none
    let heap ← heap.setPrev node none
    let heap ← heap.setNext node none
    return (node, { self with tail := own.prev, len := self.len - 1 }, heap)
  let heap ← heap.setPrev node none
  let heap ← heap.setNext node none
  return (node, { self with head := none, tail := none, len := self.len - 1 }, heap)

def listLpop (self : LinkedList α) (heap : Heap α) :
    Option (Option NodeRef × LinkedList α × Heap α) := do
  if self.len = 0 then return (none, self, heap)
  let node := self.head
  if self.len - 1 ≠ 0 then
    let own ← heap.read node
    let heap ← heap.setPrev own.next none
    let heap ← heap.setPrev node none
    let heap ← heap.setNext node none
    return (node, { self with head := own.next, len := self.len - 1 }, heap)
  let heap ← heap.setPrev node none
  let heap ← heap.setNext node none
  return (node, { self with head := none, tail := none, len := self.len - 1 }, heap)

def listLpush (self : LinkedList α) (node : Option NodeRef) (heap : Heap α) :
    Option (Option NodeRef × LinkedList α × Heap α) := do
  if node = none then return (none, self, heap)
  if self.len ≠ 0 then
    let heap ← heap.setNext node self.head
    let heap ← heap.setPrev node none
    let heap ← heap.setPrev self.head node
    return (node, { self with head := node, len := self.len + 1 }, heap)
  let heap ← heap.setNext node none
  let heap ← heap.setPrev node none
  return (node, { self with head := node, tail := node, len := self.len + 1 }, heap)

/-- `node->prev ? (node->prev->next = node->next) : (self->head = node->next)`. -/
def bypassNext (self : LinkedList α) (own : ListNode α) (heap : Heap α) :
    Option (LinkedList α × Heap α) :=
  match own.prev with
  | some prev => (heap.setNext (some prev) own.next).map fun heap => (self, heap)
  | none => some ({ self with head := own.next }, heap)

/-- `node->next ? (node->next->prev = node->prev) : (self->tail = node->prev)`. -/
def bypassPrev (self : LinkedList α) (own : ListNode α) (heap : Heap α) :
    Option (LinkedList α × Heap α) :=
  match own.next with
  | some next => (heap.setPrev (some next) own.prev).map fun heap => (self, heap)
  | none => some ({ self with tail := own.prev }, heap)

def listRemove (self : LinkedList α) (node : Option NodeRef) (heap : Heap α) :
    Option (LinkedList α × Heap α) := do
  let own ← heap.read node
  let (self, heap) ← bypassNext self own heap
  let own ← heap.read node
  let (self, heap) ← bypassPrev self own heap
  let own ← heap.read node
  let heap ← (heap.callFree self.free own.val).release node
  return ({ self with len := self.len - 1 }, heap)

/-- The loop of `_list_destroy` with so many rounds left. -/
def destroyNodes (free : Option FreePtr) : Nat → Option NodeRef → Heap α → Option (Heap α)
  | 0, _, heap => some heap
  | len + 1, curr, heap => do
    let own ← heap.read curr
    let heap ← (heap.callFree free own.val).release curr
    destroyNodes free len own.next heap

/-- The list itself is gone afterwards. -/
def listDestroy (self : LinkedList α) (heap : Heap α) : Option (Heap α) :=
  destroyNodes self.free self.len.toNat self.head heap

def listIteratorNewFromNode (allocated : Bool) (node : Option NodeRef) (direction : ListDirection) :
    Option ListIterator :=
  if allocated then some ⟨node, direction⟩ else none

def listIteratorNew (allocated : Bool) (list : LinkedList α) (direction : ListDirection) :
    Option ListIterator :=
  let node := if direction = .head then list.head else list.tail
  listIteratorNewFromNode allocated node direction

def listIteratorNext (self : ListIterator) (heap : Heap α) : Option (Option NodeRef × ListIterator) :=
  match self.next with
  | none => some (none, self)
  | some curr => do
    let own ← heap.node curr
    return (some curr, { self with next := if self.direction = .head then own.next else own.prev })

/-- The loop of `_list_find` from the node in hand, with at most so many rounds. -/
def findNode [DecidableEq α] (self : LinkedList α) (val : α) (heap : Heap α) :
    Nat → ListIterator → Option NodeRef → Option (Option NodeRef)
  | _, _, none => some none
  | 0, _, some _ => none
  | rounds + 1, it, some node => do
    let own ← heap.node node
    let found := match self.matchFn with
      | some matchFn => matchFn val own.val
      | none => decide (val = own.val)
    if found then return some node
    let (node, it) ← listIteratorNext it heap
    findNode self val heap rounds it node

/-- `NULL` also when there is no room for an iterator. -/
def listFind [DecidableEq α] (allocated : Bool) (rounds : Nat) (self : LinkedList α) (val : α)
    (heap : Heap α) : Option (Option NodeRef) :=
  match listIteratorNew allocated self .head with
  | none => some none
  | some it => do
    let (node, it) ← listIteratorNext it heap
    findNode self val heap rounds it node

end IotstackDriver.Utils
