import IotstackDriver.Utils.ListInvariant

/-! Sequences of calls on one list, against the same changes of a sequence. -/

namespace IotstackDriver.Utils

open Support

variable {α : Type} {list : LinkedList α} {heap : Heap α} {nodes : List NodeRef}

/-- The calls on a list, `_list_node_new` with the address it gets, and `free` of a
node outside the list. -/
inductive ListOp (α : Type) where
  | nodeNew (node : NodeRef) (val : α)
  | freeNode (node : NodeRef)
  | rpush (node : NodeRef)
  | lpush (node : NodeRef)
  | rpop
  | lpop
  | remove (node : NodeRef)

structure ListState (α : Type) where
  list : LinkedList α
  heap : Heap α

namespace ListOp

/-- The node a call returns and the state it leaves. -/
def run : ListOp α → ListState α → Option (Option NodeRef × ListState α)
  | nodeNew node val, state =>
    let (result, heap) := listNodeNew (some node) val state.heap
    some (result, { state with heap })
  | freeNode node, state =>
    (state.heap.release (some node)).map fun heap => (none, { state with heap })
  | rpush node, state => (listRpush state.list (some node) state.heap).map fun result =>
    (result.1, ⟨result.2.1, result.2.2⟩)
  | lpush node, state => (listLpush state.list (some node) state.heap).map fun result =>
    (result.1, ⟨result.2.1, result.2.2⟩)
  | rpop, state => (listRpop state.list state.heap).map fun result =>
    (result.1, ⟨result.2.1, result.2.2⟩)
  | lpop, state => (listLpop state.list state.heap).map fun result =>
    (result.1, ⟨result.2.1, result.2.2⟩)
  | remove node, state => (listRemove state.list (some node) state.heap).map fun result =>
    (none, ⟨result.1, result.2⟩)

/-- The change of the sequence a call stands for. -/
def change : ListOp α → List NodeRef → List NodeRef
  | nodeNew _ _, nodes => nodes
  | freeNode _, nodes => nodes
  | rpush node, nodes => nodes ++ [node]
  | lpush node, nodes => node :: nodes
  | rpop, nodes => nodes.dropLast
  | lpop, nodes => nodes.tail
  | remove node, nodes => nodes.erase node

/-- What the caller owes: an address `malloc` can give, a node to push that is not in
the list while there is room, a node to remove that is. -/
def Fits : ListOp α → ListState α → List NodeRef → Prop
  | nodeNew node _, state, _ => state.heap.allocated node = false
  | freeNode node, state, nodes => state.heap.allocated node = true ∧ node ∉ nodes
  | rpush node, state, nodes => state.heap.allocated node = true ∧ node ∉ nodes ∧
      nodes.length + 1 < 2 ^ 32
  | lpush node, state, nodes => state.heap.allocated node = true ∧ node ∉ nodes ∧
      nodes.length + 1 < 2 ^ 32
  | rpop, _, _ => True
  | lpop, _, _ => True
  | remove node, _, nodes => node ∈ nodes

instance (op : ListOp α) (state : ListState α) (nodes : List NodeRef) :
    Decidable (op.Fits state nodes) :=
  match op with
  | nodeNew _ _ => instDecidableEqBool ..
  | freeNode _ => instDecidableAnd
  | rpush _ => instDecidableAnd
  | lpush _ => instDecidableAnd
  | rpop => .isTrue trivial
  | lpop => .isTrue trivial
  | remove node => inferInstanceAs (Decidable (node ∈ nodes))

/-- What a call returns, and which values it hands to the `free` function. -/
def Outcome : ListOp α → List NodeRef → ListState α → Option NodeRef → ListState α → Prop
  | nodeNew node _, _, state, result, next => result = some node ∧
      next.heap.freed = state.heap.freed
  | freeNode _, _, state, _, next => next.heap.freed = state.heap.freed
  | rpush node, _, state, result, next => result = some node ∧
      next.heap.freed = state.heap.freed
  | lpush node, _, state, result, next => result = some node ∧
      next.heap.freed = state.heap.freed
  | rpop, nodes, state, result, next => result = nodes.getLast? ∧
      (∀ node, result = some node → Detached next.heap node) ∧ next.heap.freed = state.heap.freed
  | lpop, nodes, state, result, next => result = nodes.head? ∧
      (∀ node, result = some node → Detached next.heap node) ∧ next.heap.freed = state.heap.freed
  | remove node, _, state, _, next => ∃ val, state.heap.val node = some val ∧
      next.heap.freed = state.heap.freed ++ handed state.list.free [val]

end ListOp

/-- A node outside the list may change. -/
theorem WellFormed.elsewhere {heap' : Heap α} (valid : WellFormed list heap nodes)
    (same : ∀ node ∈ nodes, heap'.node node = heap.node node) : WellFormed list heap' nodes := by
  refine .of_paths (valid.forward.congr ?_) (valid.backward.congr ?_) valid.distinct valid.length
  · exact fun node member => by rw [Heap.next, same node member, Heap.next]
  · exact fun node member => by rw [Heap.prev, same node (by simpa using member), Heap.prev]

/-- One call from a well-formed list. -/
theorem listOp_spec (op : ListOp α) {state : ListState α}
    (valid : WellFormed state.list state.heap nodes) (fits : op.Fits state nodes) :
    ∃ result next, op.run state = some (result, next) ∧
      WellFormed next.list next.heap (op.change nodes) ∧ op.Outcome nodes state result next := by
  cases op with
  | nodeNew node val =>
    refine ⟨_, _, rfl, valid.elsewhere fun listed member => ?_, rfl, rfl⟩
    have different : listed ≠ node := by
      rintro rfl
      simp [ListOp.Fits, valid.allocated member] at fits
    exact Function.update_of_ne different ..
  | freeNode node =>
    obtain ⟨known, absent⟩ := fits
    obtain ⟨own, found⟩ := Option.isSome_iff_exists.mp known
    refine ⟨none, { state with heap := { state.heap with
      node := Function.update state.heap.node node none } },
      by simp [ListOp.run, Heap.release, found], valid.elsewhere fun listed member => ?_, rfl⟩
    have different : listed ≠ node := fun same => absent (same ▸ member)
    exact Function.update_of_ne different ..
  | rpush node =>
    obtain ⟨known, fresh, room⟩ := fits
    obtain ⟨list', heap', pushed, formed, relinked⟩ := listRpush_spec valid known fresh room
    exact ⟨_, ⟨list', heap'⟩, by rw [ListOp.run, pushed]; rfl, formed, rfl, relinked.freed⟩
  | lpush node =>
    obtain ⟨known, fresh, room⟩ := fits
    obtain ⟨list', heap', pushed, formed, relinked⟩ := listLpush_spec valid known fresh room
    exact ⟨_, ⟨list', heap'⟩, by rw [ListOp.run, pushed]; rfl, formed, rfl, relinked.freed⟩
  | rpop =>
    rcases nodes.eq_nil_or_concat' with rfl | ⟨before, last, rfl⟩
    · exact ⟨_, state, by rw [ListOp.run, listRpop_empty valid]; rfl, valid, rfl, by simp, rfl⟩
    · obtain ⟨list', heap', popped, formed, relinked, alone⟩ := listRpop_spec valid
      refine ⟨_, ⟨list', heap'⟩, by rw [ListOp.run, popped]; rfl, ?_, ?_, ?_, relinked.freed⟩
      · simpa [ListOp.change] using formed
      · simp
      · simpa using alone
  | lpop =>
    cases nodes with
    | nil => exact ⟨_, state, by rw [ListOp.run, listLpop_empty valid]; rfl, valid, rfl, by simp, rfl⟩
    | cons first rest =>
      obtain ⟨list', heap', popped, formed, relinked, alone⟩ := listLpop_spec valid
      refine ⟨_, ⟨list', heap'⟩, by rw [ListOp.run, popped]; rfl, formed, rfl, ?_, relinked.freed⟩
      simpa using alone
  | remove node =>
    obtain ⟨before, after, rfl, absent⟩ := List.eq_append_cons_of_mem fits
    obtain ⟨list', heap', taken, formed, removed⟩ := listRemove_spec valid
    obtain ⟨own, found⟩ := Option.isSome_iff_exists.mp (valid.allocated fits)
    have held : state.heap.val node = some own.val := by simp [Heap.val, found]
    refine ⟨none, ⟨list', heap'⟩, by rw [ListOp.run, taken]; rfl, ?_, own.val, held, ?_⟩
    · rwa [ListOp.change, List.erase_append_right _ absent, List.erase_cons_head]
    · simpa [held] using removed.freed

/-- The calls one after the other. -/
def runOps : List (ListOp α) → ListState α → Option (ListState α)
  | [], state => some state
  | op :: rest, state => (op.run state).bind fun result => runOps rest result.2

def changes : List (ListOp α) → List NodeRef → List NodeRef
  | [], nodes => nodes
  | op :: rest, nodes => changes rest (op.change nodes)

/-- Every call fits the state the calls before it lead to. -/
def Admissible : List (ListOp α) → ListState α → List NodeRef → Prop
  | [], _, _ => True
  | op :: rest, state, nodes => op.Fits state nodes ∧
      ∀ result, op.run state = some result → Admissible rest result.2 (op.change nodes)

instance Admissible.decidable : (ops : List (ListOp α)) → (state : ListState α) →
    (nodes : List NodeRef) → Decidable (Admissible ops state nodes)
  | [], _, _ => .isTrue trivial
  | op :: rest, state, nodes =>
    have : Decidable (∀ result, op.run state = some result →
        Admissible rest result.2 (op.change nodes)) :=
      match op.run state with
      | none => .isTrue fun _ none => nomatch none
      | some result => @decidable_of_iff _ (Admissible rest result.2 (op.change nodes))
          ⟨fun holds _ same => Option.some.inj same ▸ holds, fun all => all result rfl⟩
          (decidable rest result.2 (op.change nodes))
    inferInstanceAs (Decidable (_ ∧ _))

/-- A sequence of calls that fit leaves a well-formed list with the changed sequence. -/
theorem runOps_spec {state : ListState α} (ops : List (ListOp α))
    (valid : WellFormed state.list state.heap nodes) (admissible : Admissible ops state nodes) :
    ∃ final, runOps ops state = some final ∧
      WellFormed final.list final.heap (changes ops nodes) := by
  induction ops generalizing state nodes with
  | nil => exact ⟨state, rfl, valid⟩
  | cons op rest ih =>
    obtain ⟨fits, admissible⟩ := admissible
    obtain ⟨result, next, called, formed, -⟩ := listOp_spec op valid fits
    obtain ⟨final, ran, ends⟩ := ih formed (admissible _ called)
    exact ⟨final, by rw [runOps, called]; exact ran, ends⟩

theorem Admissible.split {state : ListState α} {earlier later : List (ListOp α)}
    (admissible : Admissible (earlier ++ later) state nodes) : Admissible earlier state nodes ∧
      ∀ middle, runOps earlier state = some middle →
        Admissible later middle (changes earlier nodes) := by
  induction earlier generalizing state nodes with
  | nil =>
    refine ⟨trivial, fun middle ran => ?_⟩
    cases ran
    exact admissible
  | cons op rest ih =>
    obtain ⟨fits, admissible⟩ := admissible
    refine ⟨⟨fits, fun result called => (ih (admissible result called)).1⟩, fun middle ran => ?_⟩
    obtain ⟨result, called, continued⟩ := Option.bind_eq_some_iff.mp ran
    exact (ih (admissible result called)).2 middle continued

/-- A new list and its functions, which its creator sets. -/
def ListState.start (list : LinkedList α) (free : Option FreePtr)
    (matchFn : Option (α → α → Bool)) (heap : Heap α) : ListState α :=
  ⟨{ list with free := free, matchFn := matchFn }, heap⟩

theorem listNew_wellFormed {allocated : Bool} (created : listNew allocated = some list)
    (free : Option FreePtr) (matchFn : Option (α → α → Bool)) (heap : Heap α) :
    WellFormed (ListState.start list free matchFn heap).list heap [] := by
  cases allocated with
  | false => cases created
  | true =>
    cases created
    exact .of_paths .stop .stop .nil rfl

/-- From a new list on, calls that fit change the list as they change the sequence it
stands for, and destroying it at the end frees each value in it once. -/
theorem list_refines (allocated : Bool) (created : listNew allocated = some list)
    (free : Option FreePtr) (matchFn : Option (α → α → Bool)) (heap : Heap α)
    (ops : List (ListOp α)) (admissible : Admissible ops (.start list free matchFn heap) []) :
    (∀ earlier op later, ops = earlier ++ op :: later → ∃ before result after,
      runOps earlier (.start list free matchFn heap) = some before ∧
        op.run before = some (result, after) ∧
        WellFormed before.list before.heap (changes earlier []) ∧
        WellFormed after.list after.heap (op.change (changes earlier [])) ∧
        op.Outcome (changes earlier []) before result after) ∧
      ∃ final heap', runOps ops (.start list free matchFn heap) = some final ∧
        WellFormed final.list final.heap (changes ops []) ∧
        listDestroy final.list final.heap = some heap' ∧
        Destroyed final.list final.heap (changes ops []) heap' := by
  have begins := listNew_wellFormed created free matchFn heap
  constructor
  · rintro earlier op later rfl
    obtain ⟨first, rest⟩ := admissible.split
    obtain ⟨before, ran, formed⟩ := runOps_spec earlier begins first
    obtain ⟨fits, -⟩ := rest before ran
    obtain ⟨result, after, called, next, outcome⟩ := listOp_spec op formed fits
    exact ⟨before, result, after, ran, called, formed, next, outcome⟩
  · obtain ⟨final, ran, formed⟩ := runOps_spec ops begins admissible
    obtain ⟨heap', destroyed, done⟩ := listDestroy_spec formed
    exact ⟨final, heap', ran, formed, destroyed, done⟩

section Sample

private def sampleHeap : Heap Nat := ⟨fun _ => none, []⟩

private def sampleOps : List (ListOp Nat) :=
  [.nodeNew 1 10, .nodeNew 2 20, .nodeNew 3 30, .rpush 1, .lpush 2, .rpush 3, .remove 1, .rpop, .rpush 3]

end Sample

/-- Two nodes stay of three, and both are freed. -/
theorem list_refines_sample : ∃ final heap',
    runOps sampleOps (.start ⟨none, none, 0, none, none⟩ (some 7) none sampleHeap) = some final ∧
      WellFormed final.list final.heap [2, 3] ∧ listDestroy final.list final.heap = some heap' ∧
      Destroyed final.list final.heap [2, 3] heap' :=
  (list_refines true rfl (some 7) none sampleHeap sampleOps (by decide)).2

end IotstackDriver.Utils
