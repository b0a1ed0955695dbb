import IotstackDriver.Support.Loop
import IotstackDriver.Utils.ListInvariant

/-! The queries of `utils_list.c`: the iterator, `_list_find` and `_list_at`. -/

namespace IotstackDriver.Utils

open Support

variable {α : Type}

/-- What so many calls of `_list_iterator_next` return. -/
def listIterate (heap : Heap α) : Nat → ListIterator → Option (List (Option NodeRef))
  | 0, _ => some []
  | calls + 1, it => do
    let (node, it) ← listIteratorNext it heap
    let later ← listIterate heap calls it
    return node :: later

/-- The variables of the loop of `_list_at`. -/
structure Walk where
  index : Int32
  it : ListIterator
  node : Option NodeRef

/-- One test of `while (index--)` and the step it leads to. -/
def walkRound (heap : Heap α) (walk : Walk) : Round Walk (Option (Option NodeRef)) :=
  if walk.index = 0 then .done (some walk.node)
  else
    match listIteratorNext walk.it heap with
    | none => .done none
    | some (node, it) => .next ⟨walk.index - 1, it, node⟩

/-- At most so many rounds are made. `NULL` also when there is no room for an iterator. -/
def listAt (allocated : Bool) (rounds : Nat) (self : LinkedList α) (index : Int32) (heap : Heap α) :
    Option (Option NodeRef) :=
  let direction := if index < 0 then ListDirection.tail else .head
  let index := if index < 0 then ~~~index else index
  if index.toUInt32 < self.len then
    match listIteratorNew allocated self direction with
    | none => some none
    | some it => do
      let (node, it) ← listIteratorNext it heap
      (Loop.run (walkRound heap) rounds ⟨index, it, node⟩).join
  else some none

variable {list : LinkedList α} {heap : Heap α} {nodes : List NodeRef}

/-- The links an iterator follows. -/
def ListIterator.link (it : ListIterator) (heap : Heap α) : NodeRef → Option (Option NodeRef) :=
  if it.direction = .head then heap.next else heap.prev

/-- An iterator covers these nodes. -/
def ListIterator.Over (it : ListIterator) (heap : Heap α) (nodes : List NodeRef) : Prop :=
  Path (it.link heap) it.next nodes none

/-- A call of `_list_iterator_next` returns the node in front. -/
theorem ListIterator.Over.next {it : ListIterator} (covers : it.Over heap nodes) :
    ∃ after, listIteratorNext it heap = some (nodes.head?, after) ∧ after.Over heap nodes.tail := by
  cases nodes with
  | nil =>
    have ended : it.next = none := path_nil.mp covers
    exact ⟨it, by simp [listIteratorNext, ended], covers⟩
  | cons node rest =>
    obtain ⟨begins, next, found, later⟩ := path_cons.mp covers
    refine ⟨{ it with next := next }, ?_, later⟩
    rw [ListIterator.link] at found
    split at found
    · rename_i forward
      obtain ⟨own, held, same⟩ := Option.map_eq_some_iff.mp found
      simp [listIteratorNext, begins, held, forward, same]
    · rename_i backward
      obtain ⟨own, held, same⟩ := Option.map_eq_some_iff.mp found
      simp [listIteratorNext, begins, held, backward, same]

/-- The calls return the nodes one after the other and then `NULL`. -/
theorem listIterate_over {it : ListIterator} (covers : it.Over heap nodes) (calls : Nat) :
    listIterate heap calls it = some ((List.range calls).map fun call => nodes[call]?) := by
  induction calls generalizing it nodes with
  | zero => rfl
  | succ calls ih =>
    obtain ⟨after, stepped, later⟩ := covers.next
    rw [listIterate, stepped, Option.bind_eq_bind, Option.bind_some]
    dsimp only
    rw [ih later, List.range_succ_eq_map]
    simp [List.head?_eq_getElem?, Function.comp_def]

private theorem toInt_pred {index : Int32} {count : Nat} (counted : index.toInt = count + 1) :
    (index - 1).toInt = count := by
  have small := index.toInt_lt
  rw [Int32.toInt_sub, counted, Int32.toInt_one]
  exact (Int.bmod_eq_of_le (by omega) (by omega)).trans (by omega)

/-- The loop passes over as many nodes as the index says. -/
theorem walkRound_ends {walk : Walk} {count : Nat} (counted : walk.index.toInt = count)
    (here : walk.node = nodes.head?) (covers : walk.it.Over heap nodes.tail) :
    ∃ final, Loop.Ends (walkRound heap) walk count final (some nodes[count]?) := by
  induction count generalizing walk nodes with
  | zero =>
    have zero : walk.index = 0 := Int32.toInt_inj.mp counted
    exact ⟨walk, .at_once (by rw [walkRound, if_pos zero, here, List.head?_eq_getElem?])⟩
  | succ count ih =>
    have nonzero : walk.index ≠ 0 := by
      intro zero
      rw [zero] at counted
      cases counted
    obtain ⟨after, stepped, later⟩ := covers.next
    obtain ⟨final, ends⟩ := @ih nodes.tail ⟨walk.index - 1, after, nodes.tail.head?⟩
      (toInt_pred counted) rfl later
    rw [List.getElem?_tail] at ends
    exact ⟨final, ends.before (by rw [walkRound, if_neg nonzero, stepped])⟩

/-- The nodes in the order of a direction. -/
def ordered (direction : ListDirection) (nodes : List NodeRef) : List NodeRef :=
  if direction = .head then nodes else nodes.reverse

private theorem ordered_length (direction : ListDirection) (nodes : List NodeRef) :
    (ordered direction nodes).length = nodes.length := by
  rw [ordered]
  split
  · rfl
  · exact List.length_reverse

private theorem listIteratorNew_over (valid : WellFormed list heap nodes) (direction : ListDirection) :
    ∃ it, listIteratorNew true list direction = some it ∧
      it.Over heap (ordered direction nodes) := by
  cases direction with
  | head => exact ⟨⟨list.head, .head⟩, rfl, valid.forward⟩
  | tail => exact ⟨⟨list.tail, .tail⟩, rfl, valid.backward⟩

/-- The value of a node passes the test of a search. -/
def LinkedList.accepts [DecidableEq α] (self : LinkedList α) (val own : α) : Bool :=
  match self.matchFn with
  | some matchFn => matchFn val own
  | none => decide (val = own)

/-- The first node whose value is accepted. -/
theorem findNode_spec [DecidableEq α] (val : α) {rounds : Nat} {it : ListIterator}
    (covers : it.Over heap nodes.tail) (known : ∀ node ∈ nodes, heap.allocated node = true)
    (enough : nodes.length ≤ rounds) : findNode list val heap rounds it nodes.head? =
      some (nodes.find? fun node => (heap.val node).any (list.accepts val)) := by
  induction nodes generalizing rounds it with
  | nil =>
    cases rounds <;> rfl
  | cons node rest ih =>
    obtain ⟨rounds, rfl⟩ := Nat.exists_eq_succ_of_ne_zero (Nat.ne_zero_of_lt enough)
    obtain ⟨own, held⟩ := Option.isSome_iff_exists.mp (known node List.mem_cons_self)
    have value : heap.val node = some own.val := by rw [Heap.val, held, Option.map_some]
    obtain ⟨after, stepped, later⟩ := covers.next
    rw [List.head?_cons, findNode, held, Option.bind_eq_bind, Option.bind_some, List.find?_cons, value,
      Option.any_some]
    change (if list.accepts val own.val = true then _ else _) = _
    cases accepted : list.accepts val own.val with
    | true => rfl
    | false =>
      rw [if_neg Bool.false_ne_true]
      simp only [Option.bind_eq_bind, stepped, Option.bind_some]
      exact ih later (fun other member => known other (List.mem_cons_of_mem node member))
        (Nat.le_of_succ_le_succ enough)

theorem listFind_spec [DecidableEq α] (valid : WellFormed list heap nodes) (val : α) {rounds : Nat}
    (enough : nodes.length ≤ rounds) : listFind true rounds list val heap =
      some (nodes.find? fun node => (heap.val node).any (list.accepts val)) := by
  obtain ⟨it, created, covers⟩ := listIteratorNew_over valid .head
  obtain ⟨after, stepped, later⟩ := covers.next
  rw [listFind, created]
  simp only [Option.bind_eq_bind, stepped, Option.bind_some]
  exact findNode_spec val later (fun node member => valid.allocated member) enough

private theorem inside_iff (valid : WellFormed list heap nodes) {index : Int32} (counted : 0 ≤ index) :
    index.toUInt32 < list.len ↔ index.toInt.toNat < nodes.length := by
  rw [UInt32.lt_iff_toNat_lt, valid.length, Int32.toNat_toUInt32_of_le counted, Int32.toNat_toInt]

/-- From either end, the node at an index that is counted from there. -/
private theorem walk_spec (valid : WellFormed list heap nodes) (direction : ListDirection)
    {index : Int32} (counted : 0 ≤ index) {rounds : Nat} (enough : nodes.length ≤ rounds) :
    (if index.toUInt32 < list.len then
      match listIteratorNew true list direction with
      | none => some none
      | some it => do
        let (node, it) ← listIteratorNext it heap
        (Loop.run (walkRound heap) rounds ⟨index, it, node⟩).join
    else some none) = some (ordered direction nodes)[index.toInt.toNat]? := by
  have inside := inside_iff valid counted
  split
  · rename_i below
    obtain ⟨it, created, covers⟩ := listIteratorNew_over valid direction
    obtain ⟨after, stepped, later⟩ := covers.next
    have same : index.toInt = (index.toInt.toNat : Int) :=
      (Int.toNat_of_nonneg (Int32.le_iff_toInt_le.mp counted)).symm
    obtain ⟨final, ends⟩ := @walkRound_ends α heap (ordered direction nodes)
      ⟨index, after, (ordered direction nodes).head?⟩ _ same rfl later
    rw [created]
    simp only [Option.bind_eq_bind, stepped, Option.bind_some]
    have short := inside.mp below
    rw [ends.run (by omega)]
    rfl
  · rename_i beyond
    have outside := mt inside.mpr beyond
    rw [List.getElem?_eq_none (by rw [ordered_length]; omega)]

theorem listAt_front (valid : WellFormed list heap nodes) {index : Int32} (counted : 0 ≤ index)
    {rounds : Nat} (enough : nodes.length ≤ rounds) :
    listAt true rounds list index heap = some nodes[index.toInt.toNat]? := by
  have front : ¬ index < 0 := by
    rw [Int32.lt_iff_toInt_lt]
    exact Int.not_lt.mpr (Int32.le_iff_toInt_le.mp counted)
  unfold listAt
  simp only [if_neg front]
  exact walk_spec valid .head counted enough

theorem listAt_back (valid : WellFormed list heap nodes) {index : Int32} (negative : index < 0)
    {rounds : Nat} (enough : nodes.length ≤ rounds) :
    listAt true rounds list index heap = some nodes.reverse[(-index.toInt - 1).toNat]? := by
  have below : index.toInt < 0 := Int32.lt_iff_toInt_lt.mp negative
  have least := index.le_toInt
  have complement : (~~~index).toInt = -index.toInt - 1 := by
    rw [Int32.toInt_not]
    exact Int.bmod_eq_of_le (by omega) (by omega)
  have counted : 0 ≤ ~~~index := by
    rw [Int32.le_iff_toInt_le, complement]
    exact show (0 : Int) ≤ _ by omega
  unfold listAt
  simp only [if_pos negative]
  rw [← complement]
  exact walk_spec valid .tail counted enough

/-- What the queries answer about a list of these nodes, with room for the iterator and
rounds enough to pass over every node. -/
structure Answers [DecidableEq α] (list : LinkedList α) (heap : Heap α) (nodes : List NodeRef) :
    Prop where
  iterate : ∀ direction, ∃ it, listIteratorNew true list direction = some it ∧ ∀ calls,
    listIterate heap calls it =
      some ((List.range calls).map fun call => (ordered direction nodes)[call]?)
  find : ∀ val rounds, nodes.length ≤ rounds → listFind true rounds list val heap =
    some (nodes.find? fun node => (heap.val node).any (list.accepts val))
  front : ∀ (index : Int32) rounds, nodes.length ≤ rounds → 0 ≤ index.toInt →
    index.toInt < nodes.length → listAt true rounds list index heap = some nodes[index.toInt.toNat]?
  back : ∀ (index : Int32) rounds, nodes.length ≤ rounds → -(nodes.length : Int) ≤ index.toInt →
    index.toInt < 0 → listAt true rounds list index heap =
      some nodes[(nodes.length + index.toInt).toNat]?
  outside : ∀ (index : Int32) rounds, nodes.length ≤ rounds →
    index.toInt < -(nodes.length : Int) ∨ nodes.length ≤ index.toInt →
      listAt true rounds list index heap = some none

theorem list_answers [DecidableEq α] (valid : WellFormed list heap nodes) : Answers list heap nodes where
  iterate direction := by
    obtain ⟨it, created, covers⟩ := listIteratorNew_over valid direction
    exact ⟨it, created, listIterate_over covers⟩
  find val _ enough := listFind_spec valid val enough
  front index _ enough counted _ := listAt_front valid (Int32.le_iff_toInt_le.mpr counted) enough
  back index _ enough least negative := by
    have inside : (-index.toInt - 1).toNat < nodes.length := by omega
    have same : nodes.length - 1 - (-index.toInt - 1).toNat = (nodes.length + index.toInt).toNat := by
      omega
    rw [listAt_back valid (Int32.lt_iff_toInt_lt.mpr negative) enough, List.getElem?_reverse inside, same]
  outside index _ enough far := by
    by_cases negative : index.toInt < 0
    · rw [listAt_back valid (Int32.lt_iff_toInt_lt.mpr negative) enough, List.getElem?_eq_none]
      rw [List.length_reverse]
      omega
    · rw [listAt_front valid (Int32.le_iff_toInt_le.mpr (Int.not_lt.mp negative)) enough,
        List.getElem?_eq_none]
      omega

/-- Two linked nodes. -/
private def pairHeap : Heap Nat where
  node ref :=
    if ref = 0 then some ⟨none, some 1, 7⟩ else if ref = 1 then some ⟨some 0, none, 8⟩ else none
  freed := []

theorem list_answers_pair : Answers ⟨some 0, some 1, 2, none, none⟩ pairHeap [0, 1] :=
  list_answers (.of_paths (.follow rfl (.follow rfl .stop)) (.follow rfl (.follow rfl .stop))
    (by decide) rfl)

end IotstackDriver.Utils
