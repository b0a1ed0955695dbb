import IotstackDriver.Edge.NodeLists
import IotstackDriver.Edge.Calls
import IotstackDriver.Edge.Races
import IotstackDriver.Edge.StatusSync
import Mathlib.Data.Fintype.EquivFin

/-! The registries the operations are modelled with are refined by linked lists of nodes:
whatever is asked of them, the lists answer the same. -/

namespace IotstackDriver.Edge

open Libc Support Utils

def World.objects (world : World) : RegistryList → Nat
  | .requestid => world.requests.size
  | .connDevice => world.devices.size

/-- Two lists in one heap that hold what the registries list, in order, and no other node. The
objects handed to `free` are those that were released. -/
structure Represents (world : World) (below : NodeWorld) (nodes : RegistryList → List NodeRef) :
    Prop where
  requests : ∀ ref, below.requests[ref]? = world.requests.value? ref
  devices : ∀ ref, below.devices[ref]? = world.devices.value? ref
  formed : ∀ list, WellFormed (below.lists list) below.heap (nodes list)
  values : ∀ list, (nodes list).map below.heap.val =
    (world.entries list).map fun ref => some (list.pointer ref)
  owned : ∀ node, below.heap.allocated node = true → ∃ list, node ∈ nodes list
  free : ∀ list, (below.lists list).free = some list.freePtr
  freed : ∀ list ref, (list.freePtr, list.pointer ref) ∈ below.heap.freed ↔
    ref < world.objects list ∧ world.live list ref = false

/-- An address that is not in use. -/
def Fresh (place : Heap Pointer → NodeRef) : Prop :=
  ∀ heap : Heap Pointer, (∃ used : List NodeRef, ∀ node, heap.allocated node = true → node ∈ used) →
    heap.allocated (place heap) = false

variable {env : Env} {world next : World} {below : NodeWorld} {nodes : RegistryList → List NodeRef}
  {list : RegistryList} {ref : Ref} {place : Heap Pointer → NodeRef}

theorem initial_represents : Represents .initial .initial fun _ => [] where
  requests _ := rfl
  devices _ := rfl
  formed _ := .of_paths .stop .stop .nil rfl
  values list := by cases list <;> rfl
  owned _ := nofun
  free _ := rfl
  freed list ref := by
    cases list <;> simp [NodeWorld.initial, World.initial, World.objects, Registry.empty]

theorem pointer_ref (list : RegistryList) (ref : Ref) : (list.pointer ref).ref? = some ref := by
  cases list <;> rfl

theorem pointer_inj {list other : RegistryList} {ref ref' : Ref}
    (same : list.pointer ref = other.pointer ref') : list = other ∧ ref = ref' := by
  cases list <;> cases other <;> cases same
  · exact ⟨rfl, rfl⟩
  · exact ⟨rfl, rfl⟩

/-- Nothing changed that a list or a search sees. -/
structure SameListed (world next : World) : Prop where
  requests : next.requests.value? = world.requests.value?
  devices : next.devices.value? = world.devices.value?
  entries : next.entries = world.entries
  objects : next.objects = world.objects
  live : next.live = world.live

namespace SameListed

/-- Accesses to objects change nothing else. -/
theorem touchRequests (refs : List Ref) :
    SameListed world { world with requests := world.requests.touchAll refs } where
  requests := by funext ref; simp
  devices := rfl
  entries := by funext list; cases list <;> simp [World.entries]
  objects := by funext list; cases list <;> simp [World.objects]
  live := by funext list; cases list <;> funext ref <;> simp [World.live]

theorem touchDevices (refs : List Ref) :
    SameListed world { world with devices := world.devices.touchAll refs } where
  requests := rfl
  devices := by funext ref; simp
  entries := by funext list; cases list <;> simp [World.entries]
  objects := by funext list; cases list <;> simp [World.objects]
  live := by funext list; cases list <;> funext ref <;> simp [World.live]

end SameListed

namespace Represents

theorem of_same (represents : Represents world below nodes) (same : SameListed world next) :
    Represents next below nodes where
  requests ref := (represents.requests ref).trans (congrFun same.requests ref).symm
  devices ref := (represents.devices ref).trans (congrFun same.devices ref).symm
  formed := represents.formed
  values list := by rw [same.entries, represents.values]
  owned := represents.owned
  free := represents.free
  freed list ref := by rw [same.objects, same.live, represents.freed]

theorem held (represents : Represents world below nodes) {node : NodeRef} (member : node ∈ nodes list) :
    ∃ ref ∈ world.entries list, below.heap.val node = some (list.pointer ref) := by
  have mapped : below.heap.val node ∈ (nodes list).map below.heap.val := List.mem_map_of_mem member
  rw [represents.values] at mapped
  obtain ⟨ref, listed, same⟩ := List.mem_map.mp mapped
  exact ⟨ref, listed, same.symm⟩

/-- The two lists share no node. -/
theorem apart (represents : Represents world below nodes) {first second : RegistryList}
    (different : first ≠ second) {node : NodeRef} (member : node ∈ nodes first) : node ∉ nodes second := by
  intro also
  obtain ⟨ref, -, held⟩ := represents.held member
  obtain ⟨ref', -, held'⟩ := represents.held also
  exact different (pointer_inj (Option.some.inj (held.symm.trans held'))).1

theorem length_eq (represents : Represents world below nodes) (list : RegistryList) :
    (nodes list).length = (world.entries list).length := by
  simpa using congrArg List.length (represents.values list)

theorem len_eq_zero (represents : Represents world below nodes) :
    (below.lists list).len = 0 ↔ world.entries list = [] := by
  rw [len_eq_zero_iff (represents.formed list).length, ← List.length_eq_zero_iff, represents.length_eq,
    List.length_eq_zero_iff]

/-! ## Searching -/

theorem search_spec (represents : Represents world below nodes) (allocated : env.malloc (.listIterator list) = true)
    (sought : Pointer) : below.search env list sought = some ((nodes list).find? fun node =>
      (below.heap.val node).any (below.matchFn list sought)) := by
  have valid : WellFormed { below.lists list with matchFn := some (below.matchFn list) } below.heap
      (nodes list) :=
    .of_paths (represents.formed list).forward (represents.formed list).backward
      (represents.formed list).distinct (represents.formed list).length
  simp only [NodeWorld.search, allocated]
  exact listFind_spec valid sought (Nat.le_of_eq (represents.formed list).length.symm)

theorem search_failed (refused : env.malloc (.listIterator list) = false) (sought : Pointer) :
    below.search env list sought = some none := by
  simp [NodeWorld.search, refused, listFind, listIteratorNew, listIteratorNewFromNode]

/-- The node that a search finds, with what is listed around it. -/
theorem located (represents : Represents world below nodes) {accepts : Pointer → Bool} {test : Ref → Bool}
    (agrees : ∀ ref ∈ world.entries list, accepts (list.pointer ref) = test ref) {node : NodeRef}
    (found : (nodes list).find? (fun node => (below.heap.val node).any accepts) = some node) :
    ∃ before after front ref back, nodes list = before ++ node :: after ∧
      world.entries list = front ++ ref :: back ∧ below.heap.val node = some (list.pointer ref) ∧
      before.map below.heap.val = front.map (fun ref => some (list.pointer ref)) ∧
      after.map below.heap.val = back.map (fun ref => some (list.pointer ref)) ∧
      test ref = true ∧ ∀ other ∈ front, test other = false := by
  obtain ⟨hit, before, after, same, missed⟩ := List.find?_eq_some_iff_append.mp found
  have values := represents.values list
  rw [same, List.map_append, List.map_cons] at values
  obtain ⟨front, rest, split, ahead, behind⟩ := List.map_eq_append_iff.mp values.symm
  obtain ⟨ref, back, rfl, here, behind⟩ := List.map_eq_cons_iff.mp behind
  refine ⟨before, after, front, ref, back, same, split, here.symm, ahead.symm, behind.symm, ?_, ?_⟩
  · rw [← agrees ref (by simp [split])]
    rw [← here] at hit
    exact hit
  · intro other member
    rw [← agrees other (by simp [split, member])]
    have mapped : some (list.pointer other) ∈ before.map below.heap.val := by
      rw [← ahead]
      exact List.mem_map_of_mem (f := fun ref => some (list.pointer ref)) member
    obtain ⟨earlier, inside, same⟩ := List.mem_map.mp mapped
    simpa [same] using missed earlier inside

theorem found_eq (represents : Represents world below nodes) {accepts : Pointer → Bool} {test : Ref → Bool}
    (agrees : ∀ ref ∈ world.entries list, accepts (list.pointer ref) = test ref) :
    below.found ((nodes list).find? fun node => (below.heap.val node).any accepts) =
      (world.entries list).find? test := by
  cases found : (nodes list).find? fun node => (below.heap.val node).any accepts with
  | none =>
    refine (List.find?_eq_none.mpr fun ref listed => ?_).symm
    have mapped : some (list.pointer ref) ∈ (nodes list).map below.heap.val := by
      rw [represents.values]
      exact List.mem_map_of_mem (f := fun ref => some (list.pointer ref)) listed
    obtain ⟨node, inside, held⟩ := List.mem_map.mp mapped
    rw [← agrees ref listed]
    simpa [held] using List.find?_eq_none.mp found node inside
  | some node =>
    obtain ⟨before, after, front, ref, back, -, split, held, -, -, hit, missed⟩ :=
      represents.located agrees found
    have first : (world.entries list).find? test = some ref :=
      List.find?_eq_some_iff_append.mpr ⟨hit, front, back, split, fun other member => by
        simp [missed other member]⟩
    rw [first, NodeWorld.found, Option.bind_some, held, Option.bind_some, pointer_ref]

/-! ## Unlinking and appending -/

/-- The world after an entry went and its object was released. -/
structure Unlinked (list : RegistryList) (ref : Ref) (rest : List Ref) (world next : World) : Prop where
  requests : next.requests.value? = world.requests.value?
  devices : next.devices.value? = world.devices.value?
  entries : next.entries = Function.update world.entries list rest
  objects : next.objects = world.objects
  live : ∀ other ref', next.live other ref' = (world.live other ref' && !decide (other = list ∧ ref' = ref))

theorem unlink (represents : Represents world below nodes) {before after : List NodeRef} {node : NodeRef}
    {front back : List Ref} (split : nodes list = before ++ node :: after)
    (listed : world.entries list = front ++ ref :: back)
    (held : below.heap.val node = some (list.pointer ref))
    (ahead : before.map below.heap.val = front.map fun ref => some (list.pointer ref))
    (behind : after.map below.heap.val = back.map fun ref => some (list.pointer ref))
    (known : ref < world.objects list) (unlinked : Unlinked list ref (front ++ back) world next) :
    ∃ self heap, listRemove (below.lists list) (some node) below.heap = some (self, heap) ∧
      Represents next (below.setList list self heap) (Function.update nodes list (before ++ after)) := by
  have valid : WellFormed (below.lists list) below.heap (before ++ node :: after) :=
    split ▸ represents.formed list
  obtain ⟨self, heap, taken, formed, removed⟩ := listRemove_spec valid
  obtain ⟨absent, -⟩ := List.nodup_cons.mp (List.nodup_middle.mp valid.distinct)
  have kept {listed : List NodeRef} (outside : node ∉ listed) :
      listed.map heap.val = listed.map below.heap.val := by
    refine List.map_congr_left fun other member => ?_
    rw [removed.val, Function.update_of_ne fun same : other = node => outside (same ▸ member)]
  refine ⟨self, heap, taken, ?_, ?_, ?_, ?_, ?_, ?_, ?_⟩
  · intro ref
    rw [unlinked.requests]
    exact represents.requests ref
  · intro ref
    rw [unlinked.devices]
    exact represents.devices ref
  · intro other
    by_cases same : other = list
    · subst same
      simpa [NodeWorld.setList] using formed
    · simp only [NodeWorld.setList, ne_eq, same, not_false_eq_true, Function.update_of_ne]
      refine (represents.formed other).elsewhere fun far member => ?_
      exact listRemove_frame valid taken (split ▸ represents.apart same member)
  · intro other
    by_cases same : other = list
    · subst same
      simp only [NodeWorld.setList, unlinked.entries, Function.update_self, List.map_append]
      rw [kept fun member => absent (List.mem_append_left _ member),
        kept fun member => absent (List.mem_append_right _ member), ahead, behind]
    · simp only [NodeWorld.setList, unlinked.entries, ne_eq, same, not_false_eq_true,
        Function.update_of_ne]
      rw [kept (represents.apart (Ne.symm same) (by simp [split])), represents.values]
  · intro other inside
    have different : other ≠ node := by
      rintro rfl
      simp [NodeWorld.setList, Heap.allocated_eq, removed.val] at inside
    obtain ⟨owner, member⟩ := represents.owned other (by
      simpa [NodeWorld.setList, Heap.allocated_eq, removed.val, different] using inside)
    refine ⟨owner, ?_⟩
    by_cases same : owner = list
    · subst same
      rw [split] at member
      rw [Function.update_self]
      simpa [different] using member
    · rwa [Function.update_of_ne same]
  · intro other
    by_cases same : other = list
    · subst same
      simpa [NodeWorld.setList] using removed.free.trans (represents.free other)
    · simpa [NodeWorld.setList, same] using represents.free other
  · intro other ref'
    have freed : heap.freed = below.heap.freed ++ [(list.freePtr, list.pointer ref)] := by
      rw [removed.freed, represents.free, held]
      rfl
    have named : (other.freePtr, other.pointer ref') = (list.freePtr, list.pointer ref) ↔
        other = list ∧ ref' = ref := by
      refine ⟨fun same => pointer_inj (Prod.mk.inj same).2, ?_⟩
      rintro ⟨rfl, rfl⟩
      rfl
    simp only [NodeWorld.setList, freed, List.mem_append, List.mem_singleton, represents.freed, named,
      unlinked.objects, unlinked.live]
    by_cases taken : other = list ∧ ref' = ref
    · obtain ⟨rfl, rfl⟩ := taken
      simp [known]
    · simp [taken]

/-- The world after a known object was listed. -/
structure Appended (list : RegistryList) (ref : Ref) (world next : World) : Prop where
  requests : next.requests.value? = world.requests.value?
  devices : next.devices.value? = world.devices.value?
  entries : next.entries = Function.update world.entries list (world.entries list ++ [ref])
  objects : next.objects = world.objects
  live : next.live = world.live

theorem append (represents : Represents world below nodes) (fresh : Fresh place)
    (room : (world.entries list).length + 1 < 2 ^ 32) (appended : Appended list ref world next) :
    ∃ below', below.append place list ref = some below' ∧
      Represents next below' (Function.update nodes list (nodes list ++ [place below.heap])) := by
  have free : below.heap.allocated (place below.heap) = false :=
    fresh below.heap ⟨nodes .requestid ++ nodes .connDevice, fun node inside => by
      obtain ⟨owner, member⟩ := represents.owned node inside
      cases owner <;> simp [member]⟩
  have other_node {owner : RegistryList} {other : NodeRef} (member : other ∈ nodes owner) :
      other ≠ place below.heap := by
    rintro rfl
    simp [(represents.formed owner).allocated member] at free
  let born : Heap Pointer := { below.heap with
    node := Function.update below.heap.node (place below.heap) (some ⟨none, none, list.pointer ref⟩) }
  have bornVal : born.val = Function.update below.heap.val (place below.heap) (some (list.pointer ref)) := by
    funext other
    by_cases same : other = place below.heap
    · subst same
      simp [born, Heap.val]
    · simp [born, Heap.val, same]
  have formed₀ (owner : RegistryList) : WellFormed (below.lists owner) born (nodes owner) :=
    (represents.formed owner).elsewhere fun other member => Function.update_of_ne (other_node member) ..
  obtain ⟨self, heap, pushed, formed, relinked⟩ := listRpush_spec (formed₀ list)
    (by simp [Heap.allocated, born] : born.allocated (place below.heap) = true)
    (fun member => other_node member rfl) (by rwa [represents.length_eq])
  have val : heap.val = Function.update below.heap.val (place below.heap) (some (list.pointer ref)) :=
    relinked.val.trans bornVal
  have kept {owner : RegistryList} : (nodes owner).map heap.val = (nodes owner).map below.heap.val :=
    List.map_congr_left fun other member => by rw [val, Function.update_of_ne (other_node member)]
  have placed : heap.val (place below.heap) = some (list.pointer ref) := by rw [val, Function.update_self]
  refine ⟨below.setList list self heap, ?_, ?_, ?_, ?_, ?_, ?_, ?_, ?_⟩
  · rw [NodeWorld.append, if_neg (by simp [free]), listNodeNew]
    exact congrArg (Option.bind · fun result => some (below.setList list result.2.1 result.2.2)) pushed
  · intro ref
    rw [appended.requests]
    exact represents.requests ref
  · intro ref
    rw [appended.devices]
    exact represents.devices ref
  · intro other
    by_cases same : other = list
    · subst same
      simpa [NodeWorld.setList] using formed
    · simp only [NodeWorld.setList, ne_eq, same, not_false_eq_true, Function.update_of_ne]
      refine (formed₀ other).elsewhere fun far member => listRpush_frame pushed (other_node member) ?_
      rw [(represents.formed list).tail_eq]
      exact fun last => represents.apart same member (List.mem_of_getLast? last)
  · intro other
    by_cases same : other = list
    · subst same
      simp only [NodeWorld.setList, appended.entries, Function.update_self, List.map_append, kept,
        represents.values, List.map_cons, List.map_nil, placed]
    · simp only [NodeWorld.setList, appended.entries, ne_eq, same, not_false_eq_true,
        Function.update_of_ne, kept, represents.values]
  · intro other inside
    by_cases here : other = place below.heap
    · exact ⟨list, by simp [here]⟩
    · obtain ⟨owner, member⟩ := represents.owned other (by
        simpa [NodeWorld.setList, Heap.allocated_eq, val, here] using inside)
      refine ⟨owner, ?_⟩
      by_cases same : owner = list
      · subst same
        simp [member]
      · rwa [Function.update_of_ne same]
  · intro other
    by_cases same : other = list
    · subst same
      simpa [NodeWorld.setList] using relinked.free.trans (represents.free other)
    · simpa [NodeWorld.setList, same] using represents.free other
  · intro other ref'
    have freed : heap.freed = below.heap.freed := relinked.freed
    simp only [NodeWorld.setList, freed, represents.freed, appended.objects, appended.live]

theorem collect_spec (represents : Represents world below nodes) (env : Env) (list : RegistryList) :
    below.collect env list =
      some (iterateTail (world.entries list) (env.malloc (.listIterator list))) := by
  have valid := represents.formed list
  by_cases empty : world.entries list = []
  · simp [NodeWorld.collect, represents.len_eq_zero.mpr empty, iterateTail, empty]
  · have filled : ¬ (below.lists list).len = 0 := fun zero => empty (represents.len_eq_zero.mp zero)
    cases allocated : env.malloc (.listIterator list) with
    | false =>
      simp [NodeWorld.collect, filled, iterateTail, empty, allocated, listIteratorNew, listIteratorNewFromNode]
    | true =>
      have covers : ListIterator.Over ⟨(below.lists list).tail, .tail⟩ below.heap (nodes list).reverse :=
        valid.backward
      have held : (nodes list).reverse.map below.heap.val =
          ((world.entries list).map list.pointer).reverse.map some := by
        rw [List.map_reverse, represents.values, List.map_reverse, List.map_map]
        rfl
      have drained : drain below.heap ((below.lists list).len.toNat + 1) ⟨(below.lists list).tail, .tail⟩ =
          some ((world.entries list).map list.pointer).reverse :=
        drain_over covers held (by rw [List.length_reverse, valid.length]; omega)
      simp only [NodeWorld.collect, filled, allocated, iterateTail, empty, listIteratorNew,
        listIteratorNewFromNode, ↓reduceIte, or_true, reduceCtorEq, drained, Option.map_some,
        ← List.map_reverse, List.filterMap_map]
      have pointed : Pointer.ref? ∘ list.pointer = some := funext fun ref => pointer_ref list ref
      rw [pointed, List.filterMap_some]

/-! ## The requests -/

theorem find_requestid (represents : Represents world below nodes) (requestId : UInt32)
    (allocated : env.malloc (.listIterator .requestid) = true) :
    handleNodes place env (.find .requestid requestId) below =
      some (world.requests.find? (msgParseMatch requestId), below) := by
  have agrees : ∀ ref ∈ world.entries .requestid, below.matchFn .requestid (.requestId requestId)
      (RegistryList.requestid.pointer ref) = world.requests.matching (msgParseMatch requestId) ref := by
    intro ref _
    simp only [NodeWorld.matchFn, NodeWorld.requestId?, RegistryList.pointer, represents.requests,
      Registry.matching, Option.bind_some]
    cases world.requests.value? ref <;> rfl
  rw [handleNodes, represents.search_spec allocated, Option.map_some, represents.found_eq agrees]
  rfl

theorem find_deviceSn (represents : Represents world below nodes) (deviceSn : CString)
    (allocated : env.malloc (.listIterator .connDevice) = true) :
    handleNodes place env (.find .connDevice (some deviceSn)) below =
      some (world.devices.find? (subdevClientMatch deviceSn), below) := by
  have agrees : ∀ ref ∈ world.entries .connDevice, below.matchFn .connDevice (.deviceSn deviceSn)
      (RegistryList.connDevice.pointer ref) = world.devices.matching (subdevClientMatch deviceSn) ref := by
    intro ref _
    simp only [NodeWorld.matchFn, NodeWorld.deviceSn?, RegistryList.pointer, represents.devices,
      Registry.matching, Option.bind_some]
    cases world.devices.value? ref <;> rfl
  rw [handleNodes, represents.search_spec allocated, Option.map_some, represents.found_eq agrees]
  rfl

theorem entry_known (member : ref ∈ world.entries list) : ref < world.objects list := by
  cases list
  · exact world.requests.entriesAllocated ref member
  · exact world.devices.entriesAllocated ref member

section Extract

variable {test : Ref → Bool} (agrees : ∀ other ∈ world.entries list,
  below.matchFn list (list.pointer ref) (list.pointer other) = test other)
include agrees

theorem extract_missed (represents : Represents world below nodes)
    (allocated : env.malloc (.listIterator list) = true) (missed : (world.entries list).find? test = none) :
    below.extract env list ref = some (false, below) := by
  have same := represents.found_eq agrees
  cases located : (nodes list).find? fun node =>
      (below.heap.val node).any (below.matchFn list (list.pointer ref)) with
  | none =>
    rw [NodeWorld.extract, represents.search_spec allocated, located]
    rfl
  | some node =>
    obtain ⟨-, -, -, taken, -, -, -, held, -⟩ := represents.located agrees located
    rw [located, NodeWorld.found, Option.bind_some, held, Option.bind_some, pointer_ref] at same
    cases same.trans missed

/-- A removal finds the same entry, and takes it out. -/
theorem extract_found (represents : Represents world below nodes)
    (allocated : env.malloc (.listIterator list) = true) {found : Ref}
    (hits : (world.entries list).find? test = some found)
    (unlinked : Unlinked list found ((world.entries list).eraseP test) world next) :
    ∃ below' nodes', below.extract env list ref = some (true, below') ∧ Represents next below' nodes' := by
  have same := represents.found_eq agrees
  cases located : (nodes list).find? fun node =>
      (below.heap.val node).any (below.matchFn list (list.pointer ref)) with
  | none =>
    rw [located] at same
    cases same.trans hits
  | some node =>
    obtain ⟨before, after, front, taken, back, split, listed, held, ahead, behind, hit, missed⟩ :=
      represents.located agrees located
    rw [located, NodeWorld.found, Option.bind_some, held, Option.bind_some, pointer_ref] at same
    cases same.trans hits
    have rest : (world.entries list).eraseP test = front ++ back := by
      rw [listed, List.eraseP_append_right _ (by simpa using missed), List.eraseP_cons_of_pos hit]
    rw [rest] at unlinked
    obtain ⟨self, heap, removed, relates⟩ := represents.unlink split listed held ahead behind
      (entry_known (by simp [listed])) unlinked
    refine ⟨below.setList list self heap, _, ?_, relates⟩
    rw [NodeWorld.extract, represents.search_spec allocated, located]
    exact congrArg (Option.bind · fun result => some (true, below.setList list result.1 result.2)) removed

end Extract

theorem extract_failed (refused : env.malloc (.listIterator list) = false) :
    below.extract env list ref = some (false, below) := by
  rw [NodeWorld.extract, search_failed refused]
  rfl

private theorem unlinked_requests {found : Ref} {test : MsgParse → Bool} {refs : List Ref}
    (hit : world.requests.find? test = some found) :
    Unlinked .requestid found (world.requests.entries.eraseP (world.requests.matching test)) world
      { world with requests := (world.requests.touchAll refs).remove test } where
  requests := by funext ref; simp
  devices := rfl
  entries := by funext list; cases list <;> simp [World.entries, Registry.remove_entries]
  objects := by funext list; cases list <;> simp [World.objects]
  live list ref := by
    cases list
    · simp [World.live, Registry.remove_live, hit, eq_comm]
    · simp [World.live]

private theorem unlinked_devices {found : Ref} {test : SubdevClient → Bool} {refs : List Ref}
    (hit : world.devices.find? test = some found) :
    Unlinked .connDevice found (world.devices.entries.eraseP (world.devices.matching test)) world
      { world with devices := (world.devices.touchAll refs).remove test } where
  requests := rfl
  devices := by funext ref; simp
  entries := by funext list; cases list <;> simp [World.entries, Registry.remove_entries]
  objects := by funext list; cases list <;> simp [World.objects]
  live list ref := by
    cases list
    · simp [World.live]
    · simp [World.live, Registry.remove_live, hit, eq_comm]

section Objects

variable {α : Type} {objects : List α} {registry : Registry α}

private theorem objects_length (same : ∀ ref, objects[ref]? = registry.value? ref) :
    objects.length = registry.size := by
  have agree (ref : Nat) : ref < objects.length ↔ ref < registry.size := by
    rw [← Registry.value?_isSome, ← same, isSome_getElem?]
  have first := agree objects.length
  have second := agree registry.size
  omega

private theorem objects_alloc (same : ∀ ref, objects[ref]? = registry.value? ref) (value : α) (ref : Ref) :
    (objects ++ [value])[ref]? = (registry.alloc value).value? ref := by
  rw [Registry.alloc_value?, ← objects_length same, ← same]
  split
  · rename_i last
    rw [last, List.getElem?_concat_length]
  · rename_i earlier
    rcases Nat.lt_or_gt_of_ne earlier with before | after
    · exact List.getElem?_append_left before
    · rw [List.getElem?_eq_none (by rw [List.length_append]; exact after), List.getElem?_eq_none (Nat.le_of_lt after)]

private theorem objects_modify (same : ∀ ref, objects[ref]? = registry.value? ref) (node : Ref)
    (change : α → α) (ref : Ref) :
    (objects.modify node change)[ref]? = ((registry.touch node).modify node change).value? ref := by
  rw [Registry.modify_value?, Registry.touch_value?, List.getElem?_modify, same]
  by_cases here : node = ref
  · simp [here]
  · simp [here, Ne.symm here]

private theorem released_alloc {ref : Nat} (value : α) : (ref < (registry.alloc value).size ∧
    (registry.alloc value).live ref = false) ↔ ref < registry.size ∧ registry.live ref = false := by
  rw [Registry.alloc_live, Registry.alloc_size]
  split
  · rename_i last
    simp [last]
  · rename_i earlier
    have bound : ref < registry.size + 1 ↔ ref < registry.size := by omega
    rw [bound]

end Objects

theorem newMsgParse (represents : Represents world below nodes) (requestId : UInt32) :
    Represents { world with requests := world.requests.alloc ⟨requestId, .zero⟩ }
      { below with requests := below.requests ++ [⟨requestId, .zero⟩] } nodes where
  requests := objects_alloc represents.requests _
  devices := represents.devices
  formed := represents.formed
  values list := by cases list <;> exact represents.values _
  owned := represents.owned
  free := represents.free
  freed list ref := by
    cases list
    · exact (represents.freed .requestid ref).trans (released_alloc _).symm
    · exact represents.freed .connDevice ref

theorem newSubdevClient (represents : Represents world below nodes) (client : SubdevClient) :
    Represents { world with devices := world.devices.alloc client }
      { below with devices := below.devices ++ [client] } nodes where
  requests := represents.requests
  devices := objects_alloc represents.devices _
  formed := represents.formed
  values list := by cases list <;> exact represents.values _
  owned := represents.owned
  free := represents.free
  freed list ref := by
    cases list
    · exact represents.freed .requestid ref
    · exact (represents.freed .connDevice ref).trans (released_alloc _).symm

theorem modifyRequest (represents : Represents world below nodes) (node : Ref) (change : MsgParse → MsgParse) :
    Represents { world with requests := (world.requests.touch node).modify node change }
      { below with requests := below.requests.modify node change } nodes where
  requests := objects_modify represents.requests node change
  devices := represents.devices
  formed := represents.formed
  values list := by cases list <;> simpa [World.entries] using represents.values _
  owned := represents.owned
  free := represents.free
  freed list ref := by cases list <;> simpa [World.objects, World.live] using represents.freed _ ref

theorem modifyDevice (represents : Represents world below nodes) (client : Ref)
    (change : SubdevClient → SubdevClient) :
    Represents { world with devices := (world.devices.touch client).modify client change }
      { below with devices := below.devices.modify client change } nodes where
  requests := represents.requests
  devices := objects_modify represents.devices client change
  formed := represents.formed
  values list := by cases list <;> simpa [World.entries] using represents.values _
  owned := represents.owned
  free := represents.free
  freed list ref := by cases list <;> simpa [World.objects, World.live] using represents.freed _ ref

private theorem appended_requests (known : ref < world.requests.size) :
    Appended .requestid ref world { world with requests := world.requests.push ref } where
  requests := by funext other; simp
  devices := rfl
  entries := by funext list; cases list <;> simp [World.entries, Registry.push_entries known]
  objects := by funext list; cases list <;> simp [World.objects]
  live := by funext list; cases list <;> funext other <;> simp [World.live]

private theorem appended_devices (known : ref < world.devices.size) :
    Appended .connDevice ref world { world with devices := world.devices.push ref } where
  requests := rfl
  devices := by funext other; simp
  entries := by funext list; cases list <;> simp [World.entries, Registry.push_entries known]
  objects := by funext list; cases list <;> simp [World.objects]
  live := by funext list; cases list <;> funext other <;> simp [World.live]

theorem push (represents : Represents world below nodes) (fresh : Fresh place)
    (answered : handleBounded env (.push list ref) world = some ((), next)) :
    ∃ below' nodes', handleNodes place env (.push list ref) below = some ((), below') ∧
      Represents next below' nodes' := by
  have bounded : (world.entries list).length + 1 < 2 ^ 32 ∧
      respond env (.push list ref) world = some ((), next) := by
    simpa only [handleBounded, Option.ite_none_right_eq_some] using answered
  obtain ⟨room, answered⟩ := bounded
  cases list with
  | requestid =>
    obtain ⟨known, same⟩ := Option.ite_none_right_eq_some.mp answered
    cases same
    obtain ⟨below', placed, relates⟩ := represents.append fresh room (appended_requests known)
    refine ⟨below', _, ?_, relates⟩
    rw [handleNodes, objects_length represents.requests, if_pos known, placed, Option.map_some]
  | connDevice =>
    obtain ⟨known, same⟩ := Option.ite_none_right_eq_some.mp answered
    cases same
    obtain ⟨below', placed, relates⟩ := represents.append fresh room (appended_devices known)
    refine ⟨below', _, ?_, relates⟩
    rw [handleNodes, objects_length represents.devices, if_pos known, placed, Option.map_some]

theorem find (represents : Represents world below nodes) {key : list.Key} {reply : Option Ref}
    (answered : respond env (.find list key) world = some (reply, next)) :
    handleNodes place env (.find list key) below = some (reply, below) ∧ Represents next below nodes := by
  cases list with
  | requestid =>
    cases allocated : env.malloc (.listIterator .requestid) with
    | false =>
      simp only [respond, allocated, Bool.false_eq_true, ↓reduceIte] at answered
      cases answered
      refine ⟨?_, represents⟩
      rw [handleNodes, search_failed allocated]
      rfl
    | true =>
      simp only [respond, allocated, ↓reduceIte] at answered
      cases answered
      exact ⟨represents.find_requestid key allocated, represents.of_same (.touchRequests _)⟩
  | connDevice =>
    cases allocated : env.malloc (.listIterator .connDevice) with
    | false =>
      simp only [respond, allocated, Bool.false_eq_true, ↓reduceIte] at answered
      cases answered
      refine ⟨?_, represents⟩
      cases key with
      | none => simp [handleNodes, allocated]
      | some deviceSn =>
        rw [handleNodes, search_failed allocated]
        rfl
    | true =>
      simp only [respond, allocated, ↓reduceIte] at answered
      cases key with
      | none =>
        obtain ⟨empty, same⟩ := Option.ite_none_right_eq_some.mp answered
        cases same
        have none_listed : (below.lists .connDevice).len = 0 := represents.len_eq_zero.mpr empty
        exact ⟨by simp [handleNodes, none_listed], represents⟩
      | some deviceSn =>
        cases answered
        exact ⟨represents.find_deviceSn deviceSn allocated, represents.of_same (.touchDevices _)⟩

private theorem remove_missed {α : Type} {registry : Registry α} {test : α → Bool} {refs : List Ref}
    (missed : registry.find? test = none) :
    (registry.touchAll refs).remove test = registry.touchAll refs := by
  rw [Registry.remove, Registry.touchAll_find?, missed]

theorem remove (represents : Represents world below nodes) {reply : Bool}
    (answered : respond env (.remove list ref) world = some (reply, next)) :
    ∃ below' nodes', handleNodes place env (.remove list ref) below = some (reply, below') ∧
      Represents next below' nodes' := by
  cases list with
  | requestid =>
    obtain ⟨own, known, answered⟩ := Option.bind_eq_some_iff.mp answered
    have here : below.requests[ref]? = some own := (represents.requests ref).trans known
    simp only [handleNodes, here, Option.bind_eq_bind, Option.bind_some]
    cases allocated : env.malloc (.listIterator .requestid) with
    | false =>
      simp only [allocated, Bool.false_eq_true, ↓reduceIte] at answered
      cases answered
      exact ⟨below, nodes, extract_failed allocated, represents⟩
    | true =>
      simp only [allocated, ↓reduceIte] at answered
      have agrees : ∀ other ∈ world.entries .requestid, below.matchFn .requestid
          (RegistryList.requestid.pointer ref) (RegistryList.requestid.pointer other) =
            world.requests.matching (msgParseMatch own.requestId) other := by
        intro other _
        simp only [NodeWorld.matchFn, NodeWorld.requestId?, RegistryList.pointer, represents.requests,
          Registry.matching, known, Option.map_some, Option.bind_some]
        cases world.requests.value? other <;> rfl
      cases found : world.requests.find? (msgParseMatch own.requestId) with
      | none =>
        rw [extractFromList, found, remove_missed found] at answered
        cases answered
        exact ⟨below, nodes, extract_missed agrees represents allocated found,
          represents.of_same (.touchRequests _)⟩
      | some taken =>
        rw [extractFromList, found] at answered
        cases answered
        exact extract_found agrees represents allocated found (unlinked_requests found)
  | connDevice =>
    obtain ⟨own, known, answered⟩ := Option.bind_eq_some_iff.mp answered
    have here : below.devices[ref]? = some own := (represents.devices ref).trans known
    simp only [handleNodes, here, Option.bind_eq_bind, Option.bind_some]
    cases allocated : env.malloc (.listIterator .connDevice) with
    | false =>
      simp only [allocated, Bool.false_eq_true, ↓reduceIte] at answered
      cases answered
      exact ⟨below, nodes, extract_failed allocated, represents⟩
    | true =>
      simp only [allocated, ↓reduceIte] at answered
      have agrees : ∀ other ∈ world.entries .connDevice, below.matchFn .connDevice
          (RegistryList.connDevice.pointer ref) (RegistryList.connDevice.pointer other) =
            world.devices.matching (subdevClientMatch own.deviceSn) other := by
        intro other _
        simp only [NodeWorld.matchFn, NodeWorld.deviceSn?, RegistryList.pointer, represents.devices,
          Registry.matching, known, Option.map_some, Option.bind_some]
        cases world.devices.value? other <;> rfl
      cases found : world.devices.find? (subdevClientMatch own.deviceSn) with
      | none =>
        rw [extractFromList, found, remove_missed found] at answered
        cases answered
        exact ⟨below, nodes, extract_missed agrees represents allocated found,
          represents.of_same (.touchDevices _)⟩
      | some taken =>
        rw [extractFromList, found] at answered
        cases answered
        exact extract_found agrees represents allocated found (unlinked_devices found)

end Represents

/-- One request at the level of nodes is one above. -/
theorem handleBounded_refines (fresh : Fresh place) (env : Env) :
    Program.Refines (handleBounded env) (handleNodes place env) fun world below =>
      ∃ nodes, Represents world below nodes := by
  rintro request world reply next below ⟨nodes, represents⟩ answered
  cases request with
  | malloc | rand | publishString | flush | sleep | logWrite | setEdgeState | invoke | free =>
    cases answered
    exact ⟨below, rfl, nodes, represents⟩
  | newMsgParse requestId =>
    cases answered
    refine ⟨_, ?_, nodes, represents.newMsgParse requestId⟩
    rw [handleNodes, Represents.objects_length represents.requests]
  | newSubdevClient client =>
    cases answered
    refine ⟨_, ?_, nodes, represents.newSubdevClient client⟩
    rw [handleNodes, Represents.objects_length represents.devices]
  | push list node =>
    obtain ⟨below', nodes', answered', relates⟩ := represents.push fresh answered
    exact ⟨below', answered', nodes', relates⟩
  | find list key =>
    obtain ⟨answered', relates⟩ := represents.find answered
    exact ⟨below, answered', nodes, relates⟩
  | iterate list =>
    cases answered
    refine ⟨below, ?_, nodes, represents⟩
    rw [handleNodes, represents.collect_spec env list, Option.map_some]
  | remove list node =>
    obtain ⟨below', nodes', answered', relates⟩ := represents.remove answered
    exact ⟨below', answered', nodes', relates⟩
  | readPayload node look =>
    obtain ⟨own, known, same⟩ := Option.bind_eq_some_iff.mp answered
    cases same
    have here : below.requests[node]? = some own := (represents.requests node).trans known
    refine ⟨below, ?_, nodes, represents.of_same (.touchRequests [node])⟩
    simp [handleNodes, here]
  | writePayload node stores =>
    obtain ⟨own, known, answered⟩ := Option.bind_eq_some_iff.mp answered
    obtain ⟨inside, same⟩ := Option.ite_none_right_eq_some.mp answered
    cases same
    have here : below.requests[node]? = some own := (represents.requests node).trans known
    refine ⟨_, ?_, nodes, represents.modifyRequest node fun entry => entry.storeAll stores⟩
    simp only [handleNodes, here, Option.bind_eq_bind, Option.bind_some, if_pos inside]
  | readClient client =>
    obtain ⟨own, known, same⟩ := Option.bind_eq_some_iff.mp answered
    have here : below.devices[client]? = some own := (represents.devices client).trans known
    cases same
    refine ⟨below, ?_, nodes, represents.of_same (.touchDevices [client])⟩
    simp [handleNodes, here]
  | setOnline client online =>
    obtain ⟨own, known, same⟩ := Option.bind_eq_some_iff.mp answered
    cases same
    have here : below.devices[client]? = some own := (represents.devices client).trans known
    refine ⟨_, ?_, nodes, represents.modifyDevice client fun own => own.withOnline online⟩
    simp only [handleNodes, here, Option.bind_eq_bind, Option.bind_some]
  | fault => cases answered

/-- Whatever the operations and callbacks ask of the lists, in any order and with any outcomes,
linked lists of nodes in one heap answer the same, and end as the registries do: the same
objects in the same order, no other node left, and exactly the released objects freed. -/
theorem lists_refine_nodes (place : Heap Pointer → NodeRef) (fresh : Fresh place)
    (calls : List (Env × Program edge α)) (results : List α) (world : World)
    (ran : Program.runEach handleBounded calls .initial = some (results, world)) :
    ∃ below nodes, Program.runEach (handleNodes place) calls .initial = some (results, below) ∧
      Represents world below nodes := by
  obtain ⟨below, went, nodes, relates⟩ := Program.Refines.runEach (handleBounded_refines fresh) calls
    ⟨_, initial_represents⟩ ran
  exact ⟨below, nodes, went, relates⟩

/-- Some way to choose addresses is fresh. -/
theorem exists_fresh : ∃ place, Fresh place := by
  refine ⟨fun heap => Classical.epsilon fun node => heap.allocated node = false, ?_⟩
  rintro heap ⟨used, bound⟩
  obtain ⟨node, unused⟩ := Infinite.exists_notMem_finset used.toFinset
  have free : ∃ node, heap.allocated node = false :=
    ⟨node, Bool.eq_false_iff.mpr fun inside => unused (List.mem_toFinset.mpr (bound node inside))⟩
  exact Classical.epsilon_spec free

/-- A driver that understands a message for `d2`. -/
private def meetingConfig : DriverConfig :=
  { DriverConfig.plain with
    cJsonParse := fun text =>
      if text = ascii "hello" then
        some (.object [(.literal "topic", .string (.literal "/t")),
          (.literal "deviceSN", .string (.literal "d2")), (.literal "payload", .string (.literal "aGk="))])
      else none }

private def attends (deviceSn : CString) : Program edge Unit := do
  let client ← edgeSubdevConstruct (some (.literal "p1")) (some deviceSn) (some 1) none
  let _ ← edgeSubdevLoginAsync meetingConfig client

/-- Two clients log in, their status is sent, the second one gets a message, and the first one
logs out. -/
private def meeting : List (Env × Program edge Unit) :=
  [(.calm, attends (.literal "d1")), (.calm, attends (.literal "d2")), (.calm, handleStatusSync meetingConfig),
    (.calm, onLocalMessage meetingConfig ⟨.literal "edge.local.d1", ascii "hello"⟩),
    (.calm, do let _ ← edgeSubdevLogoutAsync meetingConfig (some 0))]

/-- The list is added to, gone through, searched and removed from, and the second client is left. -/
theorem lists_refine_nodes_meeting : ∃ place below, Program.runEach (handleNodes place) meeting .initial =
    some ([(), (), (), (), ()], below) ∧ (below.lists .connDevice).len.toNat = 1 := by
  obtain ⟨place, fresh⟩ := exists_fresh
  have reached : (Program.runEach handleBounded meeting .initial).map (fun run =>
      (run.1, run.2.devices.entries)) = some ([(), (), (), (), ()], [1]) := by decide +kernel
  obtain ⟨⟨results, world⟩, ran, same⟩ := Option.map_eq_some_iff.mp reached
  obtain ⟨rfl, listed⟩ := Prod.mk.inj same
  obtain ⟨below, nodes, went, represents⟩ := lists_refine_nodes place fresh _ _ _ ran
  refine ⟨place, below, went, ?_⟩
  rw [(represents.formed .connDevice).length, represents.length_eq]
  exact congrArg List.length listed

end IotstackDriver.Edge
