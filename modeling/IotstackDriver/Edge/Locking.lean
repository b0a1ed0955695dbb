import IotstackDriver.Edge.Calls
import IotstackDriver.Edge.StatusSync

/-! The locked sections: the list helpers of `common.c` and `_handle_status_sync`, with
the mutexes they lock and unlock and the list functions they call under them. -/

namespace IotstackDriver.Edge.Locking

open Libc Support Program

/-- What a search compares the entries with: the value of a search key, or the object to be
removed. -/
inductive Sought (list : RegistryList) where
  | key (key : list.Key)
  | node (node : Ref)

/-- A node of a list: where it is, and what it holds. -/
structure ListNode where
  position : Nat
  val : Option Ref

/-- The steps of a locked section. Each list has the mutex that goes with it. -/
inductive LockedRequest where
  | lock (list : RegistryList)
  | unlock (list : RegistryList)
  | content (list : RegistryList)
  | matchVal (list : RegistryList) (sought : Sought list) (val : Option Ref)
  | unlink (list : RegistryList) (position : Nat)
  | iteratorDestroy (list : RegistryList)
  | issue (request : Request)

abbrev LockedRequest.Reply : LockedRequest → Type
  | content _ => List (Option Ref)
  | matchVal _ _ _ => Bool
  | issue request => request.Reply
  | _ => Unit

@[reducible] def locked : Interface := ⟨LockedRequest, LockedRequest.Reply⟩

def mutexLock (list : RegistryList) : Program locked Unit := .call (.lock list) .done
def mutexUnlock (list : RegistryList) : Program locked Unit := .call (.unlock list) .done
def content (list : RegistryList) : Program locked (List (Option Ref)) := .call (.content list) .done
def matchVal (list : RegistryList) (sought : Sought list) (val : Option Ref) : Program locked Bool :=
  .call (.matchVal list sought val) .done
def unlink (list : RegistryList) (position : Nat) : Program locked Unit :=
  .call (.unlink list position) .done
def listIteratorDestroy (list : RegistryList) : Program locked Unit :=
  .call (.iteratorDestroy list) .done

/-- The steps that are not about a lock or a list are those of the driver. -/
def issued : Program edge α → Program locked α
  | .done value => .done value
  | .call request rest => .call (.issue request) fun reply => issued (rest reply)

def listIteratorNew (list : RegistryList) : Program locked Bool := issued (malloc (.listIterator list))

/-- The loop of `_list_find` over the nodes that are left. -/
def searchNodes (list : RegistryList) (sought : Sought list) :
    Nat → List (Option Ref) → Program locked (Option ListNode)
  | _, [] => return none
  | position, val :: rest => do
    if ← matchVal list sought val then return some ⟨position, val⟩
    searchNodes list sought (position + 1) rest

def listFind (list : RegistryList) (sought : Sought list) : Program locked (Option ListNode) := do
  if !(← listIteratorNew list) then return none
  let nodes ← content list
  let found ← searchNodes list sought 0 nodes
  listIteratorDestroy list
  return found

def addToList (list : RegistryList) (node : Ref) : Program locked EdgeStatus := do
  if !(← issued (malloc (.listNode list))) then return .err
  mutexLock list
  issued (push list node)
  mutexUnlock list
  return .ok

/-- The node goes out of the section with the value the search saw. The source's callers read
the value from the node once they have it, after the unlock. -/
def findInList (list : RegistryList) (key : list.Key) : Program locked (Option ListNode) := do
  mutexLock list
  let listNode ← listFind list (.key key)
  mutexUnlock list
  return listNode

def removeFromList (list : RegistryList) (node : Ref) : Program locked EdgeStatus := do
  mutexLock list
  match ← listFind list (.node node) with
  | none =>
    mutexUnlock list
    return .err
  | some listNode =>
    unlink list listNode.position
    mutexUnlock list
    return .ok

/-- The loop of `_handle_status_sync`. -/
def listDevices (deviceListMsg : Bytes) : List (Option Ref) → Program locked Bytes
  | [] => return deviceListMsg
  | none :: rest => do
    issued (logWrite .error "node's value is invalid!" [])
    listDevices deviceListMsg rest
  | some node :: rest => do
    let natsHandle ← issued (readClient node)
    let tmpMsg := natsHandle.info
    issued (logWrite .debug "tmp_msg:%s" [.str tmpMsg])
    let deviceListMsg :=
      if deviceListMsg.length = 0 then deviceListMsg ++ tmpMsg
      else deviceListMsg ++ ascii "," ++ tmpMsg
    if natsMsgMaxLen ≤ deviceListMsg.length then issued fault
    else
      issued (logWrite .debug "device_list_msg:%s" [.str deviceListMsg])
      listDevices deviceListMsg rest

/-- What follows the locked section. -/
def sendStatus (config : DriverConfig) (deviceListMsg : Bytes) : Program edge Unit := do
  let syncMsg :=
    snprintf natsMsgMaxLen statusSyncFormat [.str config.driverId.bytes, .str deviceListMsg]
  logWrite .debug "sync_msg:%s" [.str syncMsg]
  let status ← publishAndFlush edgeStateReqSubject syncMsg
  if status ≠ .ok then
    logWrite .error "publish sync msg fail!" []

def handleStatusSync (config : DriverConfig) : Program locked Unit := do
  if !(← issued (malloc (.buffer .deviceListMsg))) then
    issued (logWrite .error "device_list_msg malloc fail!" [])
    return
  if !(← issued (malloc (.buffer .tmpMsg))) then
    issued (logWrite .error "tmp_msg malloc fail!" [])
    issued (free (.buffer .deviceListMsg))
    return
  if !(← issued (malloc (.buffer .syncMsg))) then
    issued (logWrite .error "sync_msg malloc fail!" [])
    issued (free (.buffer .deviceListMsg))
    issued (free (.buffer .tmpMsg))
    return
  mutexLock .connDevice
  let nodes ← content .connDevice
  if nodes.length ≠ 0 then
    -- this return leaves the mutex locked
    if !(← listIteratorNew .connDevice) then return
    let deviceListMsg ← listDevices [] nodes.reverse
    listIteratorDestroy .connDevice
    mutexUnlock .connDevice
    issued (sendStatus config deviceListMsg)
  else
    mutexUnlock .connDevice
    issued (sendStatus config [])

theorem issued_bind (program : Program edge α) (next : α → Program edge β) :
    issued (program >>= next) = issued program >>= fun value => issued (next value) := by
  induction program with
  | done value => rfl
  | call request rest ih => exact congrArg (Program.call (I := locked) (.issue request)) (funext ih)

theorem issued_ite {condition : Prop} [Decidable condition] (left right : Program edge α) :
    issued (if condition then left else right) = if condition then issued left else issued right := by
  split <;> rfl

theorem listDevices_some (deviceListMsg : Bytes) (node : Ref) (rest : List (Option Ref)) :
    listDevices deviceListMsg (some node :: rest) = (do
      let natsHandle ← issued (readClient node)
      issued (logWrite .debug "tmp_msg:%s" [.str natsHandle.info])
      if natsMsgMaxLen ≤ (appended deviceListMsg natsHandle).length then issued fault
      else
        issued (logWrite .debug "device_list_msg:%s" [.str (appended deviceListMsg natsHandle)])
        listDevices (appended deviceListMsg natsHandle) rest) := rfl

theorem listDevices_issued (refs : List Ref) (deviceListMsg : Bytes) :
    listDevices deviceListMsg (refs.map some) = issued (Edge.listDevices deviceListMsg refs) := by
  induction refs generalizing deviceListMsg with
  | nil => rfl
  | cons node rest ih =>
    rw [List.map_cons, listDevices_some, listDevices_cons, issued_bind]
    congr 1
    funext own
    simp only [issued_bind, issued_ite, ih]

/-- What the allocations and the lists turn out to be. -/
structure Outcomes where
  malloc : AllocSite → Bool
  content : RegistryList → List (Option Ref)

/-- The effect of a step on the locks a thread holds, and what is fixed of its reply. -/
def lockStep (outcomes : Outcomes) (held : RegistryList → Nat) :
    (request : LockedRequest) → request.Reply → (RegistryList → Nat) → Prop
  | .lock list, _, next => next = Function.update held list (held list + 1)
  | .unlock list, _, next => next = Function.update held list (held list - 1)
  | .content list, nodes, next => nodes = outcomes.content list ∧ next = held
  | .issue (.malloc site), allocated, next => allocated = outcomes.malloc site ∧ next = held
  | _, _, next => next = held

/-- A thread unlocks only what it has locked. -/
def lockProtocol (outcomes : Outcomes) : Protocol locked (RegistryList → Nat) where
  allowed held
    | .unlock list => 0 < held list
    | _ => True
  step := lockStep outcomes

/-- On every path, each mutex is unlocked as often as it was locked. -/
def Balanced (outcomes : Outcomes) (program : Program locked α) : Prop :=
  ∀ held, Meets (lockProtocol outcomes) program (fun _ after => after = held) held

variable {outcomes : Outcomes} {held : RegistryList → Nat} {list : RegistryList}

section Steps

@[simp] theorem meets_mutexLock {post : Unit → (RegistryList → Nat) → Prop} :
    Meets (lockProtocol outcomes) (mutexLock list) post held ↔
      post () (Function.update held list (held list + 1)) := by
  constructor
  · exact fun meets => meets.2 () _ rfl
  · rintro met
    exact ⟨trivial, by rintro ⟨⟩ next rfl; exact met⟩

@[simp] theorem meets_mutexUnlock {post : Unit → (RegistryList → Nat) → Prop} :
    Meets (lockProtocol outcomes) (mutexUnlock list) post held ↔
      0 < held list ∧ post () (Function.update held list (held list - 1)) := by
  constructor
  · exact fun meets => ⟨meets.1, meets.2 () _ rfl⟩
  · rintro ⟨locked, met⟩
    exact ⟨locked, by rintro ⟨⟩ next rfl; exact met⟩

@[simp] theorem meets_content {post : List (Option Ref) → (RegistryList → Nat) → Prop} :
    Meets (lockProtocol outcomes) (content list) post held ↔ post (outcomes.content list) held := by
  constructor
  · exact fun meets => meets.2 _ _ ⟨rfl, rfl⟩
  · intro met
    exact ⟨trivial, by rintro nodes next ⟨rfl, rfl⟩; exact met⟩

@[simp] theorem meets_malloc {site : AllocSite} {post : Bool → (RegistryList → Nat) → Prop} :
    Meets (lockProtocol outcomes) (issued (malloc site)) post held ↔ post (outcomes.malloc site) held := by
  constructor
  · exact fun meets => meets.2 _ _ ⟨rfl, rfl⟩
  · intro met
    exact ⟨trivial, by rintro allocated next ⟨rfl, rfl⟩; exact met⟩

theorem meets_matchVal {sought : Sought list} {val : Option Ref}
    {post : Bool → (RegistryList → Nat) → Prop} (continues : ∀ same, post same held) :
    Meets (lockProtocol outcomes) (matchVal list sought val) post held :=
  ⟨trivial, by rintro same next rfl; exact continues same⟩

@[simp] theorem meets_unlink {position : Nat} {post : Unit → (RegistryList → Nat) → Prop} :
    Meets (lockProtocol outcomes) (unlink list position) post held ↔ post () held :=
  meets_silent trivial (fun _ _ => Iff.rfl) fun _ => rfl

@[simp] theorem meets_iteratorDestroy {post : Unit → (RegistryList → Nat) → Prop} :
    Meets (lockProtocol outcomes) (listIteratorDestroy list) post held ↔ post () held :=
  meets_silent trivial (fun _ _ => Iff.rfl) fun _ => rfl

/-- The steps of the driver take no lock. -/
theorem meets_issued {program : Program edge α} {post : α → (RegistryList → Nat) → Prop}
    (continues : ∀ value, post value held) :
    Meets (lockProtocol outcomes) (issued program) post held := by
  induction program with
  | done value => exact continues value
  | call request rest ih =>
    refine ⟨trivial, fun reply next stepped => ?_⟩
    have same : next = held := by
      cases request
      case malloc site => exact stepped.2
      all_goals exact stepped
    rw [same]
    exact ih reply

@[simp] theorem meets_ite {condition : Prop} [Decidable condition] {left right : Program locked α}
    {post : α → (RegistryList → Nat) → Prop} :
    Meets (lockProtocol outcomes) (if condition then left else right) post held ↔
      if condition then Meets (lockProtocol outcomes) left post held
      else Meets (lockProtocol outcomes) right post held := by
  split <;> rfl

@[simp] theorem meets_pure {value : α} {post : α → (RegistryList → Nat) → Prop} :
    Meets (lockProtocol outcomes) (pure value) post held ↔ post value held := Iff.rfl

end Steps

section Helpers

private theorem meets_searchNodes {sought : Sought list} {nodes : List (Option Ref)} {position : Nat}
    {post : Option ListNode → (RegistryList → Nat) → Prop} (continues : ∀ found, post found held) :
    Meets (lockProtocol outcomes) (searchNodes list sought position nodes) post held := by
  induction nodes generalizing position with
  | nil => exact continues none
  | cons val rest ih =>
    rw [searchNodes, meets_bind]
    refine meets_matchVal fun same => ?_
    cases same
    · exact ih
    · exact continues _

/-- A search takes no lock, whether it gets its iterator or not. -/
theorem meets_listFind {sought : Sought list}
    {post : Option ListNode → (RegistryList → Nat) → Prop} (continues : ∀ found, post found held) :
    Meets (lockProtocol outcomes) (listFind list sought) post held := by
  rw [listFind, meets_bind, listIteratorNew, meets_malloc]
  cases outcomes.malloc (.listIterator list) with
  | false => exact continues none
  | true =>
    simp only [Bool.not_true, Bool.false_eq_true, if_false, meets_bind, meets_content]
    refine meets_searchNodes fun found => ?_
    rw [meets_iteratorDestroy]
    exact continues found

private theorem lock_unlock (held : RegistryList → Nat) (list : RegistryList) :
    0 < Function.update held list (held list + 1) list ∧
      Function.update (Function.update held list (held list + 1)) list
        (Function.update held list (held list + 1) list - 1) = held := by
  simp

theorem addToList_balanced (outcomes : Outcomes) (list : RegistryList) (node : Ref) :
    Balanced outcomes (addToList list node) := by
  intro held
  rw [addToList, meets_bind, meets_malloc]
  cases outcomes.malloc (.listNode list) with
  | false => rfl
  | true =>
    simp only [Bool.not_true, Bool.false_eq_true, if_false, meets_bind, meets_mutexLock]
    refine meets_issued fun _ => ?_
    rw [meets_mutexUnlock]
    exact lock_unlock held list

theorem findInList_balanced (outcomes : Outcomes) (list : RegistryList) (key : list.Key) :
    Balanced outcomes (findInList list key) := by
  intro held
  rw [findInList, meets_bind, meets_mutexLock, meets_bind]
  refine meets_listFind fun found => ?_
  rw [meets_bind, meets_mutexUnlock]
  exact lock_unlock held list

theorem removeFromList_balanced (outcomes : Outcomes) (list : RegistryList) (node : Ref) :
    Balanced outcomes (removeFromList list node) := by
  intro held
  rw [removeFromList, meets_bind, meets_mutexLock, meets_bind]
  refine meets_listFind fun found => ?_
  cases found with
  | none =>
    rw [meets_bind, meets_mutexUnlock]
    exact lock_unlock held list
  | some listNode =>
    simp only [meets_bind, meets_unlink, meets_mutexUnlock]
    exact lock_unlock held list

end Helpers

section Status

private theorem meets_listDevices {nodes : List (Option Ref)} {deviceListMsg : Bytes}
    {post : Bytes → (RegistryList → Nat) → Prop} (continues : ∀ text, post text held) :
    Meets (lockProtocol outcomes) (listDevices deviceListMsg nodes) post held := by
  induction nodes generalizing deviceListMsg with
  | nil => exact continues _
  | cons val rest ih =>
    cases val with
    | none =>
      rw [listDevices, meets_bind]
      exact meets_issued fun _ => ih
    | some node =>
      simp only [listDevices_some, meets_bind]
      refine meets_issued fun own => meets_issued fun _ => ?_
      split
      · exact meets_issued continues
      · exact (meets_bind ..).mpr (meets_issued fun _ => ih)

/-- The locked section is entered, and there are clients to list, but no iterator. -/
def Outcomes.stranded (outcomes : Outcomes) : Prop :=
  outcomes.malloc (.buffer .deviceListMsg) = true ∧ outcomes.malloc (.buffer .tmpMsg) = true ∧
    outcomes.malloc (.buffer .syncMsg) = true ∧ outcomes.content .connDevice ≠ [] ∧
    outcomes.malloc (.listIterator .connDevice) = false

/-- The status message is sent, or given up, with the mutex unlocked, unless the iterator
over the clients cannot be had. -/
theorem handleStatusSync_balanced_iff (config : DriverConfig) :
    Balanced outcomes (handleStatusSync config) ↔ ¬ outcomes.stranded := by
  unfold Balanced handleStatusSync Outcomes.stranded
  simp only [meets_bind, meets_malloc]
  cases first : outcomes.malloc (.buffer .deviceListMsg) with
  | false =>
    refine iff_of_true (fun held => ?_) (by simp)
    simp only [Bool.not_false, if_true, meets_bind]
    exact meets_issued fun _ => rfl
  | true =>
    cases second : outcomes.malloc (.buffer .tmpMsg) with
    | false =>
      refine iff_of_true (fun held => ?_) (by simp)
      simp only [Bool.not_false, Bool.not_true, Bool.false_eq_true, if_false, if_true, meets_bind, meets_malloc,
        second]
      exact meets_issued fun _ => meets_issued fun _ => rfl
    | true =>
      cases third : outcomes.malloc (.buffer .syncMsg) with
      | false =>
        refine iff_of_true (fun held => ?_) (by simp)
        simp only [Bool.not_false, Bool.not_true, Bool.false_eq_true, if_false, if_true, meets_bind,
          meets_malloc, second, third]
        exact meets_issued fun _ => meets_issued fun _ => meets_issued fun _ => rfl
      | true =>
        simp only [Bool.not_true, Bool.false_eq_true, if_false, meets_bind, meets_malloc, second,
          third, meets_mutexLock, meets_content, meets_ite, meets_mutexUnlock, listIteratorNew]
        cases nodes : outcomes.content .connDevice with
        | nil =>
          refine iff_of_true (fun held => ?_) (by simp)
          rw [if_neg (by simp)]
          refine ⟨(lock_unlock held _).1, ?_⟩
          rw [(lock_unlock held _).2]
          exact meets_issued fun _ => rfl
        | cons val rest =>
          cases iterates : outcomes.malloc (.listIterator .connDevice) with
          | false =>
            refine iff_of_false (fun balanced => ?_) (by simp)
            have stays := balanced fun _ => 0
            rw [if_pos (by simp), if_pos (by decide), meets_pure, Function.update_eq_self_iff] at stays
            cases stays
          | true =>
            refine iff_of_true (fun held => ?_) (by simp)
            rw [if_pos (by simp), if_neg (by simp)]
            refine meets_listDevices fun text => ?_
            rw [meets_iteratorDestroy]
            refine ⟨(lock_unlock held _).1, ?_⟩
            rw [(lock_unlock held _).2]
            exact meets_issued fun _ => rfl

end Status

/-- Of the functions that lock a list, only the status message can keep it locked, and it
does exactly where it has its buffers, lists clients and cannot get the iterator. -/
theorem locks_balanced_iff (config : DriverConfig) (outcomes : Outcomes) :
    (∀ list node, Balanced outcomes (addToList list node)) ∧
      (∀ list key, Balanced outcomes (findInList list key)) ∧
      (∀ list node, Balanced outcomes (removeFromList list node)) ∧
      (Balanced outcomes (handleStatusSync config) ↔ ¬ outcomes.stranded) :=
  ⟨addToList_balanced outcomes, findInList_balanced outcomes, removeFromList_balanced outcomes,
    handleStatusSync_balanced_iff config⟩

/-- With one client listed and no iterator to be had, the registry stays locked. -/
theorem statusSync_keeps_lock : ¬ ∀ config outcomes,
    (∀ list node, Balanced outcomes (addToList list node)) ∧
      (∀ list key, Balanced outcomes (findInList list key)) ∧
      (∀ list node, Balanced outcomes (removeFromList list node)) ∧
      Balanced outcomes (handleStatusSync config) := by
  intro always
  have balanced := (always .plain
    { malloc := fun site => site != .listIterator .connDevice
      content := fun _ => [some 0] }).2.2.2
  exact (handleStatusSync_balanced_iff .plain).mp balanced
    ⟨by decide, by decide, by decide, by decide, by decide⟩

end IotstackDriver.Edge.Locking
