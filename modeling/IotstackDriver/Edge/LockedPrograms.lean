import IotstackDriver.Support.Simulation
import IotstackDriver.Edge.WorldContent
import IotstackDriver.Edge.LockedSections
import IotstackDriver.Edge.LoginDelivery
import IotstackDriver.Edge.RequestIds

/-! The driver's programs with their locks: each request on a list as the locked section of
`common.c` that it stands for, and what the search in such a section comes to. -/

namespace IotstackDriver.Edge.Locking

open Libc Support Program

/-! ## The programs with their locks -/

/-- The single request a search is part of. -/
def asked {list : RegistryList} : Sought list → Request
  | .key key => .find list key
  | .node node => .remove list node

/-- What follows the search in its locked section. `_find_in_list` gives the node, and its callers
read `node_tmp->val` after the unlock; here `val` is read before it, so that a thread that removes
the node in between does not stand between the search and the read. -/
def conclude (list : RegistryList) : (sought : Sought list) → Option ListNode →
    Program locked (asked sought).Reply
  | .key _, found => do
    mutexUnlock list
    return found.bind ListNode.val
  | .node _, none => do
    mutexUnlock list
    return false
  | .node _, some listNode => do
    unlink list listNode.position
    mutexUnlock list
    return true

/-- The locked section a request of the driver stands for. -/
def lockedBody : (request : Request) → Program locked request.Reply
  | .push list node => do
    mutexLock list
    issued (push list node)
    mutexUnlock list
  | .find list key => do
    mutexLock list
    conclude list (.key key) (← listFind list (.key key))
  | .remove list node => do
    mutexLock list
    conclude list (.node node) (← listFind list (.node node))
  | request => .call (.issue request) .done

def withLocks (program : Program edge α) : Program locked α := program.expand lockedBody

theorem withLocks_bind (program : Program edge α) (next : α → Program edge β) :
    withLocks (program >>= next) = withLocks program >>= fun value => withLocks (next value) :=
  expand_bind program next

theorem withLocks_addToList (list : RegistryList) (node : Ref) :
    withLocks (Edge.addToList list node) = addToList list node := by
  have steps (allocated : Bool) : withLocks (α := EdgeStatus)
      (if !allocated then return .err else do push list node; return .ok) =
        if !allocated then return .err else do
          mutexLock list
          issued (push list node)
          mutexUnlock list
          return .ok := by
    cases allocated <;> rfl
  exact congrArg (Program.call (I := locked) (.issue (.malloc (.listNode list)))) (funext steps)

theorem withLocks_call (request : Request) (rest : request.Reply → Program edge α) :
    withLocks (.call request rest) = lockedBody request >>= fun reply => withLocks (rest reply) := rfl

/-- The driver's searches and removals, section by section, are those of `common.c`. -/
theorem withLocks_findInList (list : RegistryList) (key : list.Key) :
    withLocks (Edge.findInList list key) =
      findInList list key >>= fun listNode => pure (listNode.bind ListNode.val) := by
  have left : withLocks (Edge.findInList list key) = mutexLock list >>= fun _ =>
      listFind list (.key key) >>= fun found => conclude list (.key key) found := by
    rw [Edge.findInList, find, withLocks_call]
    exact bind_done _
  rw [left]
  simp only [findInList, bind_bind]
  rfl

theorem withLocks_removeFromList (list : RegistryList) (node : Ref) :
    withLocks (Edge.removeFromList list node) = removeFromList list node := by
  have left : withLocks (Edge.removeFromList list node) = mutexLock list >>= (fun _ =>
      listFind list (.node node) >>= fun found => (conclude list (.node node) found : Program locked Bool)) >>=
      fun (found : Bool) => if found then pure .ok else pure .err := by
    rw [Edge.removeFromList, withLocks_bind, remove, withLocks_call]
    have whole : (lockedBody (.remove list node) >>= fun reply => withLocks (.done reply)) =
      lockedBody (.remove list node) := bind_done _
    rw [whole]
    congr 1
    funext found
    cases found <;> rfl
  rw [left, removeFromList]
  refine (bind_bind _ _ _).trans ?_
  congr 1
  funext _
  refine (bind_bind _ _ _).trans ?_
  congr 1
  funext found
  cases found <;> rfl

/-! ## The sections in parts -/

variable {env : Env} {world after : World} {list : RegistryList}

/-- The search that is left, and the end of its iterator. -/
def searchFrom (list : RegistryList) (sought : Sought list) (position : Nat)
    (nodes : List (Option Ref)) : Program locked (Option ListNode) := do
  let found ← searchNodes list sought position nodes
  listIteratorDestroy list
  return found

theorem listFind_eq (sought : Sought list) : listFind list sought =
    listIteratorNew list >>= fun allocated =>
      if allocated then content list >>= searchFrom list sought 0 else pure none := by
  rw [listFind]
  congr 1
  funext allocated
  cases allocated <;> rfl

/-- The buffers of `_handle_status_sync`. -/
def statusBuffers : Program edge Bool := do
  if !(← malloc (.buffer .deviceListMsg)) then
    logWrite .error "device_list_msg malloc fail!" []
    return false
  if !(← malloc (.buffer .tmpMsg)) then
    logWrite .error "tmp_msg malloc fail!" []
    free (.buffer .deviceListMsg)
    return false
  if !(← malloc (.buffer .syncMsg)) then
    logWrite .error "sync_msg malloc fail!" []
    free (.buffer .deviceListMsg)
    free (.buffer .tmpMsg)
    return false
  return true

/-- Its locked section once the nodes are counted. -/
def statusNodes (config : DriverConfig) (nodes : List (Option Ref)) : Program locked Unit := do
  if nodes.length ≠ 0 then
    if !(← listIteratorNew .connDevice) then return
    let deviceListMsg ← listDevices [] nodes.reverse
    listIteratorDestroy .connDevice
    mutexUnlock .connDevice
    issued (sendStatus config deviceListMsg)
  else
    mutexUnlock .connDevice
    issued (sendStatus config [])

def statusSection (config : DriverConfig) : Program locked Unit := do
  mutexLock .connDevice
  let nodes ← content .connDevice
  statusNodes config nodes

/-- The same with the list as a single request. -/
def statusCollect (config : DriverConfig) : Program edge Unit := do
  match ← iterate .connDevice with
  | none => return
  | some nodes =>
    let deviceListMsg ← Edge.listDevices [] nodes
    sendStatus config deviceListMsg

theorem handleStatusSync_eq (config : DriverConfig) : handleStatusSync config =
    issued statusBuffers >>= fun ready => if ready then statusSection config else pure () := by
  refine congrArg (Program.call (I := locked) _) (funext fun first => ?_)
  cases first
  · rfl
  · refine congrArg (Program.call (I := locked) _) (funext fun second => ?_)
    cases second
    · rfl
    · refine congrArg (Program.call (I := locked) _) (funext fun third => ?_)
      cases third <;> rfl

theorem collected_eq (config : DriverConfig) : Edge.handleStatusSync config =
    statusBuffers >>= fun ready => if ready then statusCollect config else pure () := by
  refine congrArg (Program.call (I := edge) _) (funext fun first => ?_)
  cases first
  · rfl
  · refine congrArg (Program.call (I := edge) _) (funext fun second => ?_)
    cases second
    · rfl
    · refine congrArg (Program.call (I := edge) _) (funext fun third => ?_)
      cases third <;> rfl

/-! ## Searches -/

/-- What a call of the match callback answers. -/
def answer (world : World) (sought : Sought list) (entry : Ref) : Option Bool :=
  (callMatch world list sought (some entry)).map Prod.fst

/-- The result a search in a locked section comes to. -/
inductive Settled (env : Env) (world : World) (sought : Sought list) : Option ListNode → Prop
  | refused (refused : env.malloc (.listIterator list) = false) : Settled env world sought none
  | missing (iterates : env.malloc (.listIterator list) = true)
      (passed : ∀ entry ∈ world.entries list, answer world sought entry = some false) :
      Settled env world sought none
  | found {done todo : List Ref} {entry : Ref} (iterates : env.malloc (.listIterator list) = true)
      (entries : world.entries list = done ++ entry :: todo)
      (passed : ∀ entry ∈ done, answer world sought entry = some false)
      (hit : answer world sought entry = some true) :
      Settled env world sought (some ⟨done.length, some entry⟩)

/-- Nothing of what the searches compare changes. -/
structure Keeps (before after : World) : Prop where
  requests : ∀ node own, before.requests.value? node = some own →
    ∃ own', after.requests.value? node = some own' ∧ own'.requestId = own.requestId
  devices : ∀ node own, before.devices.value? node = some own →
    ∃ own', after.devices.value? node = some own' ∧ own'.deviceSn = own.deviceSn

/-- The id that is looked for. -/
def idSought (world : World) : Sought .requestid → Option UInt32
  | .key requestId => some requestId
  | .node node => (world.requests.value? node).map MsgParse.requestId

/-- The serial number that is looked for. -/
def snSought (world : World) : Sought .connDevice → Option CString
  | .key deviceSn => deviceSn
  | .node node => (world.devices.value? node).map SubdevClient.deviceSn

theorem answer_requests (world : World) (sought : Sought .requestid) (entry : Ref) :
    answer world sought entry = (idSought world sought).bind fun requestId =>
      (world.requests.value? entry).map (msgParseMatch requestId) := by
  cases sought with
  | key requestId => cases found : world.requests.value? entry <;> simp [answer, callMatch, idSought, found]
  | node node =>
    cases given : world.requests.value? node <;> cases found : world.requests.value? entry <;>
      simp [answer, callMatch, idSought, given, found]

theorem answer_devices (world : World) (sought : Sought .connDevice) (entry : Ref) :
    answer world sought entry = (snSought world sought).bind fun deviceSn =>
      (world.devices.value? entry).map (subdevClientMatch deviceSn) := by
  cases sought with
  | key deviceSn =>
    cases deviceSn <;> cases found : world.devices.value? entry <;>
      simp [answer, callMatch, snSought, found]
  | node node =>
    cases given : world.devices.value? node <;> cases found : world.devices.value? entry <;>
      simp [answer, callMatch, snSought, given, found]

theorem Keeps.answer (keeps : Keeps world after) {sought : Sought list} {entry : Ref} {same : Bool}
    (answered : answer world sought entry = some same) : answer after sought entry = some same := by
  cases list with
  | requestid =>
    rw [answer_requests, Option.bind_eq_some_iff] at answered ⊢
    obtain ⟨requestId, wanted, compared⟩ := answered
    obtain ⟨own, found, matched⟩ := Option.map_eq_some_iff.mp compared
    obtain ⟨own', found', id⟩ := keeps.requests entry own found
    refine ⟨requestId, ?_, by rw [found', Option.map_some, ← matched, msgParseMatch, id, msgParseMatch]⟩
    cases sought with
    | key => exact wanted
    | node node =>
      obtain ⟨given, there, named⟩ := Option.map_eq_some_iff.mp wanted
      obtain ⟨given', there', id'⟩ := keeps.requests node given there
      rw [idSought, there', Option.map_some, id', named]
  | connDevice =>
    rw [answer_devices, Option.bind_eq_some_iff] at answered ⊢
    obtain ⟨deviceSn, wanted, compared⟩ := answered
    obtain ⟨own, found, matched⟩ := Option.map_eq_some_iff.mp compared
    obtain ⟨own', found', sn⟩ := keeps.devices entry own found
    refine ⟨deviceSn, ?_, by
      rw [found', Option.map_some, ← matched, subdevClientMatch, sn, subdevClientMatch]⟩
    cases sought with
    | key => exact wanted
    | node node =>
      obtain ⟨given, there, named⟩ := Option.map_eq_some_iff.mp wanted
      obtain ⟨given', there', sn'⟩ := keeps.devices node given there
      rw [snSought, there', Option.map_some, sn', named]

theorem Settled.later {sought : Sought list} {found : Option ListNode}
    (settled : Settled env world sought found) (keeps : Keeps world after)
    (same : after.entries list = world.entries list) : Settled env after sought found := by
  cases settled with
  | refused refused => exact .refused refused
  | missing iterates passed =>
    refine .missing iterates fun entry member => ?_
    rw [same] at member
    exact keeps.answer (passed entry member)
  | found iterates entries passed hit =>
    exact .found iterates (same.trans entries) (fun entry member => keeps.answer (passed entry member))
      (keeps.answer hit)

section Registries

variable {α : Type} {registry : Registry α} {test : α → Bool} {done todo : List Ref} {entry : Ref}

private theorem find?_found (entries : registry.entries = done ++ entry :: todo)
    (passed : ∀ other ∈ done, registry.matching test other = false)
    (hit : registry.matching test entry = true) : registry.find? test = some entry :=
  Registry.find?_eq_some_iff.mpr ⟨hit, done, todo, entries, passed⟩

private theorem find?_missing (passed : ∀ other ∈ registry.entries, registry.matching test other = false) :
    registry.find? test = none :=
  List.find?_eq_none.mpr fun other member => by simp [passed other member]

private theorem unlinkAt_length (entries : registry.entries = done ++ entry :: todo)
    (passed : ∀ other ∈ done, registry.matching test other = false)
    (hit : registry.matching test entry = true) :
    unlinkAt registry done.length = registry.remove test := by
  have index : registry.entries.findIdx (registry.matching test) = done.length := by
    rw [entries, List.findIdx_append, List.findIdx_eq_length.mpr passed, if_neg (Nat.lt_irrefl _),
      List.findIdx_cons, hit, cond_true, Nat.zero_add]
  rw [← index, unlinkAt_found (find?_found entries passed hit)]

end Registries

private theorem matching_requests {sought : Sought .requestid} {entry : Ref} {same : Bool}
    {requestId : UInt32} (wanted : idSought world sought = some requestId)
    (answered : answer world sought entry = some same) :
    world.requests.matching (msgParseMatch requestId) entry = same := by
  rw [answer_requests, wanted, Option.bind_some] at answered
  obtain ⟨own, found, matched⟩ := Option.map_eq_some_iff.mp answered
  rw [Registry.matching_of_value? found, matched]

private theorem matching_devices {sought : Sought .connDevice} {entry : Ref} {same : Bool}
    {deviceSn : CString} (wanted : snSought world sought = some deviceSn)
    (answered : answer world sought entry = some same) :
    world.devices.matching (subdevClientMatch deviceSn) entry = same := by
  rw [answer_devices, wanted, Option.bind_some] at answered
  obtain ⟨own, found, matched⟩ := Option.map_eq_some_iff.mp answered
  rw [Registry.matching_of_value? found, matched]

/-- A search that came to its result is the single request's. -/
theorem Settled.find {key : list.Key} {found : Option ListNode}
    (settled : Settled env world (.key key : Sought list) found) : ∃ after,
    respond env (.find list key) world = some (found.bind ListNode.val, after) ∧
      SameWorld world after := by
  cases list with
  | requestid =>
    have wanted : idSought world (.key key) = some key := rfl
    have searched (result : Option Ref) (iterates : env.malloc (.listIterator .requestid) = true)
        (same : world.requests.find? (msgParseMatch key) = result) :
        ∃ after, respond env (.find .requestid key) world = some (result, after) ∧
          SameWorld world after :=
      ⟨{ world with requests := (searchList world.requests (msgParseMatch key)).2 },
        by simp only [respond, iterates, searchList, same, if_true], .touchAll _, .refl _⟩
    cases settled with
    | refused refused => exact ⟨world, by simp [respond, refused], .refl _⟩
    | missing iterates passed =>
      exact searched none iterates (find?_missing fun other member =>
        matching_requests wanted (passed other member))
    | found iterates entries passed hit =>
      exact searched _ iterates (find?_found entries
        (fun other member => matching_requests wanted (passed other member)) (matching_requests wanted hit))
  | connDevice =>
    cases key with
    | none =>
      have silent (entry : Ref) : answer world (.key none : Sought .connDevice) entry = none := by
        rw [answer_devices]
        rfl
      cases settled with
      | refused refused => exact ⟨world, by simp [respond, refused], .refl _⟩
      | missing iterates passed =>
        have empty : world.devices.entries = [] := by
          refine List.eq_nil_iff_forall_not_mem.mpr fun entry member => ?_
          cases (silent entry).symm.trans (passed entry member)
        exact ⟨world, by simp [respond, iterates, empty], .refl _⟩
      | found _ _ _ hit => cases (silent _).symm.trans hit
    | some deviceSn =>
      have wanted : snSought world (.key (some deviceSn)) = some deviceSn := rfl
      have searched (result : Option Ref) (iterates : env.malloc (.listIterator .connDevice) = true)
          (same : world.devices.find? (subdevClientMatch deviceSn) = result) :
          ∃ after, respond env (.find .connDevice (some deviceSn)) world = some (result, after) ∧
            SameWorld world after :=
        ⟨{ world with devices := (searchList world.devices (subdevClientMatch deviceSn)).2 },
          by simp only [respond, iterates, searchList, same, if_true], .refl _, .touchAll _⟩
      cases settled with
      | refused refused => exact ⟨world, by simp [respond, refused], .refl _⟩
      | missing iterates passed =>
        exact searched none iterates (find?_missing fun other member =>
          matching_devices wanted (passed other member))
      | found iterates entries passed hit =>
        exact searched _ iterates (find?_found entries
          (fun other member => matching_devices wanted (passed other member)) (matching_devices wanted hit))

def sizes (world : World) : RegistryList → Nat
  | .requestid => world.requests.size
  | .connDevice => world.devices.size

/-- Nothing is removed where the search found nothing. -/
theorem Settled.keep {node : Ref} (settled : Settled env world (.node node : Sought list) none)
    (present : node < sizes world list) : ∃ after,
    respond env (.remove list node) world = some (false, after) ∧ SameWorld world after := by
  cases list with
  | requestid =>
    obtain ⟨own, found⟩ := Option.isSome_iff_exists.mp (Registry.value?_isSome.mpr present)
    have wanted : idSought world (.node node) = some own.requestId := by rw [idSought, found]; rfl
    cases settled with
    | refused refused => exact ⟨world, by simp [respond, found, refused], .refl _⟩
    | missing iterates passed =>
      have missing := find?_missing fun other member => matching_requests wanted (passed other member)
      refine ⟨{ world with
        requests := (extractFromList world.requests node (msgParseMatch own.requestId)).2 },
        by simp [respond, found, iterates, extractFromList, missing], ?_, .refl _⟩
      rw [extractFromList, Registry.remove, Registry.touchAll_find?, missing]
      exact .touchAll _
  | connDevice =>
    obtain ⟨own, found⟩ := Option.isSome_iff_exists.mp (Registry.value?_isSome.mpr present)
    have wanted : snSought world (.node node) = some own.deviceSn := by rw [snSought, found]; rfl
    cases settled with
    | refused refused => exact ⟨world, by simp [respond, found, refused], .refl _⟩
    | missing iterates passed =>
      have missing := find?_missing fun other member => matching_devices wanted (passed other member)
      refine ⟨{ world with
        devices := (extractFromList world.devices node (subdevClientMatch own.deviceSn)).2 },
        by simp [respond, found, iterates, extractFromList, missing], .refl _, ?_⟩
      rw [extractFromList, Registry.remove, Registry.touchAll_find?, missing]
      exact .touchAll _

/-- What is taken out of the list is what the single request removes. -/
theorem Settled.unlinks {node : Ref} {listNode : ListNode}
    (settled : Settled env world (.node node : Sought list) (some listNode))
    (unlinked : serve env (.unlink list listNode.position) world = some ((), after)) : ∃ final,
    respond env (.remove list node) world = some (true, final) ∧ SameWorld after final := by
  cases settled with
  | @found done todo entry iterates entries passed hit =>
    cases list with
    | requestid =>
      cases unlinked
      obtain ⟨requestId, wanted, -⟩ := Option.bind_eq_some_iff.mp (answer_requests world _ _ ▸ hit)
      obtain ⟨own, found, rfl⟩ := Option.map_eq_some_iff.mp wanted
      have before := fun other member => matching_requests wanted (passed other member)
      have here := matching_requests wanted hit
      refine ⟨{ world with
        requests := (extractFromList world.requests node (msgParseMatch own.requestId)).2 },
        by simp [respond, found, iterates, extractFromList, find?_found entries before here], ?_, .refl _⟩
      dsimp only
      rw [unlinkAt_length entries before here]
      exact (SameContent.touchAll _).remove _
    | connDevice =>
      cases unlinked
      obtain ⟨deviceSn, wanted, -⟩ := Option.bind_eq_some_iff.mp (answer_devices world _ _ ▸ hit)
      obtain ⟨own, found, rfl⟩ := Option.map_eq_some_iff.mp wanted
      have before := fun other member => matching_devices wanted (passed other member)
      have here := matching_devices wanted hit
      refine ⟨{ world with
        devices := (extractFromList world.devices node (subdevClientMatch own.deviceSn)).2 },
        by simp [respond, found, iterates, extractFromList, find?_found entries before here], .refl _, ?_⟩
      dsimp only
      rw [unlinkAt_length entries before here]
      exact (SameContent.touchAll _).remove _

theorem Keeps.of_same (same : SameWorld world after) : Keeps world after where
  requests node own found := ⟨own, by rw [same.requests.value?, found], rfl⟩
  devices node own found := ⟨own, by rw [same.devices.value?, found], rfl⟩

theorem Keeps.sizes (keeps : Keeps world after) (list : RegistryList) :
    sizes world list ≤ Locking.sizes after list := by
  refine Nat.le_of_not_lt fun shorter => ?_
  cases list with
  | requestid =>
    obtain ⟨own, found⟩ := Option.isSome_iff_exists.mp (Registry.value?_isSome.mpr shorter)
    obtain ⟨own', found', -⟩ := keeps.requests _ own found
    exact Nat.lt_irrefl _ (Registry.value?_isSome.mp (Option.isSome_of_eq_some found'))
  | connDevice =>
    obtain ⟨own, found⟩ := Option.isSome_iff_exists.mp (Registry.value?_isSome.mpr shorter)
    obtain ⟨own', found', -⟩ := keeps.devices _ own found
    exact Nat.lt_irrefl _ (Registry.value?_isSome.mp (Option.isSome_of_eq_some found'))

/-- No request changes an id or a serial number. -/
theorem handle_keeps {request : Request} {reply : request.Reply}
    (answered : respond env request world = some (reply, after)) : Keeps world after where
  requests node own found := by
    have present : node < world.requests.size :=
      Registry.value?_isSome.mp (Option.isSome_of_eq_some found)
    have same := handle_entryId answered present
    rw [entryId, entryId, found, Option.map_some] at same
    exact Option.map_eq_some_iff.mp same
  devices node own found := by
    obtain ⟨flag, found'⟩ := handle_client answered found
    exact ⟨_, found', rfl⟩

theorem callMatch_same {sought : Sought list} {val : Option Ref} {same : Bool}
    (called : callMatch world list sought val = some (same, after)) : SameWorld world after := by
  cases val with
  | none => cases called
  | some entry =>
    cases list with
    | requestid =>
      cases sought
      all_goals
        simp only [callMatch, Option.bind_eq_bind, Option.bind_eq_some_iff] at called
      · obtain ⟨own, -, called⟩ := called
        cases called
        exact ⟨.touchAll _, .refl _⟩
      · obtain ⟨given, -, own, -, called⟩ := called
        cases called
        exact ⟨.touchAll _, .refl _⟩
    | connDevice =>
      cases sought
      all_goals
        simp only [callMatch, Option.bind_eq_bind, Option.bind_eq_some_iff] at called
      · obtain ⟨own, -, deviceSn, -, called⟩ := called
        cases called
        exact ⟨.refl _, .touchAll _⟩
      · obtain ⟨given, -, own, -, called⟩ := called
        cases called
        exact ⟨.refl _, .touchAll _⟩

private theorem unlinkAt_value? {registry : Registry α} {position ref : Nat} :
    (unlinkAt registry position).value? ref = registry.value? ref := by
  unfold unlinkAt
  split
  · rfl
  · exact Registry.release_value?

theorem serve_keeps {request : LockedRequest} {reply : request.Reply}
    (served : serve env request world = some (reply, after)) : Keeps world after := by
  cases request with
  | matchVal list sought val => exact .of_same (callMatch_same served)
  | unlink list position =>
    cases list
    all_goals
      cases served
      constructor
    · exact fun node own found => ⟨own, by rw [unlinkAt_value?, found], rfl⟩
    · exact fun node own found => ⟨own, found, rfl⟩
    · exact fun node own found => ⟨own, found, rfl⟩
    · exact fun node own found => ⟨own, by rw [unlinkAt_value?, found], rfl⟩
  | issue request => exact handle_keeps served
  | lock | unlock | content | iteratorDestroy =>
    cases served
    exact .of_same (.refl _)

end IotstackDriver.Edge.Locking
