import IotstackDriver.Edge.Locking

/-! The locked sections, run on the shared state with nobody in between, do what the
single requests of the driver do. -/

namespace IotstackDriver.Edge.Locking

open Libc Support Program

/-- Take out the node at a position and release the object it holds. -/
def unlinkAt (registry : Registry α) (position : Nat) : Registry α :=
  match registry.entries[position]? with
  | none => registry
  | some ref =>
    Registry.release { registry with
      entries := registry.entries.eraseIdx position
      entriesAllocated := fun other member =>
        registry.entriesAllocated other ((List.eraseIdx_sublist _ _).subset member) } ref

/-- A match callback reads the object it is given, if that is one of the list's, and the
entry. -/
def callMatch (world : World) :
    (list : RegistryList) → Sought list → Option Ref → Option (Bool × World)
  | _, _, none => none
  | .requestid, .key requestId, some entry => do
    let own ← world.requests.value? entry
    some (msgParseMatch requestId own, { world with requests := world.requests.touchAll [entry] })
  | .requestid, .node node, some entry => do
    let sought ← world.requests.value? node
    let own ← world.requests.value? entry
    some (msgParseMatch sought.requestId own,
      { world with requests := world.requests.touchAll [node, entry] })
  | .connDevice, .key deviceSn, some entry => do
    let own ← world.devices.value? entry
    some (subdevClientMatch (← deviceSn) own,
      { world with devices := world.devices.touchAll [entry] })
  | .connDevice, .node node, some entry => do
    let sought ← world.devices.value? node
    let own ← world.devices.value? entry
    some (subdevClientMatch sought.deviceSn own,
      { world with devices := world.devices.touchAll [node, entry] })

/-- How the shared state answers the steps of a locked section. -/
def serve (env : Env) : Handler locked World
  | .lock _, world | .unlock _, world | .iteratorDestroy _, world => some ((), world)
  | .content list, world => some ((world.entries list).map some, world)
  | .matchVal list sought val, world => callMatch world list sought val
  | .unlink .requestid position, world =>
    some ((), { world with requests := unlinkAt world.requests position })
  | .unlink .connDevice position, world =>
    some ((), { world with devices := unlinkAt world.devices position })
  | .issue request, world => respond env request world

variable {env : Env} {world : World} {list : RegistryList}

theorem run_issued (program : Program edge α) :
    (issued program).run (serve env) world = program.run (respond env) world := by
  induction program generalizing world with
  | done value => rfl
  | call request rest ih =>
    rw [issued, run_call, run_call, serve]
    cases respond env request world with
    | none => rfl
    | some answer => exact ih answer.1

section Search

/-- The node a search ends at, from a position on. -/
def nodeAt (test : Ref → Bool) (position : Nat) (refs : List Ref) : Option ListNode :=
  (refs.find? test).map fun ref => ⟨position + refs.findIdx test, some ref⟩

/-- The entries a search calls the match callback with. -/
def called (test : Ref → Bool) (refs : List Ref) : List Ref :=
  refs.takeWhile (fun ref => !test ref) ++ (refs.find? test).toList

/-- A search in terms of what each call of the match callback answers and reads. -/
theorem run_searchNodes {sought : Sought list} {test : Ref → Bool} {reads : Ref → List Ref}
    {touched : List Ref → World} {refs : List Ref}
    (answers : ∀ done, ∀ entry ∈ refs, callMatch (touched done) list sought (some entry) =
      some (test entry, touched (done ++ reads entry))) (position : Nat) (done : List Ref) :
    (searchNodes list sought position (refs.map some)).run (serve env) (touched done) =
      some (nodeAt test position refs, touched (done ++ (called test refs).flatMap reads)) := by
  induction refs generalizing position done with
  | nil =>
    simp only [List.map_nil, searchNodes, nodeAt, called, List.takeWhile_nil, List.find?_nil,
      Option.toList_none, List.append_nil, List.flatMap_nil, Option.map_none]
    rfl
  | cons entry rest ih =>
    have here := answers done entry (List.mem_cons_self ..)
    rw [List.map_cons, searchNodes, run_bind, matchVal, run_request, serve, here, Option.bind_some]
    cases same : test entry with
    | true =>
      have found : nodeAt test position (entry :: rest) = some ⟨position, some entry⟩ := by
        simp [nodeAt, same, List.findIdx_cons]
      have calls : called test (entry :: rest) = [entry] := by
        simp [called, same]
      rw [found, calls, List.flatMap_singleton]
      rfl
    | false =>
      have found : nodeAt test position (entry :: rest) = nodeAt test (position + 1) rest := by
        simp only [nodeAt, same, List.findIdx_cons, List.find?_cons_of_neg, Bool.false_eq_true,
          not_false_eq_true, cond_false]
        congr 1
        funext ref
        rw [Nat.add_assoc, Nat.add_comm 1]
      have calls : called test (entry :: rest) = entry :: called test rest := by
        simp [called, same]
      rw [found, calls, List.flatMap_cons, ← List.append_assoc]
      exact ih (fun done other member => answers done other (List.mem_cons_of_mem _ member))
        (position + 1) (done ++ reads entry)

theorem run_listFind {sought : Sought list} {test : Ref → Bool} {reads : Ref → List Ref}
    {touched : List Ref → World} (start : touched [] = world)
    (answers : ∀ done, ∀ entry ∈ world.entries list,
      callMatch (touched done) list sought (some entry) =
        some (test entry, touched (done ++ reads entry))) :
    (listFind list sought).run (serve env) world =
      if env.malloc (.listIterator list) then
        some (nodeAt test 0 (world.entries list),
          touched ((called test (world.entries list)).flatMap reads))
      else some (none, world) := by
  rw [listFind, run_bind, listIteratorNew, run_issued, run_malloc, Option.bind_some]
  cases env.malloc (.listIterator list) with
  | false => rfl
  | true =>
    have searched := @run_searchNodes env _ _ _ _ _ _ answers 0 []
    rw [start, List.nil_append] at searched
    simp only [Bool.not_true, Bool.false_eq_true, if_false, if_true]
    rw [run_bind, content, run_request, serve, Option.bind_some, run_bind, searched, Option.bind_some]
    rfl

end Search

section Registries

variable {registry : Registry α} {test : α → Bool}

private theorem touchAll_append (done more : List Ref) :
    (registry.touchAll done).touchAll more = registry.touchAll (done ++ more) :=
  (List.foldl_append ..).symm

/-- Taking out the node a search ends at. -/
theorem unlinkAt_found {ref : Ref} (found : registry.find? test = some ref) :
    unlinkAt registry (registry.entries.findIdx (registry.matching test)) = registry.remove test := by
  have index : registry.entries.findIdx? (registry.matching test) =
      some (registry.entries.findIdx (registry.matching test)) := by
    rw [List.findIdx?_eq_some_iff_findIdx_eq]
    exact ⟨List.findIdx_lt_length_of_exists ⟨ref, Registry.find?_mem found, Registry.find?_matching found⟩, rfl⟩
  have node : registry.entries[registry.entries.findIdx (registry.matching test)]? = some ref := by
    rw [← List.find?_eq_getElem?_findIdx]
    exact found
  have erased := @List.eraseP_eq_eraseIdx _ registry.entries (registry.matching test)
  rw [index] at erased
  rw [unlinkAt, node, Registry.remove, found]
  simp only [Registry.eraseFirst, erased]

end Registries

section Requests

@[simp] theorem run_mutexLock : (mutexLock list).run (serve env) world = some ((), world) := rfl

@[simp] theorem run_mutexUnlock : (mutexUnlock list).run (serve env) world = some ((), world) := rfl

@[simp] theorem run_listIteratorDestroy :
    (listIteratorDestroy list).run (serve env) world = some ((), world) := rfl

theorem addToList_run (node : Ref) :
    (addToList list node).run (serve env) world = (Edge.addToList list node).run (respond env) world := by
  rw [addToList, Edge.addToList, run_bind, run_bind, run_issued, run_malloc, Option.bind_some]
  cases env.malloc (.listNode list) with
  | false => rfl
  | true =>
    simp only [Bool.not_true, Bool.false_eq_true, if_false, run_bind, run_mutexLock, Option.bind_some,
      run_issued]
    cases (push list node).run (respond env) world <;> rfl

private theorem run_listFind_requests {sought : Sought .requestid} {test : MsgParse → Bool}
    {reads : Ref → List Ref} (answers : ∀ done entry own, world.requests.value? entry = some own →
      callMatch { world with requests := world.requests.touchAll done } .requestid sought (some entry) =
        some (test own, { world with requests := world.requests.touchAll (done ++ reads entry) })) :
    (listFind .requestid sought).run (serve env) world =
      if env.malloc (.listIterator .requestid) then
        some (nodeAt (world.requests.matching test) 0 world.requests.entries,
          { world with requests := world.requests.touchAll ((world.requests.visited test).flatMap reads) })
      else some (none, world) := by
  refine @run_listFind env world .requestid sought (world.requests.matching test) reads
    (fun done => { world with requests := world.requests.touchAll done }) rfl ?_
  intro done entry member
  obtain ⟨own, found⟩ := Option.isSome_iff_exists.mp
    (Registry.value?_isSome.mpr (world.requests.entriesAllocated entry member))
  rw [answers done entry own found, Registry.matching_of_value? found]

private theorem run_listFind_devices {sought : Sought .connDevice} {test : SubdevClient → Bool}
    {reads : Ref → List Ref} (answers : ∀ done entry own, world.devices.value? entry = some own →
      callMatch { world with devices := world.devices.touchAll done } .connDevice sought (some entry) =
        some (test own, { world with devices := world.devices.touchAll (done ++ reads entry) })) :
    (listFind .connDevice sought).run (serve env) world =
      if env.malloc (.listIterator .connDevice) then
        some (nodeAt (world.devices.matching test) 0 world.devices.entries,
          { world with devices := world.devices.touchAll ((world.devices.visited test).flatMap reads) })
      else some (none, world) := by
  refine @run_listFind env world .connDevice sought (world.devices.matching test) reads
    (fun done => { world with devices := world.devices.touchAll done }) rfl ?_
  intro done entry member
  obtain ⟨own, found⟩ := Option.isSome_iff_exists.mp
    (Registry.value?_isSome.mpr (world.devices.entriesAllocated entry member))
  rw [answers done entry own found, Registry.matching_of_value? found]

private theorem nodeAt_val (test : Ref → Bool) (refs : List Ref) :
    (nodeAt test 0 refs).bind ListNode.val = refs.find? test := by
  rw [nodeAt]
  cases refs.find? test <;> rfl

/-- The search without its lock. -/
private theorem findInList_unlocked (key : list.Key) :
    (findInList list key).run (serve env) world = (listFind list (.key key)).run (serve env) world := by
  rw [findInList, run_bind, run_mutexLock, Option.bind_some, run_bind]
  cases (listFind list (.key key)).run (serve env) world <;> rfl

/-- Without a serial number to look for, the first comparison goes through `NULL`. -/
private theorem listFind_nameless :
    ((listFind .connDevice (.key none)).run (serve env) world).map
        (fun result => (result.1.bind ListNode.val, result.2)) =
      respond env (.find .connDevice none) world := by
  rw [listFind, run_bind, listIteratorNew, run_issued, run_malloc, Option.bind_some, respond.eq_def]
  cases env.malloc (.listIterator .connDevice) with
  | false => rfl
  | true =>
    simp only [Bool.not_true, Bool.false_eq_true, if_false, if_true]
    rw [run_bind, content, run_request, serve, Option.bind_some, run_bind]
    cases entries : world.devices.entries with
    | nil =>
      simp only [World.entries, entries, List.map_nil, searchNodes]
      rfl
    | cons entry rest =>
      have refused : callMatch world .connDevice (.key none) (some entry) = none := by
        rw [callMatch]
        cases world.devices.value? entry <;> rfl
      simp only [World.entries, entries, List.map_cons, searchNodes]
      rw [run_bind, matchVal, run_request, serve, refused]
      rfl

theorem findInList_run (key : list.Key) :
    ((findInList list key).run (serve env) world).map
        (fun result => (result.1.bind ListNode.val, result.2)) =
      (Edge.findInList list key).run (respond env) world := by
  rw [findInList_unlocked, Edge.findInList, find, run_request]
  cases list with
  | requestid =>
    have searched := @run_listFind_requests env world (.key key) (msgParseMatch key)
      (fun entry => [entry]) fun done entry own found => by
        simp only [callMatch, Registry.touchAll_value?, found, touchAll_append]
        rfl
    rw [searched, respond, List.flatMap_singleton']
    by_cases iterates : env.malloc (.listIterator .requestid) = true
    · rw [if_pos iterates, if_pos iterates, Option.map_some, nodeAt_val]
      rfl
    · rw [if_neg iterates, if_neg iterates]
      rfl
  | connDevice =>
    cases key with
    | none => exact listFind_nameless
    | some deviceSn =>
      have searched := @run_listFind_devices env world (.key (some deviceSn)) (subdevClientMatch deviceSn)
        (fun entry => [entry]) fun done entry own found => by
          simp only [callMatch, Registry.touchAll_value?, found, touchAll_append]
          rfl
      rw [searched, respond, List.flatMap_singleton']
      by_cases iterates : env.malloc (.listIterator .connDevice) = true
      · rw [if_pos iterates, if_pos iterates, Option.map_some, nodeAt_val]
        rfl
      · rw [if_neg iterates, if_neg iterates]
        rfl

/-- What a removal does with the node its search found. -/
private theorem removeFromList_unlocked (node : Ref) :
    (removeFromList list node).run (serve env) world =
      ((listFind list (.node node)).run (serve env) world).bind fun result =>
        match result.1 with
        | none => some (.err, result.2)
        | some listNode => ((unlink list listNode.position).run (serve env) result.2).map fun unlinked =>
          (.ok, unlinked.2) := by
  rw [removeFromList, run_bind, run_mutexLock, Option.bind_some, run_bind]
  congr 1
  funext result
  cases result.1 with
  | none => rfl
  | some listNode =>
    dsimp only
    rw [run_bind]
    cases (unlink list listNode.position).run (serve env) result.2 <;> rfl

/-- The node found is taken out of the list it was found in. -/
private theorem unlink_found {α : Type} {registry : Registry α} {test : α → Bool} {ref : Ref}
    (reads : List Ref) (found : registry.find? test = some ref) :
    unlinkAt (registry.touchAll reads) (0 + registry.entries.findIdx (registry.matching test)) =
      (registry.touchAll reads).remove test := by
  have stillFound : (registry.touchAll reads).find? test = some ref := by
    rw [Registry.touchAll_find?, found]
  have taken := unlinkAt_found stillFound
  rw [Registry.touchAll_entries, Registry.touchAll_matching] at taken
  rw [Nat.zero_add, taken]

private theorem remove_missing {α : Type} {registry : Registry α} {test : α → Bool} (reads : List Ref)
    (missing : registry.find? test = none) :
    (registry.touchAll reads).remove test = registry.touchAll reads := by
  rw [Registry.remove, Registry.touchAll_find?, missing]

private theorem nodeAt_entries {α : Type} {registry : Registry α} {test : α → Bool} :
    nodeAt (registry.matching test) 0 registry.entries = (registry.find? test).map fun ref =>
      ⟨0 + registry.entries.findIdx (registry.matching test), some ref⟩ := rfl

theorem removeFromList_run {node : Ref}
    (answered : (respond env (.remove list node) world).isSome = true) :
    (removeFromList list node).run (serve env) world =
      (Edge.removeFromList list node).run (respond env) world := by
  rw [removeFromList_unlocked, Edge.removeFromList, run_bind, remove, run_request]
  cases list with
  | requestid =>
    rw [respond] at answered ⊢
    cases given : world.requests.value? node with
    | none => simp [given] at answered
    | some own =>
      have searched := @run_listFind_requests env world (.node node) (msgParseMatch own.requestId)
        (fun entry => [node, entry]) fun done entry other found => by
          simp only [callMatch, Registry.touchAll_value?, given, found, touchAll_append]
          rfl
      rw [searched, nodeAt_entries]
      by_cases iterates : env.malloc (.listIterator .requestid) = true
      · rw [if_pos iterates, Option.bind_some]
        simp only [iterates, if_true, Option.bind_eq_bind, Option.bind_some, extractFromList]
        cases found : world.requests.find? (msgParseMatch own.requestId) with
        | none =>
          rw [remove_missing _ found]
          rfl
        | some ref =>
          rw [← unlink_found _ found]
          rfl
      · simp [iterates]
  | connDevice =>
    rw [respond] at answered ⊢
    cases given : world.devices.value? node with
    | none => simp [given] at answered
    | some own =>
      have searched := @run_listFind_devices env world (.node node) (subdevClientMatch own.deviceSn)
        (fun entry => [node, entry]) fun done entry other found => by
          simp only [callMatch, Registry.touchAll_value?, given, found, touchAll_append]
          rfl
      rw [searched, nodeAt_entries]
      by_cases iterates : env.malloc (.listIterator .connDevice) = true
      · rw [if_pos iterates, Option.bind_some]
        simp only [iterates, if_true, Option.bind_eq_bind, Option.bind_some, extractFromList]
        cases found : world.devices.find? (subdevClientMatch own.deviceSn) with
        | none =>
          rw [remove_missing _ found]
          rfl
        | some ref =>
          rw [← unlink_found _ found]
          rfl
      · simp [iterates]

private theorem listDevices_run (refs : List Ref) (deviceListMsg : Bytes) :
    (listDevices deviceListMsg (refs.map some)).run (serve env) world =
      (Edge.listDevices deviceListMsg refs).run (respond env) world := by
  rw [listDevices_issued, run_issued]

private theorem malloc_bind (site : AllocSite) (next : Bool → Program locked α) :
    (issued (malloc site) >>= next).run (serve env) world =
      (next (env.malloc site)).run (serve env) world := by
  rw [run_bind, run_issued, run_malloc, Option.bind_some]

private theorem driver_malloc_bind (site : AllocSite) (next : Bool → Program edge α) :
    (malloc site >>= next).run (respond env) world = (next (env.malloc site)).run (respond env) world := by
  rw [run_bind, run_malloc, Option.bind_some]

theorem handleStatusSync_run (config : DriverConfig) :
    (handleStatusSync config).run (serve env) world =
      (Edge.handleStatusSync config).run (respond env) world := by
  rw [handleStatusSync, Edge.handleStatusSync, malloc_bind, driver_malloc_bind]
  cases env.malloc (.buffer .deviceListMsg) with
  | false => rfl
  | true =>
    simp only [Bool.not_true, Bool.false_eq_true, if_false]
    rw [malloc_bind, driver_malloc_bind]
    cases env.malloc (.buffer .tmpMsg) with
    | false => rfl
    | true =>
      simp only [Bool.not_true, Bool.false_eq_true, if_false]
      rw [malloc_bind, driver_malloc_bind]
      cases env.malloc (.buffer .syncMsg) with
      | false => rfl
      | true =>
        simp only [Bool.not_true, Bool.false_eq_true, if_false]
        rw [run_bind, run_mutexLock, Option.bind_some, run_bind, content, run_request, serve,
          Option.bind_some, run_bind, run_iterate, Option.bind_some, iterateTail]
        cases entries : world.entries .connDevice with
        | nil =>
          rw [if_neg (by simp), if_pos (Or.inl rfl), run_bind, run_mutexUnlock, Option.bind_some,
            run_issued]
          rfl
        | cons node rest =>
          rw [if_pos (by simp), listIteratorNew, malloc_bind]
          cases env.malloc (.listIterator .connDevice) with
          | false =>
            have refused : ¬ (node :: rest = [] ∨ false = true) := by simp
            rw [if_neg refused]
            rfl
          | true =>
            rw [if_pos (Or.inr rfl), ← List.map_reverse]
            simp only [Bool.not_true, Bool.false_eq_true, if_false]
            rw [run_bind, run_bind, listDevices_run]
            congr 1
            funext result
            rw [run_bind, run_listIteratorDestroy, Option.bind_some, run_bind, run_mutexUnlock,
              Option.bind_some, run_issued]
            rfl

end Requests

end IotstackDriver.Edge.Locking
