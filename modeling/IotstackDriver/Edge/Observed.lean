import IotstackDriver.Edge.Effects

/-! What is observed of the requests of a run, request by request, the results of the
requests that every state answers, and when a run finishes without a request of some kind. -/

namespace IotstackDriver.Edge

open Libc Support Program

variable {observe : Request → Option ω} {env : Env} {world : World}

section Requests

variable {handler : Handler edge World}

/-- One request, with nothing after it. -/
theorem observed_request (request : Request) :
    (Program.call request .done : Program edge request.Reply).observed handler observe world =
      (observe request).toList := by
  rw [observed_call]
  cases handler request world <;> simp [observed]

@[simp] theorem observed_malloc (site : AllocSite) :
    (malloc site).observed handler observe world = (observe (.malloc site)).toList :=
  observed_request _

@[simp] theorem observed_logWrite (level : LogLevel) (format : String) (args : List Arg) :
    (logWrite level format args).observed handler observe world =
      (observe (.logWrite level format args)).toList :=
  observed_request _

@[simp] theorem observed_free (resource : Resource) :
    (free resource).observed handler observe world = (observe (.free resource)).toList :=
  observed_request _

@[simp] theorem observed_invoke (call : HandlerCall) :
    (invoke call).observed handler observe world = (observe (.invoke call)).toList :=
  observed_request _

@[simp] theorem observed_findInList (list : RegistryList) (key : list.Key) :
    (findInList list key).observed handler observe world = (observe (.find list key)).toList :=
  observed_request _

@[simp] theorem observed_iterate (list : RegistryList) :
    (iterate list).observed handler observe world = (observe (.iterate list)).toList :=
  observed_request _

@[simp] theorem observed_readClient (client : Ref) :
    (readClient client).observed handler observe world = (observe (.readClient client)).toList :=
  observed_request _

@[simp] theorem observed_readPayload (node : Ref) (look : Look) :
    (readPayload node look).observed handler observe world =
      (observe (.readPayload node look)).toList :=
  observed_request _

@[simp] theorem observed_writePayload (node : Ref) (stores : List (Nat × UInt8)) :
    (writePayload node stores).observed handler observe world =
      (observe (.writePayload node stores)).toList :=
  observed_request _

@[simp] theorem observed_setEdgeState (state : Bool) :
    (setEdgeState state).observed handler observe world =
      (observe (.setEdgeState state)).toList :=
  observed_request _

@[simp] theorem observed_fault :
    (fault : Program edge α).observed handler observe world = (observe .fault).toList := by
  rw [fault, observed_call]
  cases handler .fault world with
  | none => simp
  | some answer => exact answer.1.elim

end Requests

section Results

@[simp] theorem observed_publishAndFlush (subj str : Bytes) :
    (publishAndFlush subj str).observed (respond env) observe world =
      (observe (.publishString subj str)).toList ++ (observe .flush).toList := by
  simp [publishAndFlush, publishString, flush, observed_call, respond]

@[simp] theorem run_malloc (site : AllocSite) :
    (malloc site).run (respond env) world = some (env.malloc site, world) := rfl

@[simp] theorem run_logWrite (level : LogLevel) (format : String) (args : List Arg) :
    (logWrite level format args).run (respond env) world = some ((), world) := rfl

@[simp] theorem run_free (resource : Resource) :
    (free resource).run (respond env) world = some ((), world) := rfl

@[simp] theorem run_invoke (call : HandlerCall) :
    (invoke call).run (respond env) world = some ((), world) := rfl

@[simp] theorem run_setEdgeState (state : Bool) :
    (setEdgeState state).run (respond env) world = some ((), world) := rfl

@[simp] theorem run_fault : (fault : Program edge α).run (respond env) world = none := rfl

theorem run_readClient {client : Ref} {own : SubdevClient}
    (found : world.devices.value? client = some own) : (readClient client).run (respond env) world =
      some (own, { world with devices := world.devices.touch client }) := by
  rw [readClient, Program.run_call, respond, found]
  rfl

@[simp] theorem run_iterate (list : RegistryList) : (iterate list).run (respond env) world =
    some (iterateTail (world.entries list) (env.malloc (.listIterator list)), world) := rfl

@[simp] theorem run_publishAndFlush (subj str : Bytes) :
    (publishAndFlush subj str).run (respond env) world =
      some (env.publishStatus.or env.flushStatus, world) := rfl

theorem run_findInList (allocates : ∀ site, env.malloc site = true) (requestId : UInt32) :
    (findInList .requestid requestId).run (respond env) world =
      some (world.requests.find? (msgParseMatch requestId),
        { world with requests := (searchList world.requests (msgParseMatch requestId)).2 }) := by
  rw [findInList, find, Program.run_call, respond, if_pos (allocates _)]
  rfl

theorem run_find_connDevice {deviceSn : CString} :
    (findInList .connDevice (some deviceSn)).run (respond env) world =
      some (if env.malloc (.listIterator .connDevice) then
          (world.devices.find? (subdevClientMatch deviceSn),
            { world with devices := (searchList world.devices (subdevClientMatch deviceSn)).2 })
        else (none, world)) := by
  rw [findInList, find, Program.run_call, respond]
  split <;> rfl

/-- A search without a serial number finds nobody, if it ends. -/
theorem run_find_nobody (env : Env) (world : World) :
    (findInList .connDevice none).run (respond env) world = none ∨
    (findInList .connDevice none).run (respond env) world = some (none, world) := by
  rw [findInList, find, Program.run_call, respond]
  split
  · dsimp only
    split
    · exact .inr rfl
    · exact .inl rfl
  · exact .inr rfl

end Results

section Handled

theorem observed_log {level : LogLevel} {text : String} {args : List Arg}
    {next : Unit → Program edge α} (unseen : observe (.logWrite level text args) = none) :
    (logWrite level text args >>= next).observed (handle env) observe world =
      if env.logFits text args then (next ()).observed (handle env) observe world else [] := by
  rw [logWrite, call_bind, observed_call, unseen, handle, Handler.guarded, Env.fits]
  split <;> rfl

theorem observed_alloc {site : AllocSite} {next : Bool → Program edge α}
    (unseen : observe (.malloc site) = none) : (malloc site >>= next).observed (handle env) observe world =
      (next (env.malloc site)).observed (handle env) observe world := by
  rw [malloc, call_bind, observed_call, unseen]
  rfl

theorem observed_read {client : Ref} {own : SubdevClient} {next : SubdevClient → Program edge α}
    (unseen : observe (.readClient client) = none) (found : world.devices.value? client = some own) :
    (readClient client >>= next).observed (handle env) observe world =
      (next own).observed (handle env) observe { world with devices := world.devices.touch client } := by
  rw [readClient, call_bind, observed_call, unseen, handle, Handler.guarded_of_passes rfl, respond, found]
  rfl

/-- Any other request is answered as it is without the logs. -/
theorem handle_other {request : Request} (other : env.fits request = true) :
    handle env request world = respond env request world :=
  Handler.guarded_of_passes other

@[simp] theorem handled_malloc (site : AllocSite) :
    (malloc site).run (handle env) world = some (env.malloc site, world) := rfl

@[simp] theorem handled_free (resource : Resource) :
    (free resource).run (handle env) world = some ((), world) := rfl

@[simp] theorem handled_invoke (call : HandlerCall) :
    (invoke call).run (handle env) world = some ((), world) := rfl

@[simp] theorem handled_fault : (fault : Program edge α).run (handle env) world = none := rfl

theorem handled_readClient {client : Ref} {own : SubdevClient}
    (found : world.devices.value? client = some own) : (readClient client).run (handle env) world =
      some (own, { world with devices := world.devices.touch client }) := by
  rw [readClient, run_request, handle_other rfl]
  exact (run_request ..).symm.trans (run_readClient found)

@[simp] theorem handled_iterate (list : RegistryList) : (iterate list).run (handle env) world =
    some (iterateTail (world.entries list) (env.malloc (.listIterator list)), world) := rfl

@[simp] theorem handled_newMsgParse (requestId : UInt32) : (newMsgParse requestId).run (handle env) world =
    some (world.requests.size, { world with requests := world.requests.alloc ⟨requestId, .zero⟩ }) := rfl

theorem handled_findInList {list : RegistryList} {key : list.Key} :
    (findInList list key).run (handle env) world = (findInList list key).run (respond env) world := by
  rw [findInList, find, run_request, run_request, handle_other rfl]

end Handled

section Fitting

@[simp] theorem logsFit_pure {value : α} : LogsFit env (pure value : Program edge α) world := rfl

@[simp] theorem logsFit_bind {program : Program edge α} {next : α → Program edge β} :
    LogsFit env (program >>= next) world ↔ LogsFit env program world ∧ ∀ value middle,
      program.run (respond env) world = some (value, middle) → LogsFit env (next value) middle := by
  rw [LogsFit, passes_bind, Bool.and_eq_true]
  refine and_congr_right fun _ => ?_
  cases program.run (respond env) world with
  | none => simp
  | some result =>
    obtain ⟨value, middle⟩ := result
    simp [LogsFit]

@[simp] theorem logsFit_ite {condition : Prop} [Decidable condition] {left right : Program edge α} :
    LogsFit env (if condition then left else right) world ↔
      if condition then LogsFit env left world else LogsFit env right world := by
  split <;> rfl

@[simp] theorem logsFit_logWrite {level : LogLevel} {text : String} {args : List Arg} :
    LogsFit env (logWrite level text args) world ↔ env.logFits text args = true := by
  rw [LogsFit, logWrite, passes_request]
  rfl

private theorem logsFit_other {request : Request} (other : env.fits request = true) :
    LogsFit env (.call request .done : Program edge request.Reply) world := by
  rw [LogsFit, passes_request, other]

@[simp] theorem logsFit_malloc {site : AllocSite} : LogsFit env (malloc site) world := logsFit_other rfl

@[simp] theorem logsFit_free {resource : Resource} : LogsFit env (free resource) world :=
  logsFit_other rfl

@[simp] theorem logsFit_invoke {call : HandlerCall} : LogsFit env (invoke call) world :=
  logsFit_other rfl

@[simp] theorem logsFit_readClient {client : Ref} : LogsFit env (readClient client) world :=
  logsFit_other rfl

@[simp] theorem logsFit_iterate {list : RegistryList} : LogsFit env (iterate list) world :=
  logsFit_other rfl

@[simp] theorem logsFit_findInList {list : RegistryList} {key : list.Key} :
    LogsFit env (findInList list key) world := logsFit_other rfl

@[simp] theorem logsFit_fault : LogsFit env (fault : Program edge α) world := rfl

@[simp] theorem logsFit_publishAndFlush {subj str : Bytes} :
    LogsFit env (publishAndFlush subj str) world := rfl

end Fitting

section Finishing

variable {forbidden : Request → Bool}

@[simp] theorem finishes_malloc {site : AllocSite} {post : Bool → World → Prop} :
    Finishes (respond env) forbidden (malloc site) post world ↔
      forbidden (.malloc site) = false ∧ post (env.malloc site) world :=
  finishes_answered rfl

@[simp] theorem finishes_logWrite {level : LogLevel} {format : String} {args : List Arg}
    {post : Unit → World → Prop} :
    Finishes (respond env) forbidden (logWrite level format args) post world ↔
      forbidden (.logWrite level format args) = false ∧ post () world :=
  finishes_answered rfl

@[simp] theorem finishes_free {resource : Resource} {post : Unit → World → Prop} :
    Finishes (respond env) forbidden (free resource) post world ↔
      forbidden (.free resource) = false ∧ post () world :=
  finishes_answered rfl

@[simp] theorem finishes_invoke {call : HandlerCall} {post : Unit → World → Prop} :
    Finishes (respond env) forbidden (invoke call) post world ↔
      forbidden (.invoke call) = false ∧ post () world :=
  finishes_answered rfl

@[simp] theorem finishes_setEdgeState {state : Bool} {post : Unit → World → Prop} :
    Finishes (respond env) forbidden (setEdgeState state) post world ↔
      forbidden (.setEdgeState state) = false ∧ post () world :=
  finishes_answered rfl

@[simp] theorem not_finishes_fault {post : α → World → Prop} :
    ¬ Finishes (respond env) forbidden (fault : Program edge α) post world :=
  not_finishes_unanswered rfl

theorem finishes_readClient {client : Ref} {own : SubdevClient} {post : SubdevClient → World → Prop}
    (found : world.devices.value? client = some own) :
    Finishes (respond env) forbidden (readClient client) post world ↔
      forbidden (.readClient client) = false ∧
        post own { world with devices := world.devices.touch client } :=
  finishes_answered (by rw [respond, found]; rfl)

theorem finishes_readPayload {node : Ref} {look : Look} {own : MsgParse} {post : Bytes → World → Prop}
    (found : world.requests.value? node = some own) :
    Finishes (respond env) forbidden (readPayload node look) post world ↔
      forbidden (.readPayload node look) = false ∧
        post (env.look look (own.payload.cString natsMsgMaxLen))
          { world with requests := world.requests.touch node } :=
  finishes_answered (by rw [respond, found]; rfl)

theorem finishes_writePayload {node : Ref} {stores : List (Nat × UInt8)} {own : MsgParse}
    {post : Unit → World → Prop} (found : world.requests.value? node = some own)
    (inside : (stores.all fun store => store.1 < natsMsgMaxLen) = true) :
    Finishes (respond env) forbidden (writePayload node stores) post world ↔
      forbidden (.writePayload node stores) = false ∧ post () { world with
        requests := (world.requests.touch node).modify node fun entry => entry.storeAll stores } :=
  finishes_answered (by
    rw [respond, found]
    exact if_pos inside)

theorem finishes_find_requestid (allocates : ∀ site, env.malloc site = true) {requestId : UInt32}
    {post : Option Ref → World → Prop} :
    Finishes (respond env) forbidden (findInList .requestid requestId) post world ↔
      forbidden (.find .requestid requestId) = false ∧
        post (world.requests.find? (msgParseMatch requestId))
          { world with requests := (searchList world.requests (msgParseMatch requestId)).2 } :=
  finishes_answered (if_pos (allocates _))

theorem finishes_find_connDevice (allocates : ∀ site, env.malloc site = true) {deviceSn : CString}
    {post : Option Ref → World → Prop} :
    Finishes (respond env) forbidden (findInList .connDevice (some deviceSn)) post world ↔
      forbidden (.find .connDevice (some deviceSn)) = false ∧
        post (world.devices.find? (subdevClientMatch deviceSn))
          { world with devices := (searchList world.devices (subdevClientMatch deviceSn)).2 } :=
  finishes_answered (if_pos (allocates _))

end Finishing

end IotstackDriver.Edge
