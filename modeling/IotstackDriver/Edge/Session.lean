import IotstackDriver.Edge.ScratchBuffers
import IotstackDriver.Edge.LocalDispatch

/-! Sessions of a driver: the handlers its user registers, the clients it constructs, and the
state the gateway reports, from one call or message to the next. -/

namespace IotstackDriver.Edge

open Libc Support Program

/-- The variables of `edge.c` that outlast a call, and the objects. -/
structure Session where
  edgeTopoHandle : Option HandlerPtr
  edgeSubdevStatusHandle : Option HandlerPtr
  edgeNatsMsgHandle : Option HandlerPtr
  edgeState : Bool
  world : World

namespace Session

def initial : Session := ⟨none, none, none, false, .initial⟩

def edgeSetTopoNotifyHandle (topoNotifyHandle : Option HandlerPtr) (session : Session) : Session :=
  if topoNotifyHandle.isSome then { session with edgeTopoHandle := topoNotifyHandle } else session

def edgeSetSubdevStatusHandle (subdevStatusHandle : Option HandlerPtr) (session : Session) : Session :=
  if subdevStatusHandle.isSome then { session with edgeSubdevStatusHandle := subdevStatusHandle }
  else session

def edgeSetNatsMsgHandle (natsMsgHandle : Option HandlerPtr) (session : Session) : Session :=
  if natsMsgHandle.isSome then { session with edgeNatsMsgHandle := natsMsgHandle } else session

def edgeGetOnlineStatus (session : Session) : Bool := session.edgeState

/-- What the driver goes by during a call. -/
def configured (config : DriverConfig) (session : Session) : DriverConfig :=
  { config with
    edgeTopoHandle := session.edgeTopoHandle
    edgeSubdevStatusHandle := session.edgeSubdevStatusHandle
    edgeNatsMsgHandle := session.edgeNatsMsgHandle }

end Session

/-- One event of a session. -/
inductive SessionEvent where
  | edgeSetTopoNotifyHandle (topoNotifyHandle : Option HandlerPtr)
  | edgeSetSubdevStatusHandle (subdevStatusHandle : Option HandlerPtr)
  | edgeSetNatsMsgHandle (natsMsgHandle : Option HandlerPtr)
  | performs (env : Env) (job : Job)

/-- The state of the gateway, and the handlers called, after a request. -/
def bookReport (report : Bool × List HandlerCall) :
    (request : Request) → request.Reply → Option (Bool × List HandlerCall)
  | .setEdgeState state, _ => some (state, report.2)
  | .invoke made, _ => some (report.1, report.2 ++ [made])
  | _, _ => some report

namespace Session

/-- One event: the handlers it calls, and the session after it. -/
def step (config : DriverConfig) (session : Session) : SessionEvent → Option (List HandlerCall × Session)
  | .edgeSetTopoNotifyHandle handle => some ([], session.edgeSetTopoNotifyHandle handle)
  | .edgeSetSubdevStatusHandle handle => some ([], session.edgeSetSubdevStatusHandle handle)
  | .edgeSetNatsMsgHandle handle => some ([], session.edgeSetNatsMsgHandle handle)
  | .performs env job => do
    let (_, world, edgeState, called) ← (job.program (session.configured config)).run
      ((Edge.handle env).booked bookReport) (session.world, session.edgeState, [])
    return (called, { session with edgeState, world })

def run (config : DriverConfig) : List SessionEvent → Session → Option Session
  | [], session => some session
  | event :: rest, session => do
    let (_, next) ← session.step config event
    next.run config rest

end Session

/-! ## What a session goes by -/

/-- The client an event creates. -/
def SessionEvent.constructs : SessionEvent → Option SubdevClient
  | .performs env (.duty (.handle (.device (.construct (some productSn) (some deviceSn) (some handler)
      rrpcMsgHandle)))) =>
    if env.malloc .subdevClient then some (.constructed productSn deviceSn handler rrpcMsgHandle) else none
  | _ => none

/-- The clients created so far, in order. -/
def roster (events : List SessionEvent) : List SubdevClient :=
  events.filterMap SessionEvent.constructs

/-- The handler that was registered last. -/
def registered (setter : SessionEvent → Option HandlerPtr) (events : List SessionEvent) : Option HandlerPtr :=
  (events.filterMap setter).getLast?

def SessionEvent.setsTopo : SessionEvent → Option HandlerPtr
  | .edgeSetTopoNotifyHandle handle => handle
  | _ => none

def SessionEvent.setsStatus : SessionEvent → Option HandlerPtr
  | .edgeSetSubdevStatusHandle handle => handle
  | _ => none

def SessionEvent.setsNats : SessionEvent → Option HandlerPtr
  | .edgeSetNatsMsgHandle handle => handle
  | _ => none

/-- The topic and the serial number of a local message, as far as they are strings. -/
def localAddress (config : DriverConfig) (msg : NatsMsg) : Option (Option CString × Option CString) := do
  let msgJson ← config.cJsonParse msg.text
  let topic ← msgJson.getObjectItem "topic"
  let deviceSn ← msgJson.getObjectItem "deviceSN"
  return (topic.valuestring, deviceSn.valuestring)

/-- The handler of a client for a topic. A message without one is no rrpc request. -/
def SubdevClient.chosenFor (own : SubdevClient) : Option CString → HandlerKind
  | some topic => own.chosen topic
  | none => .normal

/-- A handler is called for a local message: the client is the first in the list whose serial
number begins with the one the message names, it is one of those created, and the handler is the
one it was created with for the topic of the message. -/
structure AddressedTo (config : DriverConfig) (events : List SessionEvent) (devices : Registry SubdevClient)
    (msg : NatsMsg) (called : HandlerCall) (topic : Option CString) (deviceSn : CString) (client : Ref)
    (own : SubdevClient) (handler : HandlerPtr) : Prop where
  address : localAddress config msg = some (topic, some deviceSn)
  found : devices.find? (subdevClientMatch deviceSn) = some client
  created : (roster events)[client]? = some own
  target : called.target = some (client, own.chosenFor topic, handler)
  given : own.handler? (own.chosenFor topic) = some handler

/-- A handler is called for a message of its kind. One for a notice or for a subscribed message is
the one that was registered last. -/
def Permitted (events : List SessionEvent) (job : Job) : HandlerCall → Prop
  | .normal .. | .rrpc .. => ∃ msg, job = .duty (.handle (.onLocalMessage msg))
  | .topoNotify handler .. => (∃ msg, job = .duty (.handle (.onBroadcastMessage msg))) ∧
    registered SessionEvent.setsTopo events = some handler
  | .subdevStatus handler .. => (∃ msg, job = .duty (.handle (.onBroadcastMessage msg))) ∧
    registered SessionEvent.setsStatus events = some handler
  | .nats handler .. => (∃ msg, job = .duty (.onNatsMessage msg)) ∧
    registered SessionEvent.setsNats events = some handler

/-- A handler is called that was registered for it, and one of a client for a local message that
is addressed to this client. -/
structure Registered (config : DriverConfig) (events : List SessionEvent) (devices : Registry SubdevClient)
    (job : Job) (called : HandlerCall) : Prop where
  permitted : Permitted events job called
  addressed : ∀ msg, job = .duty (.handle (.onLocalMessage msg)) → ∃ topic deviceSn client own handler,
    AddressedTo config events devices msg called topic deviceSn client own handler

variable {config : DriverConfig} {env : Env} {events : List SessionEvent} {job : Job} {made : Nat}

/-! ## What a job may call -/

/-- One handler at most is called, and for a message of its kind. -/
def handlerProtocol (events : List SessionEvent) (job : Job) : Protocol edge Nat where
  allowed made request := match request with
    | .invoke called => made = 0 ∧ Permitted events job called
    | .newSubdevClient _ | .setEdgeState _ => False
    | _ => True
  step made request _ after := match request with
    | .invoke _ => after = made + 1
    | _ => after = made

/-- A request that calls no handler, creates no client and leaves the state of the gateway. -/
def Discreet : Request → Prop
  | .invoke _ | .newSubdevClient _ | .setEdgeState _ => False
  | _ => True

theorem meets_discreet {program : Program edge α} {post : α → Nat → Prop}
    (discreet : Issues (I := edge) Discreet program fun _ => True) (continues : ∀ result, post result made) :
    Meets (handlerProtocol events job) program post made := by
  refine .of_issues discreet (fun request free => ?_) fun result _ => continues result
  cases request with
  | invoke | newSubdevClient | setEdgeState => cases free
  | _ => exact ⟨trivial, fun _ _ same => same⟩

theorem calls_invoke {called : HandlerCall} {post : Unit → Nat → Prop} :
    Meets (handlerProtocol events job) (invoke called) post made ↔
      (made = 0 ∧ Permitted events job called) ∧ post () (made + 1) := by
  refine and_congr_right fun _ => ⟨fun all => all () _ rfl, ?_⟩
  rintro met reply next rfl
  exact met

/-- Work before or after a handler is called. -/
private theorem calls_then {work : Program edge α} {rest : α → Program edge Unit} {post : Unit → Nat → Prop}
    (works : Issues (I := edge) Discreet work fun _ => True)
    (continues : ∀ value, Meets (handlerProtocol events job) (rest value) post made) :
    Meets (handlerProtocol events job) (work >>= rest) post made := by
  rw [meets_bind]
  exact meets_discreet works fun value => continues value

private theorem calls_nothing {program : Program edge α}
    (discreet : Issues (I := edge) Discreet program fun _ => True) :
    Meets (handlerProtocol events job) program (fun _ _ => True) made :=
  meets_discreet discreet fun _ => trivial

/-- The operations call no handler. -/
theorem operation_calls (operation : Operation) :
    Meets (handlerProtocol events job) (operation.program config) (fun _ _ => True) made := by
  refine (operation.owes.transport (fun ledger made request (_ : True) allowed => ?_) trivial).weaken
    fun _ _ _ => trivial
  refine ⟨?_, fun reply _ _ => ⟨_, rfl, trivial⟩⟩
  cases request with
  | invoke | newSubdevClient | setEdgeState => cases allowed
  | _ => exact trivial

theorem Inner.discreet {request : Request} (inner : Inner request) : Discreet request := by
  cases request with
  | invoke | newSubdevClient | setEdgeState => cases inner
  | _ => exact trivial

theorem handleStatusSync_discreet :
    Issues (I := edge) Discreet (handleStatusSync config) fun _ => True := by
  have gathers : Issues (I := edge) Discreet (iterate .connDevice) fun _ => True :=
    ⟨trivial, fun _ => trivial⟩
  simp [handleStatusSync, Discreet]
  refine .bind gathers fun iterated => ?_
  cases iterated with
  | none => trivial
  | some nodes =>
    exact .bind (listDevices_inner.issues fun _ => Inner.discreet) fun _ => by
      simp [publishAndFlush, Discreet]

theorem natsPublish_discreet {subject : CString} {data : Option Memory} {dataLen : Int} :
    Issues (I := edge) Discreet (natsPublish config subject data dataLen) fun _ => True := by
  rw [natsPublish.eq_def]
  cases encodedMsg config data dataLen <;> simp [publishAndFlush, Discreet]

section Callbacks

variable {msg : NatsMsg}

theorem dispatchLocal_calls {client : Ref} {topic : Option CString} {payload : Memory} {payloadLen : Int} :
    Meets (handlerProtocol events (.duty (.handle (.onLocalMessage msg))))
      (dispatchLocal client topic payload payloadLen) (fun _ _ => True) 0 := by
  rw [dispatchLocal.eq_def]
  refine calls_then (by simp [Discreet]) fun own => ?_
  have normal (handler : HandlerPtr) :
      Meets (handlerProtocol events (.duty (.handle (.onLocalMessage msg))))
        (invoke (.normal client handler topic payload payloadLen)) (fun _ _ => True) 0 :=
    calls_invoke.mpr ⟨⟨rfl, msg, rfl⟩, trivial⟩
  cases own.rrpcMsgHandle with
  | none =>
    cases own.normalMsgHandle with
    | none => trivial
    | some handler => exact normal handler
  | some handler =>
    cases topic with
    | none => exact ⟨trivial, fun reply => reply.elim⟩
    | some name =>
      dsimp only
      split
      · rw [meets_bind, calls_invoke]
        exact ⟨⟨rfl, msg, rfl⟩, trivial⟩
      · cases own.normalMsgHandle with
        | none => trivial
        | some handler => exact normal handler

theorem deliverLocal_calls {deviceSn topic : Option CString} {payload : Memory} {payloadLen : Int} :
    Meets (handlerProtocol events (.duty (.handle (.onLocalMessage msg))))
      (deliverLocal deviceSn topic payload payloadLen) (fun _ _ => True) 0 := by
  refine calls_then (by simp [Discreet]) fun found => ?_
  cases found with
  | none => exact calls_nothing (by simp [Discreet])
  | some client => exact dispatchLocal_calls

theorem onLocalMessage_calls : Meets (handlerProtocol events (.duty (.handle (.onLocalMessage msg))))
    (onLocalMessage config msg) (fun _ _ => True) 0 := by
  refine calls_then (by simp [Discreet]) fun _ => ?_
  split
  · exact calls_nothing (by simp [Discreet])
  · split
    · exact calls_nothing (by simp [Discreet])
    · refine calls_then (by simp [Discreet]) fun _ => ?_
      split
      · exact calls_nothing (by simp [Discreet])
      · refine calls_then (by simp [Discreet]) fun _ => ?_
        split
        · exact calls_nothing (by simp [Discreet])
        · refine calls_then (by simp [Discreet]) fun _ => calls_then (by simp [Discreet]) fun allocated => ?_
          split
          · exact calls_nothing (by simp [Discreet])
          · refine calls_then (base64DecodeString_inner.issues fun _ => Inner.discreet) fun coded =>
              calls_then (by simp [Discreet]) fun _ => ?_
            rw [meets_bind]
            exact deliverLocal_calls.weaken fun _ made _ => calls_nothing (by simp [Discreet])

theorem notice_calls {handler : Option HandlerPtr} {notice : HandlerPtr → HandlerCall}
    (permits : ∀ registered, handler = some registered → Permitted events job (notice registered)) :
    Meets (handlerProtocol events job) (handler.forM fun handler => invoke (notice handler))
      (fun _ _ => True) 0 := by
  cases handler with
  | none => trivial
  | some handler => exact calls_invoke.mpr ⟨⟨rfl, permits handler rfl⟩, trivial⟩

theorem onBroadcastMessage_calls (topo : config.edgeTopoHandle = registered SessionEvent.setsTopo events)
    (status : config.edgeSubdevStatusHandle = registered SessionEvent.setsStatus events) :
    Meets (handlerProtocol events (.duty (.handle (.onBroadcastMessage msg))))
      (onBroadcastMessage config msg) (fun _ _ => True) 0 := by
  refine calls_then (by simp [Discreet]) fun _ => ?_
  split
  · exact calls_nothing (by simp [Discreet])
  · split
    · exact calls_nothing (by simp [Discreet])
    · refine calls_then (by simp [Discreet]) fun _ => ?_
      split
      · exact calls_nothing (by simp [Discreet])
      · refine calls_then (by simp [Discreet]) fun _ => calls_then (by simp [Discreet]) fun allocated => ?_
        split
        · exact calls_nothing (by simp [Discreet])
        · refine calls_then (base64DecodeString_inner.issues fun _ => Inner.discreet) fun coded =>
            calls_then (by simp [Discreet]) fun _ => ?_
          split
          · exact calls_nothing (by simp [Discreet])
          · have ends {made : Nat} : Meets (handlerProtocol events (.duty (.handle (.onBroadcastMessage msg)))) (do
                free .msgJson
                free (.buffer .msgBase64decode)
                free .msg) (fun _ _ => True) made := calls_nothing (by simp [Discreet])
            have topology {opera : TopoOperation} {payload : Memory} :
                Meets (handlerProtocol events (.duty (.handle (.onBroadcastMessage msg))))
                  (config.edgeTopoHandle.forM fun handler => invoke (.topoNotify handler opera payload))
                  (fun _ _ => True) 0 :=
              notice_calls fun handler same => ⟨⟨msg, rfl⟩, topo.symm.trans same⟩
            have presence {opera : SubdevAble} {payload : Memory} :
                Meets (handlerProtocol events (.duty (.handle (.onBroadcastMessage msg))))
                  (config.edgeSubdevStatusHandle.forM fun handler =>
                    invoke (.subdevStatus handler opera payload)) (fun _ _ => True) 0 :=
              notice_calls fun handler same => ⟨⟨msg, rfl⟩, status.symm.trans same⟩
            apply broadcast_branches (motive := fun branch =>
              Meets (handlerProtocol events (.duty (.handle (.onBroadcastMessage msg)))) branch _ 0)
            · intro _
              refine ⟨?_, ?_, ?_, ?_⟩ <;> refine calls_then (by simp [Discreet]) fun _ => (meets_bind ..).mpr ?_
              · exact topology.weaken fun _ _ _ => ends
              · exact topology.weaken fun _ _ _ => ends
              · exact presence.weaken fun _ _ _ => ends
              · exact presence.weaken fun _ _ _ => ends
            · exact fun _ => calls_then (storeReply_inner.issues fun _ => Inner.discreet) fun _ => ends

theorem onNatsMessage_calls (nats : config.edgeNatsMsgHandle = registered SessionEvent.setsNats events) :
    Meets (handlerProtocol events (.duty (.onNatsMessage msg))) (onNatsMessage config msg)
      (fun _ _ => True) 0 := by
  refine calls_then (by simp [Discreet]) fun _ => calls_then (by simp [Discreet]) fun allocated => ?_
  split
  · exact calls_nothing (by simp [Discreet])
  · refine calls_then (base64DecodeMsg_inner.issues fun _ => Inner.discreet) fun coded =>
      calls_then (by simp [Discreet]) fun _ => (meets_bind ..).mpr ?_
    have subscribed {payload : Memory} {payloadLen : Int} :
        Meets (handlerProtocol events (.duty (.onNatsMessage msg)))
          (config.edgeNatsMsgHandle.forM fun handler =>
            invoke (.nats handler msg.subject payload payloadLen)) (fun _ _ => True) 0 :=
      notice_calls fun handler same => ⟨⟨msg, rfl⟩, nats.symm.trans same⟩
    exact subscribed.weaken fun _ _ _ => calls_nothing (by simp [Discreet])

end Callbacks

/-! ## Sessions -/

/-- What a message about the gateway reports, if it is understood. -/
def stateReported (config : DriverConfig) (msg : NatsMsg) : Option Bool := do
  let msgJson ← config.cJsonParse msg.text
  let state ← msgJson.getObjectItem "state"
  return strncmp (config.cJsonPrint state) (.literal "true") 4 == 0

def SessionEvent.reports (config : DriverConfig) : SessionEvent → Option Bool
  | .performs _ (.duty (.onEdgeStateMessage msg)) => stateReported config msg
  | _ => none

/-- The clients are those created, each with a session flag of its own. -/
def Known (events : List SessionEvent) (devices : Registry SubdevClient) : Prop :=
  ∀ ref, (devices.value? ref).map (SubdevClient.withOnline · false) = (roster events)[ref]?

/-- A session is what its events made of it. -/
structure Session.MadeOf (config : DriverConfig) (events : List SessionEvent) (session : Session) : Prop where
  topo : session.edgeTopoHandle = registered SessionEvent.setsTopo events
  status : session.edgeSubdevStatusHandle = registered SessionEvent.setsStatus events
  nats : session.edgeNatsMsgHandle = registered SessionEvent.setsNats events
  clients : Known events session.world.devices
  state : session.edgeState = ((events.filterMap (SessionEvent.reports config)).getLast?).getD false

section Steps

variable {session next : Session} {world after : World} {devices : Registry SubdevClient}

theorem Known.size (known : Known events devices) : devices.size = (roster events).length := by
  have same (ref : Nat) : (roster events).length ≤ ref ↔ devices.size ≤ ref := by
    rw [← List.getElem?_eq_none_iff, ← known ref, Option.map_eq_none_iff, ← Nat.not_lt,
      ← Registry.value?_isSome, Bool.not_eq_true, Option.isSome_eq_false_iff, Option.isNone_iff_eq_none]
  exact Nat.le_antisymm ((same _).mp (Nat.le_refl _)) ((same _).mpr (Nat.le_refl _))

/-- No request but the creation of a client changes who the clients are. -/
theorem Known.handle {request : Request} {reply : request.Reply} (known : Known events world.devices)
    (creates : ∀ client, request ≠ .newSubdevClient client)
    (answered : Edge.respond env request world = some (reply, after)) : Known events after.devices := by
  intro ref
  rw [← known ref]
  have changed := handle_devices answered
  generalize after.devices = devices at changed
  cases changed with
  | reads quiet same => rw [Registry.value?, Registry.value?, same.cells]
  | creates => exact absurd rfl (creates _)
  | pushes => rw [Registry.push_value?]
  | removes => simp [extractFromList]
  | refuses => rfl
  | flags present =>
    rw [Registry.modify_value?]
    split
    · rename_i same
      subst same
      rw [Registry.touch_value?, present]
      rfl
    · rw [Registry.touch_value?]

/-- What the requests of a job leave: the clients, the state of the gateway, and at most one call. -/
structure CallsMade (events : List SessionEvent) (job : Job) (state : Bool) (made : Nat)
    (machine : World × Bool × List HandlerCall) : Prop where
  clients : Known events machine.1.devices
  state : machine.2.1 = state
  counted : machine.2.2.length = made
  single : made ≤ 1
  permitted : ∀ called ∈ machine.2.2, Permitted events job called

theorem CallsMade.request {state : Bool} {machine next : World × Bool × List HandlerCall} {request : Request}
    {reply : request.Reply} (handled : CallsMade events job state made machine)
    (allowed : (handlerProtocol events job).allowed made request)
    (answered : (Edge.respond env).booked bookReport request machine = some (reply, next)) :
    ∃ after, (handlerProtocol events job).step made request reply after ∧
      CallsMade events job state after next := by
  obtain ⟨world, was, calls⟩ := machine
  obtain ⟨⟨reply, after⟩, served, entered⟩ := Option.bind_eq_some_iff.mp answered
  obtain ⟨entries, booked, same⟩ := Option.bind_eq_some_iff.mp entered
  cases same
  have silent (quiet : bookReport (was, calls) request reply = some (was, calls))
      (creates : ∀ client, request ≠ .newSubdevClient client) :
      CallsMade events job state made (after, entries) := by
    cases Option.some.inj (quiet.symm.trans booked)
    exact ⟨handled.clients.handle creates served, handled.state, handled.counted, handled.single,
      handled.permitted⟩
  cases request with
  | newSubdevClient | setEdgeState => cases allowed
  | invoke called =>
    cases booked
    obtain ⟨rfl, permits⟩ := allowed
    refine ⟨1, rfl, handled.clients.handle (by rintro _ ⟨⟩) served, handled.state, ?_, Nat.le_refl _, ?_⟩
    · simpa using handled.counted
    · intro other member
      rcases List.mem_append.mp member with before | last
      · exact handled.permitted other before
      · rw [List.mem_singleton.mp last]
        exact permits
  | _ => exact ⟨made, rfl, silent rfl (fun _ => nofun)⟩

theorem CallsMade.run {state was : Bool} {calls : List HandlerCall} {program : Program edge Unit} {value : Unit}
    (meets : Meets (handlerProtocol events job) program (fun _ _ => True) 0)
    (known : Known events world.devices)
    (ran : program.run ((Edge.respond env).booked bookReport) (world, state, []) =
      some (value, after, was, calls)) : ∃ made, CallsMade events job state made (after, was, calls) := by
  have begins : CallsMade events job state 0 (world, state, []) :=
    ⟨known, rfl, rfl, Nat.zero_le _, fun _ member => absurd member List.not_mem_nil⟩
  obtain ⟨made, handled, -⟩ := meets.run_invariant
    (fun _ _ _ _ _ handled allowed answered => CallsMade.request handled allowed answered) begins ran
  exact ⟨made, handled⟩

theorem registered_append (setter : SessionEvent → Option HandlerPtr) (event : SessionEvent) :
    registered setter (events ++ [event]) = (setter event).or (registered setter events) := by
  cases set : setter event <;> simp [registered, List.filterMap_append, set]

theorem roster_append (event : SessionEvent) :
    roster (events ++ [event]) = roster events ++ event.constructs.toList := by
  cases created : event.constructs <;> simp [roster, List.filterMap_append, created]

/-- A client that is created is the next one. -/
theorem Known.alloc (known : Known events devices) {event : SessionEvent} {client : SubdevClient}
    (offline : client.withOnline false = client) (creates : event.constructs = some client) :
    Known (events ++ [event]) (devices.alloc client) := by
  intro ref
  rw [roster_append, creates, Registry.alloc_value?, known.size]
  split
  · rename_i same
    simp [same, offline]
  · rename_i other
    rw [known ref]
    by_cases earlier : ref < (roster events).length
    · exact (List.getElem?_append_left earlier).symm
    · rw [List.getElem?_eq_none (by omega), List.getElem?_eq_none (by simp; omega)]

/-- An event that creates no client. -/
theorem Known.append (known : Known events devices) {event : SessionEvent} (none : event.constructs = none) :
    Known (events ++ [event]) devices := by
  intro ref
  rw [roster_append, none, known ref, Option.toList_none, List.append_nil]

section Alone

variable {state was : Bool} {calls : List HandlerCall} {value : Unit}

section Requests

variable {machine : World × Bool × List HandlerCall}

@[simp] theorem run_booked_malloc {site : AllocSite} :
    (malloc site).run ((Edge.respond env).booked bookReport) machine = some (env.malloc site, machine) := rfl

@[simp] theorem run_booked_logWrite {level : LogLevel} {format : String} {args : List Arg} :
    (logWrite level format args).run ((Edge.respond env).booked bookReport) machine = some ((), machine) := rfl

@[simp] theorem run_booked_free {resource : Resource} :
    (free resource).run ((Edge.respond env).booked bookReport) machine = some ((), machine) := rfl

@[simp] theorem run_booked_setEdgeState {state : Bool} :
    (setEdgeState state).run ((Edge.respond env).booked bookReport) machine =
      some ((), machine.1, state, machine.2.2) := rfl

@[simp] theorem run_booked_newSubdevClient {client : SubdevClient} :
    (newSubdevClient client).run ((Edge.respond env).booked bookReport) machine =
      some (machine.1.devices.size, { machine.1 with devices := machine.1.devices.alloc client },
        machine.2) := rfl

@[simp] theorem run_booked_fault :
    (fault : Program edge α).run ((Edge.respond env).booked bookReport) machine = none := rfl

end Requests

theorem construct_run {productSn deviceSn : Option CString}
    {normalMsgHandle rrpcMsgHandle : Option HandlerPtr} (known : Known events world.devices)
    (constructs : job = .duty (.handle (.device (.construct productSn deviceSn normalMsgHandle rrpcMsgHandle))))
    (ran : (job.program config).run ((Edge.respond env).booked bookReport) (world, state, []) =
      some (value, after, was, calls)) :
    Known (events ++ [.performs env job]) after.devices ∧ was = state ∧ calls = [] := by
  subst constructs
  have refused {program : Program edge Unit} {event : SessionEvent} (none : event.constructs = none)
      (nothing : program = pure ()) (ran : program.run ((Edge.respond env).booked bookReport)
        (world, state, []) = some (value, after, was, calls)) :
      Known (events ++ [event]) after.devices ∧ was = state ∧ calls = [] := by
    subst nothing
    cases ran
    exact ⟨known.append none, rfl, rfl⟩
  cases productSn with
  | none => exact refused rfl rfl ran
  | some productSn =>
    cases deviceSn with
    | none => exact refused rfl rfl ran
    | some deviceSn =>
      cases normalMsgHandle with
      | none => exact refused rfl rfl ran
      | some handler =>
        cases allocated : env.malloc .subdevClient with
        | false =>
          have created : SessionEvent.constructs (.performs env (.duty (.handle (.device (.construct
              (some productSn) (some deviceSn) (some handler) rrpcMsgHandle))))) = none := by
            simp [SessionEvent.constructs, allocated]
          simp [Job.program, Locking.Duty.program, Process.program, DeviceCall.program, edgeSubdevConstruct,
            allocated] at ran
          obtain ⟨rfl, rfl, rfl⟩ := ran
          exact ⟨known.append created, rfl, rfl⟩
        | true =>
          have created : SessionEvent.constructs (.performs env (.duty (.handle (.device (.construct
              (some productSn) (some deviceSn) (some handler) rrpcMsgHandle))))) =
              some (.constructed productSn deviceSn handler rrpcMsgHandle) := by
            simp [SessionEvent.constructs, allocated]
          simp [Job.program, Locking.Duty.program, Process.program, DeviceCall.program, edgeSubdevConstruct,
            allocated] at ran
          obtain ⟨rfl, rfl, rfl⟩ := ran
          exact ⟨known.alloc rfl created, rfl, rfl⟩

/-- A message about the gateway sets its state to what it reports, if it is understood. -/
theorem edgeState_run {msg : NatsMsg} (ran : (onEdgeStateMessage config msg).run
      ((Edge.respond env).booked bookReport) (world, state, []) = some (value, after, was, calls)) :
    after = world ∧ was = (stateReported config msg).getD state ∧ calls = [] := by
  unfold onEdgeStateMessage at ran
  rw [stateReported]
  cases parsed : config.cJsonParse msg.text with
  | none =>
    simp [parsed] at ran
    simp [ran]
  | some msgJson =>
    cases item : msgJson.getObjectItem "state" with
    | none =>
      simp [parsed, item] at ran
      simp [ran, item]
    | some stateItem =>
      cases printable : env.malloc .cJsonPrint with
      | false =>
        simp [parsed, item, printable] at ran
      | true =>
        simp [parsed, item, printable] at ran
        simp [ran, item]

/-- What an event does beside the setting of handlers. -/
structure Performed (config : DriverConfig) (events : List SessionEvent) (env : Env) (job : Job)
    (state : Bool) (machine : World × Bool × List HandlerCall) : Prop where
  clients : Known (events ++ [.performs env job]) machine.1.devices
  state : machine.2.1 = ((SessionEvent.performs env job).reports config).getD state
  single : machine.2.2.length ≤ 1
  permitted : ∀ called ∈ machine.2.2, Permitted events job called

/-- Work that creates no client and reports no state, and keeps to the handlers. -/
private theorem Performed.of_meets (created : (SessionEvent.performs env job).constructs = none)
    (silent : (SessionEvent.performs env job).reports config = none) {program : Program edge Unit}
    (meets : Meets (handlerProtocol events job) program (fun _ _ => True) 0)
    (known : Known events world.devices)
    (ran : program.run ((Edge.respond env).booked bookReport) (world, state, []) =
      some (value, after, was, calls)) : Performed config events env job state (after, was, calls) := by
  obtain ⟨made, handled⟩ := CallsMade.run meets known ran
  exact ⟨handled.clients.append created, by rw [silent]; exact handled.state,
    handled.counted.trans_le handled.single, handled.permitted⟩

theorem Performed.of_run (made : session.MadeOf config events)
    (ran : (job.program (session.configured config)).run ((Edge.respond env).booked bookReport)
      (session.world, session.edgeState, []) = some (value, after, was, calls)) :
    Performed config events env job session.edgeState (after, was, calls) := by
  have operation (operation : Operation) {program : Program edge Unit}
      (same : program = operation.program (session.configured config))
      (created : (SessionEvent.performs env job).constructs = none)
      (silent : (SessionEvent.performs env job).reports config = none)
      (ran : program.run ((Edge.respond env).booked bookReport) (session.world, session.edgeState, []) =
        some (value, after, was, calls)) :
      Performed config events env job session.edgeState (after, was, calls) :=
    .of_meets created silent (same ▸ operation_calls operation) made.clients ran
  cases job with
  | statusSync => exact .of_meets rfl rfl (calls_nothing handleStatusSync_discreet) made.clients ran
  | duty duty =>
    cases duty with
    | handle process =>
      cases process with
      | onBroadcastMessage msg =>
        exact .of_meets rfl rfl (onBroadcastMessage_calls made.topo made.status) made.clients ran
      | onLocalMessage msg => exact .of_meets rfl rfl onLocalMessage_calls made.clients ran
      | request inner => exact operation (.request inner) rfl rfl rfl ran
      | device inner =>
        cases inner with
        | construct productSn deviceSn normalMsgHandle rrpcMsgHandle =>
          obtain ⟨known, kept, none⟩ := construct_run made.clients rfl ran
          exact ⟨known, kept, by rw [none]; exact Nat.zero_le _, by rw [none]; exact fun _ => nofun⟩
        | loginSync client timeOutMs =>
          exact operation (.request (.loginSync (some client) timeOutMs)) rfl rfl rfl ran
        | logoutSync client timeOutMs =>
          exact operation (.request (.logoutSync (some client) timeOutMs)) rfl rfl rfl ran
        | loginAsync client => exact operation (.loginAsync (some client)) rfl rfl rfl ran
        | logoutAsync client => exact operation (.logoutAsync (some client)) rfl rfl rfl ran
        | dynamicAuth client productSecret timeOutMs =>
          exact operation (.request (.dynamicAuth (some client) productSecret timeOutMs)) rfl rfl rfl ran
    | onEdgeStateMessage msg =>
      obtain ⟨rfl, reported, none⟩ := edgeState_run ran
      rw [none]
      exact ⟨made.clients.append rfl, reported, Nat.zero_le _, fun _ => nofun⟩
    | onNatsMessage msg => exact .of_meets rfl rfl (onNatsMessage_calls made.nats) made.clients ran
    | publish topic data dataLen => exact operation (.publish topic data dataLen) rfl rfl rfl ran
    | natsPublish subject data dataLen =>
      refine .of_meets rfl rfl ?_ made.clients ran
      exact calls_then natsPublish_discreet fun _ => trivial

end Alone

/-! ### The client a message is for -/

section Addressing

variable {msg : NatsMsg} {called : HandlerCall} {client : Ref} {own : SubdevClient} {deviceSn topic : Option CString}
  {payload : Memory} {payloadLen : Int}

/-- What a run books of the handlers is what is observed of it. -/
theorem booked_observed {handler : Handler edge World} {program : Program edge α} {value : α} {state was : Bool}
    {calls made : List HandlerCall} (ran : program.run (handler.booked bookReport) (world, state, calls) =
      some (value, after, was, made)) : made = calls ++ program.observed handler invocation world := by
  induction program generalizing world state calls with
  | done result =>
    cases ran
    exact (List.append_nil _).symm
  | call request rest ih =>
    rw [run_call] at ran
    obtain ⟨⟨reply, next, entered⟩, answered, continued⟩ := Option.bind_eq_some_iff.mp ran
    obtain ⟨⟨result, shared⟩, served, entering⟩ := Option.bind_eq_some_iff.mp answered
    obtain ⟨entries, booked, same⟩ := Option.bind_eq_some_iff.mp entering
    cases same
    rw [ih reply continued, observed_call, served, ← List.append_assoc]
    refine congrArg (· ++ _) ?_
    cases request <;> cases booked <;> simp [invocation]

/-- A client that is found gets the handler it was given for the topic. -/
theorem dispatchLocal_addressed (found : world.devices.value? client = some own)
    (calls : called ∈ (dispatchLocal client topic payload payloadLen).observed (respond env) invocation world) :
    ∃ handler, called.target = some (client, own.chosenFor topic, handler) ∧
      own.handler? (own.chosenFor topic) = some handler := by
  rw [dispatchLocal.eq_def, observed_bind, run_readClient found] at calls
  have normally (chosen : own.chosenFor topic = .normal)
      (calls : called ∈ own.normalMsgHandle.toList.map fun handler =>
        HandlerCall.normal client handler topic payload payloadLen) :
      ∃ handler, called.target = some (client, own.chosenFor topic, handler) ∧
        own.handler? (own.chosenFor topic) = some handler := by
    obtain ⟨handler, given, rfl⟩ := List.mem_map.mp calls
    rw [chosen]
    exact ⟨handler, rfl, Option.mem_toList.mp given⟩
  cases rrpc : own.rrpcMsgHandle with
  | none =>
    refine normally ?_ ?_
    · cases topic <;> simp [SubdevClient.chosenFor, SubdevClient.chosen, rrpc]
    · cases normal : own.normalMsgHandle <;> simp [rrpc, normal, invocation] at calls ⊢; exact calls
  | some handler =>
    cases topic with
    | none => simp [rrpc, invocation, observed_bind] at calls
    | some name =>
      by_cases request : ascii "/rrpc/request/" <:+: name.bytes
      · have chosen : own.chosenFor (some name) = .rrpc := by
          simp [SubdevClient.chosenFor, SubdevClient.chosen, rrpc, request]
        have named := (edgeRrpcCheck_ok name).mpr request
        simp [rrpc, named, invocation, observed_bind] at calls
        subst calls
        rw [chosen]
        exact ⟨handler, rfl, rrpc⟩
      · have other : ¬ edgeRrpcCheck name.bytes = .ok := by rwa [edgeRrpcCheck_ok]
        refine normally ?_ ?_
        · simp [SubdevClient.chosenFor, SubdevClient.chosen, request]
        · cases normal : own.normalMsgHandle <;>
            simp [rrpc, other, normal, invocation] at calls ⊢; exact calls

theorem deliverLocal_addressed
    (calls : called ∈ (deliverLocal deviceSn topic payload payloadLen).observed (respond env) invocation world) :
    ∃ name client own handler, deviceSn = some name ∧
      world.devices.find? (subdevClientMatch name) = some client ∧ world.devices.value? client = some own ∧
      called.target = some (client, own.chosenFor topic, handler) ∧
      own.handler? (own.chosenFor topic) = some handler := by
  rw [deliverLocal, observed_bind, observed_findInList] at calls
  cases deviceSn with
  | none => rcases run_find_nobody env world with stopped | missed <;> simp [*, invocation] at calls
  | some name =>
    rw [run_find_connDevice] at calls
    cases searched : env.malloc (.listIterator .connDevice) with
    | false => simp [searched, invocation] at calls
    | true =>
      cases found : world.devices.find? (subdevClientMatch name) with
      | none => simp [searched, found, invocation] at calls
      | some client =>
        obtain ⟨own, present⟩ := Option.isSome_iff_exists.mp
          (Registry.value?_isSome.mpr (world.devices.entriesAllocated client (Registry.find?_mem found)))
        simp only [searched, ↓reduceIte, found, Option.map_some, Option.getD_some, invocation,
          Option.toList_none, List.nil_append] at calls
        have still : (searchList world.devices (subdevClientMatch name)).2.value? client = some own := by
          simpa [searchList] using present
        obtain ⟨handler, target, given⟩ := dispatchLocal_addressed still calls
        exact ⟨name, client, own, handler, rfl, found, present, target, given⟩

theorem onLocalMessage_addressed
    (calls : called ∈ (onLocalMessage config msg).observed (respond env) invocation world) :
    ∃ topic name client own handler, localAddress config msg = some (topic, some name) ∧
      world.devices.find? (subdevClientMatch name) = some client ∧ world.devices.value? client = some own ∧
      called.target = some (client, own.chosenFor topic, handler) ∧
      own.handler? (own.chosenFor topic) = some handler := by
  rw [onLocalMessage] at calls
  cases parsed : config.cJsonParse msg.text with
  | none => simp [parsed, invocation, observed_bind] at calls
  | some msgJson =>
    cases topicItem : msgJson.getObjectItem "topic" with
    | none => simp [parsed, topicItem, invocation, observed_bind] at calls
    | some topic =>
      cases snItem : msgJson.getObjectItem "deviceSN" with
      | none => simp [parsed, topicItem, snItem, invocation, observed_bind] at calls
      | some deviceSn =>
        cases payloadItem : msgJson.getObjectItem "payload" with
        | none => simp [parsed, topicItem, snItem, payloadItem, invocation, observed_bind] at calls
        | some code =>
          cases allocated : env.malloc (.buffer .msgBase64decode) with
          | false =>
            simp [parsed, topicItem, snItem, payloadItem, allocated, invocation, observed_bind] at calls
          | true =>
            have decodes := base64DecodeString_item config code
            cases decoded : fittingItem config code with
            | none =>
              simp [parsed, topicItem, snItem, payloadItem, allocated, decodes, decoded, invocation,
                observed_bind] at calls
            | some coded =>
              simp [parsed, topicItem, snItem, payloadItem, allocated, decodes, decoded, invocation,
                observed_bind] at calls
              obtain ⟨name, client, own, handler, named, found, present, target, given⟩ :=
                deliverLocal_addressed calls
              refine ⟨_, name, client, own, handler, ?_, found, present, target, given⟩
              simp [localAddress, parsed, topicItem, snItem, named]

/-- A handler that is called for a local message is one of the client it is addressed to. -/
theorem Known.addressed (known : Known events world.devices)
    (calls : called ∈ (onLocalMessage config msg).observed (respond env) invocation world) :
    ∃ topic deviceSn client own handler,
      AddressedTo config events world.devices msg called topic deviceSn client own handler := by
  obtain ⟨topic, name, client, own, handler, address, found, present, target, given⟩ :=
    onLocalMessage_addressed calls
  have created : (roster events)[client]? = some (own.withOnline false) := by
    rw [← known client, present]
    rfl
  exact ⟨topic, name, client, own.withOnline false, handler, address, found, created,
    by cases topic <;> exact target, by cases topic <;> exact given⟩

end Addressing

theorem reported_append (event : SessionEvent) :
    (((events ++ [event]).filterMap (SessionEvent.reports config)).getLast?).getD false =
      (event.reports config).getD (((events.filterMap (SessionEvent.reports config)).getLast?).getD false) := by
  cases reported : event.reports config <;> simp [List.filterMap_append, reported]

/-- A setter changes its own variable, if it is given a handler, and nothing else. -/
private theorem Session.MadeOf.setter (made : session.MadeOf config events) {event : SessionEvent}
    (created : event.constructs = none) (silent : event.reports config = none)
    (topo : next.edgeTopoHandle = event.setsTopo.or session.edgeTopoHandle)
    (status : next.edgeSubdevStatusHandle = event.setsStatus.or session.edgeSubdevStatusHandle)
    (nats : next.edgeNatsMsgHandle = event.setsNats.or session.edgeNatsMsgHandle)
    (world : next.world = session.world) (state : next.edgeState = session.edgeState) :
    next.MadeOf config (events ++ [event]) where
  topo := by rw [registered_append, topo, made.topo]
  status := by rw [registered_append, status, made.status]
  nats := by rw [registered_append, nats, made.nats]
  clients := world ▸ made.clients.append created
  state := by rw [reported_append, silent, state, made.state, Option.getD_none]

/-- One event: the session stays what its events made of it, and no handler is called but a
registered one, once, for a message. -/
theorem Session.MadeOf.step {called : List HandlerCall} (made : session.MadeOf config events)
    {event : SessionEvent} (stepped : session.step config event = some (called, next)) :
    next.MadeOf config (events ++ [event]) ∧ called.length ≤ 1 ∧
      ∀ handler ∈ called, ∃ env job, event = .performs env job ∧
        Registered config events session.world.devices job handler := by
  cases event with
  | edgeSetTopoNotifyHandle handle =>
    cases stepped
    refine ⟨made.setter rfl rfl ?_ ?_ ?_ ?_ ?_, Nat.zero_le _, fun _ => nofun⟩ <;> cases handle <;> rfl
  | edgeSetSubdevStatusHandle handle =>
    cases stepped
    refine ⟨made.setter rfl rfl ?_ ?_ ?_ ?_ ?_, Nat.zero_le _, fun _ => nofun⟩ <;> cases handle <;> rfl
  | edgeSetNatsMsgHandle handle =>
    cases stepped
    refine ⟨made.setter rfl rfl ?_ ?_ ?_ ?_ ?_, Nat.zero_le _, fun _ => nofun⟩ <;> cases handle <;> rfl
  | performs env job =>
    obtain ⟨⟨value, after, was, calls⟩, ran, same⟩ := Option.bind_eq_some_iff.mp stepped
    cases same
    rw [handle, Handler.booked_guarded] at ran
    have answered := (run_of_guarded ran).2
    obtain ⟨clients, state, single, permits⟩ := Performed.of_run made answered
    refine ⟨⟨?_, ?_, ?_, clients, ?_⟩, single,
      fun handler member => ⟨env, job, rfl, permits handler member, ?_⟩⟩
    · rw [registered_append, ← made.topo]
      rfl
    · rw [registered_append, ← made.status]
      rfl
    · rw [registered_append, ← made.nats]
      rfl
    · rw [reported_append, ← made.state]
      exact state
    · rintro msg rfl
      rw [booked_observed answered] at member
      exact made.clients.addressed member

theorem Session.MadeOf.run {more : List SessionEvent} (made : session.MadeOf config events)
    (ran : session.run config more = some next) : next.MadeOf config (events ++ more) := by
  induction more generalizing session events with
  | nil =>
    cases ran
    rwa [List.append_nil]
  | cons event rest ih =>
    obtain ⟨⟨called, middle⟩, stepped, continued⟩ := Option.bind_eq_some_iff.mp ran
    rw [List.append_cons]
    exact ih (made.step stepped).1 continued

theorem Session.madeOf_initial : Session.initial.MadeOf config [] :=
  ⟨rfl, rfl, rfl, fun _ => rfl, rfl⟩

end Steps

/-! ## Whom a session calls, and what it reports -/

/-- A gateway that is online, and then receives an rrpc request for a device. -/
private def gatewayConfig : DriverConfig :=
  { DriverConfig.plain with
    cJsonParse := fun text =>
      if text = ascii "online" then some (.object [(.literal "state", .bool true)])
      else if text = ascii "request" then
        some (.object [(.literal "topic", .string (.literal "/$system/p1/d2/rrpc/request/9")),
          (.literal "deviceSN", .string (.literal "d2")), (.literal "payload", .string (.literal "e30="))])
      else none
    cJsonPrint := fun item => match item with
      | .bool true => .literal "true"
      | _ => .literal "" }

private def joins (client : Ref) (deviceSn : CString) (handler : HandlerPtr) : List SessionEvent :=
  [.performs .calm (.duty (.handle (.device (.construct (some (.literal "p1")) (some deviceSn)
      (some handler) (some (handler + 1)))))),
    .performs .calm (.duty (.handle (.device (.loginAsync client))))]

private def startedSession : List SessionEvent :=
  .performs .calm (.duty (.onEdgeStateMessage ⟨.literal "edge.state.reply", ascii "online"⟩)) ::
    (joins 0 (.literal "d1") 10 ++ joins 1 (.literal "d2") 20)

private def requested : SessionEvent :=
  .performs .calm (.duty (.handle (.onLocalMessage ⟨.literal "edge.local.d2", ascii "request"⟩)))

/-- In any session an event calls one handler at most, for a message, and the one registered for
it before. -/
theorem handlers_registered (config : DriverConfig) (events : List SessionEvent) (event : SessionEvent)
    (session next : Session) (called : List HandlerCall)
    (ran : Session.initial.run config events = some session)
    (stepped : session.step config event = some (called, next)) : called.length ≤ 1 ∧
      ∀ handler ∈ called, ∃ env job, event = .performs env job ∧
        Registered config events session.world.devices job handler :=
  ((Session.madeOf_initial.run ran).step stepped).2

theorem handlers_registered_rrpc : ∃ session next made,
    Session.initial.run gatewayConfig startedSession = some session ∧
    session.step gatewayConfig requested = some ([made], next) ∧ made.target = some (1, .rrpc, 21) ∧
    ∃ env job, requested = .performs env job ∧
      Registered gatewayConfig startedSession session.world.devices job made := by
  have outcome : ((Session.initial.run gatewayConfig startedSession).bind fun session =>
      (session.step gatewayConfig requested).map fun answer => answer.1.map HandlerCall.target) =
        some [some (1, .rrpc, 21)] := by
    decide +kernel
  obtain ⟨session, ran, answered⟩ := Option.bind_eq_some_iff.mp outcome
  obtain ⟨⟨called, next⟩, stepped, targets⟩ := Option.map_eq_some_iff.mp answered
  obtain ⟨made, rfl, target⟩ := List.map_eq_singleton_iff.mp targets
  have registers := handlers_registered gatewayConfig startedSession requested session next [made] ran stepped
  exact ⟨session, next, made, ran, stepped, target, registers.2 made (List.mem_singleton.mpr rfl)⟩

/-- The state of the gateway is what the last message that was understood reported. -/
theorem online_status (config : DriverConfig) (events : List SessionEvent) (session : Session)
    (ran : Session.initial.run config events = some session) : session.edgeGetOnlineStatus =
      ((events.filterMap (SessionEvent.reports config)).getLast?).getD false :=
  (Session.madeOf_initial.run ran).state

theorem online_status_online : ∃ session, Session.initial.run gatewayConfig startedSession = some session ∧
    session.edgeGetOnlineStatus = true := by
  have outcome : (Session.initial.run gatewayConfig startedSession).isSome = true := by decide +kernel
  obtain ⟨session, ran⟩ := Option.isSome_iff_exists.mp outcome
  refine ⟨session, ran, (online_status gatewayConfig startedSession session ran).trans ?_⟩
  decide +kernel

end IotstackDriver.Edge
