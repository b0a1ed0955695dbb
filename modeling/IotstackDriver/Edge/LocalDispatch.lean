import IotstackDriver.Edge.Traces
import IotstackDriver.Edge.DeviceCalls

/-! Which handler `_on_local_message` calls. -/

namespace IotstackDriver.Edge

open Libc Support

inductive HandlerKind where
  | normal
  | rrpc
  deriving DecidableEq

/-- The client a local handler call goes to, and which of its handlers it is. -/
def HandlerCall.target : HandlerCall → Option (Ref × HandlerKind × HandlerPtr)
  | normal client handler _ _ _ => some (client, .normal, handler)
  | rrpc client handler _ _ _ => some (client, .rrpc, handler)
  | _ => none

def SubdevClient.handler? (own : SubdevClient) : HandlerKind → Option HandlerPtr
  | .normal => own.normalMsgHandle
  | .rrpc => own.rrpcMsgHandle

/-- The rrpc handler when it is set and the topic names an rrpc request, otherwise the
normal one. -/
def SubdevClient.chosen (own : SubdevClient) (topic : CString) : HandlerKind :=
  if own.rrpcMsgHandle.isSome ∧ ascii "/rrpc/request/" <:+: topic.bytes then .rrpc else .normal

/-- The handlers called for a message are those its serial number asks for. -/
structure Dispatched (deviceSn topic : CString) (devices : Registry SubdevClient)
    (calls : List HandlerCall) : Prop where
  atMostOne : calls.length ≤ 1
  listed : ∀ call ∈ calls, ∃ client own kind handler, call.target = some (client, kind, handler) ∧
    client ∈ devices.entries ∧ devices.value? client = some own ∧ own.deviceSn = deviceSn ∧
    own.handler? kind = some handler
  first : ∀ client own,
    devices.entries.find? (fun ref => serial devices ref == some deviceSn) = some client →
    devices.value? client = some own → ∃ call handler, calls = [call] ∧
      call.target = some (client, own.chosen topic, handler) ∧
      own.handler? (own.chosen topic) = some handler

/-- The calls a completed run makes are as dispatch asks for. -/
def DispatchesLocally (config : DriverConfig) (env : Env) (world : World) (msg : NatsMsg)
    (deviceSn topic : CString) : Prop :=
  ∃ final calls, trace (handle env) invocation (onLocalMessage config msg) world [] = some ((), final, calls) ∧
    Dispatched deviceSn topic world.devices calls

/-- The first client whose serial number begins with the one asked for, if there is
one, has that very serial number. -/
def FirstMatchExact (deviceSn : CString) (devices : Registry SubdevClient) : Prop :=
  ∀ client, devices.find? (subdevClientMatch deviceSn) = some client →
    serial devices client = some deviceSn

variable {config : DriverConfig} {env : Env} {world : World} {devices : Registry SubdevClient}
  {client : Ref} {own : SubdevClient} {deviceSn topic : CString}

theorem edgeRrpcCheck_ok (topic : CString) :
    edgeRrpcCheck topic.bytes = .ok ↔ ascii "/rrpc/request/" <:+: topic.bytes := by
  rw [← strstr_isSome_iff, edgeRrpcCheck]
  cases strstr topic.bytes (ascii "/rrpc/request/") with
  | none => simp [EdgeStatus.ok, EdgeStatus.err]
  | some rest => simp

/-- A found client gets exactly one call. -/
private theorem trace_dispatchLocal (env : Env) (found : world.devices.value? client = some own)
    (payload : Memory) (payloadLen : Int) : ∃ call handler,
      trace (respond env) invocation (dispatchLocal client (some topic) payload payloadLen) world [] =
        some ((), { world with devices := world.devices.touch client }, [call]) ∧
      call.target = some (client, own.chosen topic, handler) ∧
      own.handler? (own.chosen topic) = some handler := by
  obtain ⟨normal, normalSet⟩ := Option.isSome_iff_exists.mp own.normalSet
  have quiet : invocation (.readClient client) = none := rfl
  have called : ∀ call, invocation (.invoke call) = some call := fun _ => rfl
  cases rrpc : own.rrpcMsgHandle with
  | none =>
    refine ⟨.normal client normal (some topic) payload payloadLen, normal, ?_, ?_, ?_⟩
    · simp [dispatchLocal, trace_bind, trace_readClient, found, rrpc, normalSet, trace_invoke, quiet,
        called]
    · simp [SubdevClient.chosen, rrpc, HandlerCall.target]
    · simp [SubdevClient.chosen, rrpc, SubdevClient.handler?, normalSet]
  | some handler =>
    by_cases request : ascii "/rrpc/request/" <:+: topic.bytes
    · refine ⟨.rrpc client handler (some topic) payload payloadLen, handler, ?_, ?_, ?_⟩
      · have named := (edgeRrpcCheck_ok topic).mpr request
        simp [dispatchLocal, trace_bind, trace_readClient, found, rrpc, named, trace_invoke,
          trace_pure, quiet, called]
      · simp [SubdevClient.chosen, rrpc, request, HandlerCall.target]
      · simp [SubdevClient.chosen, rrpc, request, SubdevClient.handler?]
    · refine ⟨.normal client normal (some topic) payload payloadLen, normal, ?_, ?_, ?_⟩
      · have other : ¬ edgeRrpcCheck topic.bytes = .ok := by rwa [edgeRrpcCheck_ok]
        simp [dispatchLocal, trace_bind, trace_readClient, found, rrpc, other, normalSet,
          trace_invoke, quiet, called]
      · simp [SubdevClient.chosen, request, HandlerCall.target]
      · simp [SubdevClient.chosen, request, SubdevClient.handler?, normalSet]

private theorem trace_deliver_none (topic : CString) (payload : Memory) (payloadLen : Int)
    (missing : env.malloc (.listIterator .connDevice) = true →
      world.devices.find? (subdevClientMatch deviceSn) = none) : ∃ final,
      trace (respond env) invocation (deliverLocal (some deviceSn) (some topic) payload payloadLen) world [] =
        some ((), final, []) := by
  rw [deliverLocal, trace_bind, trace_findInList]
  split
  · rename_i searched
    exact ⟨_, by rw [missing searched]; rfl⟩
  · exact ⟨_, rfl⟩

private theorem trace_deliver_some (topic : CString) (payload : Memory) (payloadLen : Int)
    (searched : env.malloc (.listIterator .connDevice) = true)
    (hit : world.devices.find? (subdevClientMatch deviceSn) = some client)
    (present : world.devices.value? client = some own) : ∃ final call handler,
      trace (respond env) invocation (deliverLocal (some deviceSn) (some topic) payload payloadLen) world [] =
        some ((), final, [call]) ∧
        call.target = some (client, own.chosen topic, handler) ∧
        own.handler? (own.chosen topic) = some handler := by
  rw [deliverLocal, trace_bind, trace_findInList, if_pos searched, hit]
  let after : World :=
    { world with devices := (searchList world.devices (subdevClientMatch deviceSn)).2 }
  have still : after.devices.value? client = some own := by
    simpa [after, searchList] using present
  obtain ⟨call, handler, called, target, belongs⟩ :=
    trace_dispatchLocal env still payload payloadLen
  exact ⟨_, call, handler, called, target, belongs⟩

/-- The message parses, and its three members are strings. -/
def LocalMessage (config : DriverConfig) (msg : NatsMsg) (topic deviceSn payload : CString) : Prop :=
  ∃ document, config.cJsonParse msg.text = some document ∧
    document.getObjectItem "topic" = some (.string topic) ∧
    document.getObjectItem "deviceSN" = some (.string deviceSn) ∧
    document.getObjectItem "payload" = some (.string payload)

variable {msg : NatsMsg} {payload : CString}

private theorem fittingItem_isSome : (fittingItem config (.string payload)).isSome = true ↔
    ∃ coded, base64Decode config.charSign (some payload.bytes) payload.strlen = some coded ∧
      coded.Fits := by
  simp [fittingItem, decodedItem, CJson.valuestring, Option.any_eq_true]

/-- A message for which no buffer is found is dropped. -/
private theorem trace_refused (message : LocalMessage config msg topic deviceSn payload)
    (refused : env.malloc (.buffer .msgBase64decode) = false) :
    trace (respond env) invocation (onLocalMessage config msg) world [] = some ((), world, []) := by
  obtain ⟨document, parsed, topicItem, serialItem, payloadItem⟩ := message
  simp [onLocalMessage, trace_bind, trace_logWrite, parsed, topicItem, serialItem, payloadItem,
    trace_malloc, refused, trace_free, trace_pure, invocation]

/-- Any other message is decoded and delivered. -/
private theorem trace_accepted (message : LocalMessage config msg topic deviceSn payload)
    (allocated : env.malloc (.buffer .msgBase64decode) = true) :
    trace (respond env) invocation (onLocalMessage config msg) world [] =
      (fittingItem config (.string payload)).bind fun coded =>
        trace (respond env) invocation (deliverLocal (some deviceSn) (some topic)
          (Memory.zero.storeAll coded.stores) coded.ret) world [] := by
  obtain ⟨document, parsed, topicItem, serialItem, payloadItem⟩ := message
  have decodes := base64DecodeString_item config (.string payload)
  rw [CJson.valuestring] at decodes
  cases decoded : fittingItem config (.string payload) with
  | none =>
    simp [onLocalMessage, trace_bind, trace_logWrite, parsed, topicItem, serialItem, payloadItem,
      trace_malloc, allocated, invocation, CJson.valuestring, decodes, decoded, trace_fault]
  | some coded =>
    simp only [onLocalMessage, trace_bind, trace_logWrite, parsed, topicItem, serialItem, payloadItem,
      trace_malloc, allocated, invocation, CJson.valuestring, decodes, decoded, trace_pure,
      trace_free, Option.bind_some, Option.toList_none, List.append_nil, Bool.not_true,
      Bool.false_eq_true, ↓reduceIte]
    cases trace (respond env) invocation (deliverLocal (some deviceSn) (some topic)
      (Memory.zero.storeAll coded.stores) coded.ret) world [] <;> rfl

private theorem dispatched_nil_iff (topic : CString) : Dispatched deviceSn topic devices [] ↔
    ∀ client ∈ devices.entries, serial devices client ≠ some deviceSn := by
  constructor
  · intro dispatched client member same
    have listed : (devices.entries.find? fun ref => serial devices ref == some deviceSn).isSome =
        true := List.find?_isSome.mpr ⟨client, member, by simp [same]⟩
    obtain ⟨first, hit⟩ := Option.isSome_iff_exists.mp listed
    have named := List.find?_some hit
    obtain ⟨own, present, -⟩ := Option.map_eq_some_iff.mp (beq_iff_eq.mp named)
    obtain ⟨call, handler, called, -⟩ := dispatched.first first own hit present
    cases called
  · intro absent
    refine ⟨Nat.zero_le 1, fun call member => absurd member List.not_mem_nil, ?_⟩
    intro client own hit
    have named := List.find?_some hit
    exact absurd (beq_iff_eq.mp named) (absent client (List.mem_of_find?_eq_some hit))

/-- The first of several clients, by a weaker test that it passes in full. -/
private theorem find?_exact (hit : devices.find? (subdevClientMatch deviceSn) = some client)
    (same : serial devices client = some deviceSn) :
    devices.entries.find? (fun ref => serial devices ref == some deviceSn) = some client := by
  obtain ⟨-, before, after, split, unmatched⟩ := Registry.find?_eq_some_iff.mp hit
  refine List.find?_eq_some_iff_append.mpr ⟨by simp [same], before, after, split, ?_⟩
  intro earlier member
  have miss := unmatched earlier member
  rw [matching_eq] at miss
  simp only [Bool.not_eq_eq_eq_not, Bool.not_true, beq_eq_false_iff_ne, ne_eq]
  intro equal
  simp [equal, strncmp_strlen_eq_zero_iff] at miss

private theorem dispatched_single_iff {call : HandlerCall} {handler : HandlerPtr}
    (hit : devices.find? (subdevClientMatch deviceSn) = some client)
    (present : devices.value? client = some own)
    (target : call.target = some (client, own.chosen topic, handler))
    (belongs : own.handler? (own.chosen topic) = some handler) :
    Dispatched deviceSn topic devices [call] ↔ serial devices client = some deviceSn := by
  constructor
  · intro dispatched
    obtain ⟨other, otherOwn, kind, ptr, aimed, -, found, same, -⟩ :=
      dispatched.listed call (List.mem_singleton.mpr rfl)
    cases target.symm.trans aimed
    simp [serial, found, same]
  · intro same
    have own_same : own.deviceSn = deviceSn := by simpa [serial, present] using same
    refine ⟨Nat.le_refl 1, ?_, ?_⟩
    · intro other member
      rw [List.mem_singleton.mp member]
      exact ⟨client, own, own.chosen topic, handler, target, Registry.find?_mem hit, present,
        own_same, belongs⟩
    · intro first firstOwn firstHit firstPresent
      cases (find?_exact hit same).symm.trans firstHit
      cases present.symm.trans firstPresent
      exact ⟨call, handler, rfl, target, belongs⟩

private theorem completed_iff {result : Option (Unit × World × List HandlerCall)}
    {property : List HandlerCall → Prop} (ran : result = some ((), final, calls)) :
    (∃ final calls, result = some ((), final, calls) ∧ property calls) ↔ property calls := by
  simp [ran]

/-- The payload decodes within the codec's table and its buffer if it is decoded at all, and
the lookup, if it is reached, finds the addressed client or none; if it is not reached, no
listed client is addressed. -/
def FindsAddressed (config : DriverConfig) (env : Env) (devices : Registry SubdevClient)
    (deviceSn payload : CString) : Prop :=
  (env.malloc (.buffer .msgBase64decode) = true →
    ∃ coded, base64Decode config.charSign (some payload.bytes) payload.strlen = some coded ∧
      coded.Fits) ∧
  if env.malloc (.buffer .msgBase64decode) = true ∧ env.malloc (.listIterator .connDevice) = true then
    FirstMatchExact deviceSn devices
  else ∀ client ∈ devices.entries, serial devices client ≠ some deviceSn

/-- A local message reaches the handler it asks for, and no other, exactly when its logs fit
and the lookup by the leading characters of serial numbers finds the addressed client. -/
theorem onLocalMessage_dispatches_iff (config : DriverConfig) (env : Env) (world : World)
    (msg : NatsMsg) (topic deviceSn payload : CString)
    (message : LocalMessage config msg topic deviceSn payload) :
    DispatchesLocally config env world msg deviceSn topic ↔
      LogsFit env (onLocalMessage config msg) world ∧
        FindsAddressed config env world.devices deviceSn payload := by
  simp only [DispatchesLocally, trace_handle_iff, and_assoc, exists_and_left]
  refine and_congr_right fun _ => ?_
  rw [FindsAddressed]
  cases allocated : env.malloc (.buffer .msgBase64decode) with
  | false =>
    rw [completed_iff (trace_refused message allocated), dispatched_nil_iff]
    simp
  | true =>
    rw [trace_accepted message allocated, ← fittingItem_isSome]
    cases decoded : fittingItem config (.string payload) with
    | none => simp
    | some coded =>
      simp only [Option.bind_some, Option.isSome_some, implies_true, true_and]
      let buffer := Memory.zero.storeAll coded.stores
      cases searched : env.malloc (.listIterator .connDevice) with
      | false =>
        obtain ⟨final, called⟩ := trace_deliver_none topic buffer coded.ret fun found =>
          absurd (searched.symm.trans found) Bool.false_ne_true
        rw [completed_iff called, dispatched_nil_iff]
        simp
      | true =>
        simp only [↓reduceIte]
        cases hit : world.devices.find? (subdevClientMatch deviceSn) with
        | none =>
          obtain ⟨final, called⟩ := trace_deliver_none topic buffer coded.ret fun _ => hit
          rw [completed_iff called, dispatched_nil_iff]
          refine ⟨fun _ client found => ?_, fun _ client member same => ?_⟩
          · cases hit.symm.trans found
          · have miss := List.find?_eq_none.mp hit client member
            simp [matching_eq, same, strncmp_strlen_eq_zero_iff] at miss
        | some client =>
          have inside := world.devices.entriesAllocated client (Registry.find?_mem hit)
          obtain ⟨own, present⟩ := Option.isSome_iff_exists.mp (Registry.value?_isSome.mpr inside)
          obtain ⟨final, call, handler, called, target, belongs⟩ :=
            trace_deliver_some topic buffer coded.ret searched hit present
          rw [completed_iff called, dispatched_single_iff hit present target belongs]
          refine ⟨fun same other found => ?_, fun exactMatch => exactMatch client hit⟩
          cases hit.symm.trans found
          exact same

def helloText : Bytes :=
  ascii "\x7b\"topic\": \"/t\", \"deviceSN\": \"dev1\", \"payload\": \"aGk=\"\x7d"

/-- A driver whose parser knows one message, addressed to `dev1`. -/
def helloConfig : DriverConfig :=
  { DriverConfig.plain with
    cJsonParse := fun text =>
      if text = helloText then
        some (.object [(.literal "topic", .string (.literal "/t")),
          (.literal "deviceSN", .string (.literal "dev1")),
          (.literal "payload", .string (.literal "aGk="))])
      else none }

def helloMsg : NatsMsg := ⟨.literal "edge.local.d1", helloText⟩

theorem hello_message :
    LocalMessage helloConfig helloMsg (.literal "/t") (.literal "dev1") (.literal "aGk=") :=
  ⟨_, rfl, rfl, rfl, rfl⟩

/-- Only `dev10` is logged in. -/
private def otherWorld : World where
  requests := .empty
  devices := (Registry.empty.alloc
    ((SubdevClient.constructed (.literal "p1") (.literal "dev10") 1 none).withOnline true)).push 0

theorem onLocalMessage_dispatches_iff_hello :
    DispatchesLocally helloConfig .calm otherWorld helloMsg (.literal "dev1") (.literal "/t") ↔
      LogsFit .calm (onLocalMessage helloConfig helloMsg) otherWorld ∧ FindsAddressed helloConfig .calm otherWorld.devices (.literal "dev1") (.literal "aGk=") :=
  onLocalMessage_dispatches_iff helloConfig .calm otherWorld helloMsg (.literal "/t")
    (.literal "dev1") (.literal "aGk=") hello_message

/-- A message for `dev1` reaches the handler of `dev10`. -/
theorem onLocalMessage_calls_other : ¬ ∀ config env world msg topic deviceSn payload,
    LocalMessage config msg topic deviceSn payload →
      DispatchesLocally config env world msg deviceSn topic := by
  intro always
  obtain ⟨final, calls, ran, dispatched⟩ :=
    always helloConfig .calm otherWorld helloMsg _ _ _ hello_message
  have outcome : (trace (handle .calm) invocation (onLocalMessage helloConfig helloMsg) otherWorld []).map
      (fun result => result.2.2.map HandlerCall.target) = some [some (0, .normal, 1)] := by
    decide +kernel
  rw [ran] at outcome
  obtain ⟨call, rfl, target⟩ := List.map_eq_singleton_iff.mp (Option.some.inj outcome)
  obtain ⟨client, own, kind, handler, aimed, -, present, same, -⟩ :=
    dispatched.listed call (List.mem_singleton.mpr rfl)
  cases target.symm.trans aimed
  cases present
  exact absurd (congrArg CString.bytes same) (by decide)

end IotstackDriver.Edge
