import IotstackDriver.Edge.BroadcastReply
import IotstackDriver.Edge.Decoder
import IotstackDriver.Edge.DeviceCalls
import IotstackDriver.Edge.Observed

/-! The members of a received document that the callbacks use without a check. -/

namespace IotstackDriver.Edge

open Libc Support Program

/-- A use of a `NULL` pointer: an access through it, a `%s` for it, a comparison with it
in a search, or the topic given to a client's handler. -/
def usesNull : Request → Bool
  | .fault => true
  | .logWrite _ _ args => args.contains .null
  | .find .connDevice none => true
  | .invoke (.normal _ _ none _ _) | .invoke (.rrpc _ _ none _ _) => true
  | _ => false

/-- A handling that finishes, uses no `NULL` pointer, and keeps the decoded text inside
its buffer. -/
structure HandledSafely (env : Env) (callback : Program edge Unit) (decoded : Option Coded)
    (world : World) : Prop where
  finishes : ∃ final, callback.run (handle env) world = some ((), final)
  nonNull : callback.observed (handle env) (fun request => if usesNull request then some () else none)
    world = []
  inside : ∀ coded, decoded = some coded → coded.Fits

/-- The payload is a string that decodes inside the buffer. -/
def PayloadReadable (config : DriverConfig) (payload : CJson) (rest : Coded → Prop) : Prop :=
  ∃ coded, decodedItem config payload = some coded ∧ coded.Fits ∧ rest coded

/-- The members come one after the other: the first that is missing ends the handling,
and any other has to be a string. -/
def LocalReadable (config : DriverConfig) (msg : NatsMsg) : Prop :=
  ∀ msgJson, config.cJsonParse msg.text = some msgJson →
    ∀ topic, msgJson.getObjectItem "topic" = some topic → topic.valuestring.isSome = true ∧
      ∀ deviceSn, msgJson.getObjectItem "deviceSN" = some deviceSn →
        deviceSn.valuestring.isSome = true ∧
        ∀ payload, msgJson.getObjectItem "payload" = some payload →
          PayloadReadable config payload fun _ => True

/-- A decoded reply, if it is JSON, has a `RequestID` that is a string. -/
def ReplyReadable (config : DriverConfig) (decoded : Bytes) : Prop :=
  ∀ reply, config.cJsonParse decoded = some reply →
    ((reply.getObjectItem "RequestID").bind CJson.valuestring).isSome = true

def BroadcastReadable (config : DriverConfig) (msg : NatsMsg) : Prop :=
  ∀ msgJson, config.cJsonParse msg.text = some msgJson →
    ∀ topic, msgJson.getObjectItem "topic" = some topic → ∃ name, topic.valuestring = some name ∧
      ∀ payload, msgJson.getObjectItem "payload" = some payload →
        PayloadReadable config payload fun coded =>
          (noticeTopics.any fun notice => (strstr name.bytes notice).isSome) = true ∨
            ReplyReadable config coded.text

variable {config : DriverConfig} {env : Env} {world : World} {msg : NatsMsg}

theorem handledSafely_iff {callback : Program edge Unit} {decoded : Option Coded} :
    HandledSafely env callback decoded world ↔ LogsFit env callback world ∧
      Finishes (respond env) usesNull callback (fun _ _ => True) world ∧
        ∀ coded, decoded = some coded → coded.Fits := by
  rw [← and_assoc, LogsFit, ← finishes_guarded, ← handle, finishes_iff]
  constructor
  · rintro ⟨⟨final, ran⟩, nonNull, inside⟩
    exact ⟨⟨⟨(), final, ran, trivial⟩, nonNull⟩, inside⟩
  · rintro ⟨⟨⟨_, final, ran, -⟩, nonNull⟩, inside⟩
    exact ⟨⟨final, ran⟩, nonNull, inside⟩

@[simp] theorem null_eq_printed {text : Option CString} : Arg.null = printed text ↔ text = none := by
  cases text <;> simp [printed]

theorem valuestring_of_decoded {item : CJson} (decoded : decodedItem config item = some coded) :
    item.valuestring ≠ none := by
  intro missing
  simp [decodedItem, missing] at decoded

theorem ordered_of_decoded {item : CJson} (decoded : decodedItem config item = some coded) :
    coded.Ordered 0 := by
  obtain ⟨text, -, decoded⟩ := Option.bind_eq_some_iff.mp decoded
  exact base64Decode_ordered decoded

/-- The decoder runs on the string of an item, and on nothing else, and has to stay inside
its buffer. -/
private theorem finishes_decode {payload : CJson} {post : Coded → World → Prop} :
    Finishes (respond env) usesNull (base64DecodeString config payload.valuestring) post world ↔
      ∃ coded, decodedItem config payload = some coded ∧ coded.Fits ∧ post coded world := by
  rw [base64DecodeString_item, fittingItem]
  cases decodedItem config payload with
  | none => simp
  | some coded =>
    rw [Option.filter_some]
    by_cases fits : coded.Fits <;> simp [fits]

section Local

private theorem finishes_dispatchLocal {client : Ref} {topic : CString} {payload : Memory}
    {payloadLen : Int} (inside : client < world.devices.size) :
    Finishes (respond env) usesNull (dispatchLocal client (some topic) payload payloadLen)
      (fun _ _ => True) world := by
  obtain ⟨own, found⟩ := Option.isSome_iff_exists.mp (Registry.value?_isSome.mpr inside)
  rw [dispatchLocal.eq_def, finishes_bind, finishes_readClient found]
  refine ⟨rfl, ?_⟩
  cases own.rrpcMsgHandle with
  | none => cases own.normalMsgHandle <;> simp [usesNull]
  | some handler =>
    by_cases named : edgeRrpcCheck topic.bytes = .ok
    · simp [named, usesNull]
    · cases own.normalMsgHandle <;> simp [named, usesNull]

private theorem finishes_deliverLocal (allocates : ∀ site, env.malloc site = true)
    {deviceSn topic : CString} {payload : Memory} {payloadLen : Int} :
    Finishes (respond env) usesNull (deliverLocal (some deviceSn) (some topic) payload payloadLen)
      (fun _ _ => True) world := by
  rw [deliverLocal, finishes_bind, finishes_find_connDevice allocates]
  refine ⟨rfl, ?_⟩
  cases found : world.devices.find? (subdevClientMatch deviceSn) with
  | none => simp [usesNull, printed]
  | some client =>
    refine finishes_dispatchLocal ?_
    simpa [searchList] using world.devices.entriesAllocated client (Registry.find?_mem found)

/-- Once the topic and the serial number are read, the rest depends on the payload. -/
private theorem local_iff (allocates : ∀ site, env.malloc site = true) :
    (Finishes (respond env) usesNull (onLocalMessage config msg) (fun _ _ => True) world ∧
      ∀ coded, localDecoded config msg = some coded → coded.Fits) ↔ LocalReadable config msg := by
  unfold onLocalMessage LocalReadable localDecoded
  cases parsed : config.cJsonParse msg.text with
  | none => simp [usesNull, NatsMsg.logArgs]
  | some msgJson =>
    cases topicItem : msgJson.getObjectItem "topic" with
    | none => simp [usesNull, NatsMsg.logArgs, topicItem]
    | some topic =>
      cases topicText : topic.valuestring with
      | none => simp [usesNull, NatsMsg.logArgs, topicItem, topicText]
      | some name =>
        cases snItem : msgJson.getObjectItem "deviceSN" with
        | none => simp [usesNull, NatsMsg.logArgs, topicItem, topicText, snItem]
        | some deviceSn =>
          cases snText : deviceSn.valuestring with
          | none => simp [usesNull, NatsMsg.logArgs, topicItem, topicText, snItem, snText]
          | some sn =>
            cases payloadItem : msgJson.getObjectItem "payload" with
            | none =>
              simp [usesNull, NatsMsg.logArgs, topicItem, topicText, snItem, snText, payloadItem]
            | some payload =>
              cases decoded : decodedItem config payload with
              | none =>
                simp [usesNull, NatsMsg.logArgs, topicItem, topicText, snItem, snText, payloadItem,
                  PayloadReadable, decoded, allocates, finishes_decode]
              | some coded =>
                have string := valuestring_of_decoded decoded
                simp [usesNull, NatsMsg.logArgs, topicItem, topicText, snItem, snText, payloadItem,
                  PayloadReadable, decoded, finishes_decode, finishes_deliverLocal allocates, string]
                exact fun fits _ => fits

end Local

section Broadcast

private theorem finishes_notice {handler : Option HandlerPtr} {call : HandlerPtr → HandlerCall}
    (given : ∀ handler, usesNull (.invoke (call handler)) = false) :
    Finishes (respond env) usesNull (forM handler fun handler => invoke (call handler))
      (fun _ _ => True) world := by
  cases handler with
  | none => trivial
  | some handler => exact finishes_invoke.mpr ⟨given handler, trivial⟩

/-- A store inside the buffer of an allocated entry goes through. -/
private theorem finishes_write {node : Ref} {stores : List (Nat × UInt8)} {post : Unit → World → Prop}
    (present : node < world.requests.size) (inside : ∀ store ∈ stores, store.1 < natsMsgMaxLen)
    (continues : ∀ after : World, node < after.requests.size → post () after) :
    Finishes (respond env) usesNull (writePayload node stores) post world := by
  obtain ⟨own, found⟩ := Option.isSome_iff_exists.mp (Registry.value?_isSome.mpr present)
  rw [finishes_writePayload found (by simpa using inside)]
  exact ⟨rfl, continues _ (by simpa using present)⟩

private theorem finishes_read {node : Ref} {look : Look} {post : Bytes → World → Prop}
    (present : node < world.requests.size) (continues : ∀ payload after, post payload after) :
    Finishes (respond env) usesNull (readPayload node look) post world := by
  obtain ⟨own, found⟩ := Option.isSome_iff_exists.mp (Registry.value?_isSome.mpr present)
  rw [finishes_readPayload found]
  exact ⟨rfl, continues _ _⟩

/-- A text that fits is copied to the entry it is for, with its NUL. -/
private theorem finishes_copy {node : Ref} {decoded : Bytes} (present : node < world.requests.size)
    (fits : decoded.length < natsMsgMaxLen) : Finishes (respond env) usesNull (do
      writePayload node (consecutive 0 (decoded.take natsMsgMaxLen))
      writePayload node [(decoded.length, 0)]
      let payload ← readPayload node .log
      logWrite .debug "msg_parse_str->payload:%s" [.str payload]) (fun _ _ => True) world := by
  have inside : ∀ store ∈ consecutive 0 (decoded.take natsMsgMaxLen), store.1 < natsMsgMaxLen := by
    intro store member
    have bound := mem_consecutive member
    rw [List.length_take] at bound
    omega
  rw [finishes_bind]
  refine finishes_write present inside fun copied stillThere => ?_
  rw [finishes_bind]
  refine finishes_write stillThere (by simpa using fits) fun ended stillThere => ?_
  rw [finishes_bind]
  refine finishes_read stillThere fun payload after => ?_
  simp [usesNull]

private theorem storeReply_iff (allocates : ∀ site, env.malloc site = true) {decoded : Bytes}
    (fits : decoded.length < natsMsgMaxLen) :
    Finishes (respond env) usesNull (storeReply config decoded) (fun _ _ => True) world ↔
      ReplyReadable config decoded := by
  rw [storeReply.eq_def, ReplyReadable]
  cases parsed : config.cJsonParse decoded with
  | none => simp [usesNull]
  | some reply =>
    cases idItem : reply.getObjectItem "RequestID" with
    | none => simp [idItem]
    | some item =>
      cases idText : item.valuestring with
      | none => simp [idItem, idText]
      | some requestIdStr =>
        simp [idItem, idText, finishes_find_requestid allocates, usesNull]
        cases found : world.requests.find? (msgParseMatch (replyRequestId config requestIdStr)) with
        | none => simp [usesNull]
        | some node =>
          refine finishes_copy ?_ fits
          simpa [searchList] using world.requests.entriesAllocated node (Registry.find?_mem found)

/-- Where the topic is a string, the rest depends on the payload and on what it decodes to. -/
private theorem broadcast_iff (allocates : ∀ site, env.malloc site = true) :
    (Finishes (respond env) usesNull (onBroadcastMessage config msg) (fun _ _ => True) world ∧
      ∀ coded, broadcastDecoded config msg = some coded → coded.Fits) ↔
        BroadcastReadable config msg := by
  unfold onBroadcastMessage BroadcastReadable broadcastDecoded
  cases parsed : config.cJsonParse msg.text with
  | none => simp [usesNull, NatsMsg.logArgs]
  | some msgJson =>
    cases topicItem : msgJson.getObjectItem "topic" with
    | none => simp [usesNull, NatsMsg.logArgs, topicItem]
    | some topic =>
      cases topicText : topic.valuestring with
      | none => simp [usesNull, NatsMsg.logArgs, topicItem, topicText]
      | some name =>
        cases payloadItem : msgJson.getObjectItem "payload" with
        | none => simp [usesNull, NatsMsg.logArgs, topicItem, topicText, payloadItem]
        | some payload =>
          cases decoded : decodedItem config payload with
          | none =>
            simp [usesNull, NatsMsg.logArgs, topicItem, topicText, payloadItem, PayloadReadable,
              decoded, allocates, finishes_decode]
          | some coded =>
            have string := valuestring_of_decoded decoded
            have reply (fits : coded.Fits) :
                Finishes (respond env) usesNull (storeReply config coded.text) (fun _ _ => True) world ↔
                  ReplyReadable config coded.text :=
              storeReply_iff allocates
                (Nat.lt_of_le_of_lt (ordered_of_decoded decoded).text_length fits)
            simp [usesNull, NatsMsg.logArgs, topicItem, topicText, payloadItem, PayloadReadable,
              decoded, finishes_decode, string, allocates]
            rw [and_comm]
            refine and_congr_right fun fits => ?_
            rw [and_iff_right fits, reply fits]
            apply broadcast_branches (motive := fun chosen => chosen ↔ _)
            · intro notice
              have known := List.any_eq_true.mp notice
              refine ⟨?_, ?_, ?_, ?_⟩ <;>
                exact iff_of_true (finishes_notice fun _ => rfl) (.inl known)
            · intro other
              have unknown := mt List.any_eq_true.mpr (Bool.not_eq_true _ ▸ other)
              exact (or_iff_right unknown).symm

end Broadcast

private theorem edgeState_finishes (allocates : ∀ site, env.malloc site = true) :
    Finishes (respond env) usesNull (onEdgeStateMessage config msg) (fun _ _ => True) world := by
  unfold onEdgeStateMessage
  cases parsed : config.cJsonParse msg.text with
  | none => simp [usesNull, NatsMsg.logArgs]
  | some msgJson =>
    cases stateItem : msgJson.getObjectItem "state" <;>
      simp [usesNull, NatsMsg.logArgs, stateItem, allocates]

/-- The callbacks finish without a use of `NULL` exactly on messages whose members are
there and strings where they are used, and whose logs fit; the state callback does on every
message whose logs fit. -/
theorem callbacks_safe_iff (config : DriverConfig) (env : Env) (world : World) (msg : NatsMsg)
    (allocates : ∀ site, env.malloc site = true) :
    (HandledSafely env (onLocalMessage config msg) (localDecoded config msg) world ↔
      LogsFit env (onLocalMessage config msg) world ∧ LocalReadable config msg) ∧
    (HandledSafely env (onBroadcastMessage config msg) (broadcastDecoded config msg) world ↔
      LogsFit env (onBroadcastMessage config msg) world ∧ BroadcastReadable config msg) ∧
    (HandledSafely env (onEdgeStateMessage config msg) none world ↔
      LogsFit env (onEdgeStateMessage config msg) world) := by
  refine ⟨?_, ?_, ?_⟩
  · rw [handledSafely_iff, local_iff allocates]
  · rw [handledSafely_iff, broadcast_iff allocates]
  · rw [handledSafely_iff]
    exact and_iff_left ⟨edgeState_finishes allocates, fun coded missing => by cases missing⟩

/-- A message for a device, and a broadcast of an empty object. -/
private def deviceText : Bytes :=
  ascii "\x7b\"topic\":\"/t\",\"deviceSN\":\"dev1\",\"payload\":\"aGk=\"\x7d"
private def emptyReplyText : Bytes := ascii "\x7b\"topic\":\"/t\",\"payload\":\"e30=\"\x7d"

private def deviceDocument : CJson := .object [(.literal "topic", .string (.literal "/t")),
  (.literal "deviceSN", .string (.literal "dev1")), (.literal "payload", .string (.literal "aGk="))]

private def emptyReplyDocument : CJson := .object [(.literal "topic", .string (.literal "/t")),
  (.literal "payload", .string (.literal "e30="))]

/-- A parser that knows both messages and the empty object. -/
private def receivingConfig : DriverConfig :=
  { DriverConfig.plain with
    cJsonParse := fun text =>
      if text = deviceText then some deviceDocument
      else if text = emptyReplyText then some emptyReplyDocument
      else if text = ascii "\x7b\x7d" then some (.object [])
      else none }

theorem callbacks_safe_iff_device : HandledSafely .calm
    (onLocalMessage receivingConfig ⟨.literal "edge.local.d1", deviceText⟩)
    (localDecoded receivingConfig ⟨.literal "edge.local.d1", deviceText⟩) constructed := by
  refine (callbacks_safe_iff receivingConfig .calm constructed _ fun _ => rfl).1.mpr ⟨by decide +kernel, ?_⟩
  intro msgJson parsed
  have known : receivingConfig.cJsonParse deviceText = some deviceDocument := rfl
  cases known.symm.trans parsed
  intro topic topicItem
  cases topicItem
  refine ⟨rfl, fun deviceSn snItem => ?_⟩
  cases snItem
  refine ⟨rfl, fun payload payloadItem => ?_⟩
  cases payloadItem
  exact ⟨⟨2, consecutive 0 (ascii "hi")⟩, rfl, by unfold Coded.Fits; decide, trivial⟩

/-- A broadcast reply without a `RequestID` stops the driver. -/
theorem reply_without_id_stops : ¬ ∀ config env world msg, (∀ site, env.malloc site = true) →
    HandledSafely env (onLocalMessage config msg) (localDecoded config msg) world ∧
      HandledSafely env (onBroadcastMessage config msg) (broadcastDecoded config msg) world ∧
      HandledSafely env (onEdgeStateMessage config msg) none world := by
  intro always
  obtain ⟨-, broadcast, -⟩ := always receivingConfig .calm .initial
    ⟨.literal "edge.local.broadcast", emptyReplyText⟩ fun _ => rfl
  obtain ⟨final, ran⟩ := broadcast.finishes
  have stops : ((onBroadcastMessage receivingConfig ⟨.literal "edge.local.broadcast", emptyReplyText⟩).run
      (handle .calm) .initial).isNone = true := by
    decide +kernel
  rw [ran] at stops
  cases stops

end IotstackDriver.Edge
