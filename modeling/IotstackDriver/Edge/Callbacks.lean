import IotstackDriver.Edge.Client

/-! The message callbacks of `edge.c`. -/

namespace IotstackDriver.Edge

open Libc Support

/-- A received message: its subject, and its data, which NATS ends with a NUL. -/
structure NatsMsg where
  subject : CString
  data : Bytes

/-- The arguments of a `"%s - %.*s"` log of a message. -/
def NatsMsg.logArgs (msg : NatsMsg) : List Arg :=
  [.str msg.subject.bytes, .int msg.data.length, .str msg.data]

/-- The text `cJSON_Parse` and `base64_decode` see, up to the first NUL. -/
def NatsMsg.text (msg : NatsMsg) : Bytes := msg.data.takeWhile (· != 0)

/-- The argument of `%s` for a string that may be `NULL`. -/
def printed : Option CString → Arg
  | some text => .str text.bytes
  | none => .null

/-- `base64_decode` into the zero-filled `msg_base64decode`. A text that does not fit is
stored past the buffer, or is read past it in the log that follows. -/
def base64DecodeMsg (config : DriverConfig) (text : Bytes) (inlen : Int) : Program edge Coded :=
  match base64Decode config.charSign (some text) inlen with
  | some coded => if coded.Fits then return coded else fault
  | none => fault

theorem base64DecodeMsg_fits {config : DriverConfig} {text : Bytes} {inlen : Int} {coded : Coded}
    (decoded : base64Decode config.charSign (some text) inlen = some coded) (fits : coded.Fits) :
    base64DecodeMsg config text inlen = pure coded := by
  rw [base64DecodeMsg, decoded]
  exact if_pos fits

theorem base64DecodeMsg_long {config : DriverConfig} {text : Bytes} {inlen : Int} {coded : Coded}
    (decoded : base64Decode config.charSign (some text) inlen = some coded) (long : ¬ coded.Fits) :
    base64DecodeMsg config text inlen = fault := by
  rw [base64DecodeMsg, decoded]
  exact if_neg long

theorem base64DecodeMsg_none {config : DriverConfig} {text : Bytes} {inlen : Int}
    (decoded : base64Decode config.charSign (some text) inlen = none) :
    base64DecodeMsg config text inlen = fault := by
  rw [base64DecodeMsg, decoded]

/-- The decoding stops, or what is decoded fits. -/
theorem base64DecodeMsg_cases (config : DriverConfig) (text : Bytes) (inlen : Int) :
    base64DecodeMsg config text inlen = fault ∨
      ∃ coded, base64Decode config.charSign (some text) inlen = some coded ∧ coded.Fits ∧
        base64DecodeMsg config text inlen = pure coded := by
  cases decoded : base64Decode config.charSign (some text) inlen with
  | none => exact .inl (base64DecodeMsg_none decoded)
  | some coded =>
    by_cases fits : coded.Fits
    · exact .inr ⟨coded, rfl, fits, base64DecodeMsg_fits decoded fits⟩
    · exact .inl (base64DecodeMsg_long decoded fits)

/-- The same for the whole of a string. -/
def base64DecodeString (config : DriverConfig) : Option CString → Program edge Coded
  | none => fault
  | some text => base64DecodeMsg config text.bytes text.strlen

/-- The choice between a found client's handlers. -/
def dispatchLocal (client : Ref) (topic : Option CString) (payload : Memory) (payloadLen : Int) :
    Program edge Unit := do
  let own ← readClient client
  match own.rrpcMsgHandle with
  | some handler =>
    match topic with
    | none => fault
    | some name =>
      if edgeRrpcCheck name.bytes = .ok then
        invoke (.rrpc client handler topic payload payloadLen)
        return
  | none => pure ()
  match own.normalMsgHandle with
  | some handler => invoke (.normal client handler topic payload payloadLen)
  | none => return

/-- The lookup of the addressed client, up to `end`. -/
def deliverLocal (deviceSn topic : Option CString) (payload : Memory) (payloadLen : Int) :
    Program edge Unit := do
  match ← findInList .connDevice deviceSn with
  | none => logWrite .warn "cannot find conn device[%s]" [printed deviceSn]
  | some client => dispatchLocal client topic payload payloadLen

def onLocalMessage (config : DriverConfig) (msg : NatsMsg) : Program edge Unit := do
  logWrite .debug "Received local msg: %s - %.*s" msg.logArgs
  match config.cJsonParse msg.text with
  | none =>
    logWrite .error "on local message json parse error: [%s]" [.str (config.cJsonErrorPtr msg.text)]
    free .msg
  | some msgJson =>
    match msgJson.getObjectItem "topic" with
    | none =>
      logWrite .error "cannot find topic, illegal msg" []
      free .msgJson
      free .msg
    | some topic =>
      logWrite .debug "_on_broadcast_message topic:%s" [printed topic.valuestring]
      match msgJson.getObjectItem "deviceSN" with
      | none =>
        logWrite .error "cannot find topic, illegal msg" []
        free .msgJson
        free .msg
      | some deviceSn =>
        logWrite .debug "_on_local_message deviceSN:%s" [printed deviceSn.valuestring]
        match msgJson.getObjectItem "payload" with
        | none =>
          logWrite .error "cannot find payload, illegal msg" []
          free .msgJson
          free .msg
        | some msgBase64code =>
          logWrite .debug "_on_local_message msg_base64code:%s" [printed msgBase64code.valuestring]
          if !(← malloc (.buffer .msgBase64decode)) then
            logWrite .error "msg_base64decode malloc fail!" []
            free .msgJson
            free .msg
            return
          let coded ← base64DecodeString config msgBase64code.valuestring
          logWrite .debug "_on_local_message msg_base64decode:%s" [.str coded.text]
          deliverLocal deviceSn.valuestring topic.valuestring (Memory.zero.storeAll coded.stores)
            coded.ret
          free .msgJson
          free (.buffer .msgBase64decode)
          free .msg

/-- The id a reply names: `atol` of its `RequestID`, cut to 32 bits. -/
def replyRequestId (config : DriverConfig) (requestId : CString) : UInt32 :=
  UInt32.ofInt (atol config.longBits requestId.bytes)

/-- The last branch of `_on_broadcast_message`: match a decoded reply to a waiting
request and copy it into the request's buffer. -/
def storeReply (config : DriverConfig) (decoded : Bytes) : Program edge Unit := do
  match config.cJsonParse decoded with
  | none =>
    logWrite .error "on broadcast message json parse msg_base64 error: [%s]\n"
      [.str (config.cJsonErrorPtr decoded)]
  | some msgBase64decodeJson =>
    match (msgBase64decodeJson.getObjectItem "RequestID").map CJson.valuestring with
    | none => fault
    | some requestIdStr =>
      logWrite .debug "request_id_str:%s" [printed requestIdStr]
      match requestIdStr with
      | none => fault
      | some requestIdStr =>
        let requestId := replyRequestId config requestIdStr
        free .msgBase64decodeJson
        match ← findInList .requestid requestId with
        | none => logWrite .warn "cannot find msg request_id[%ld]" [.int requestId.toNat]
        | some node =>
          -- the copy ends with a store of its own, at the length of the whole text
          writePayload node (consecutive 0 (decoded.take natsMsgMaxLen))
          writePayload node [(decoded.length, 0)]
          let payload ← readPayload node .log
          logWrite .debug "msg_parse_str->payload:%s" [.str payload]

def onBroadcastMessage (config : DriverConfig) (msg : NatsMsg) : Program edge Unit := do
  logWrite .debug "Received broadcast msg: %s - %.*s" msg.logArgs
  match config.cJsonParse msg.text with
  | none =>
    logWrite .error "on broadcast message json parse msg error: [%s]"
      [.str (config.cJsonErrorPtr msg.text)]
    free .msg
  | some msgJson =>
    match msgJson.getObjectItem "topic" with
    | none =>
      logWrite .error "cannot find topic, illegal msg" []
      free .msgJson
      free .msg
    | some topic =>
      logWrite .debug "_on_broadcast_message topic:%s" [printed topic.valuestring]
      match msgJson.getObjectItem "payload" with
      | none =>
        logWrite .error "cannot find payload, illegal msg" []
        free .msgJson
        free .msg
      | some msgBase64code =>
        logWrite .debug "_on_broadcast_message msg_base64code:%s" [printed msgBase64code.valuestring]
        if !(← malloc (.buffer .msgBase64decode)) then
          logWrite .error "msg_base64decode malloc fail!" []
          free .msgJson
          free .msg
          return
        let coded ← base64DecodeString config msgBase64code.valuestring
        logWrite .debug "_on_broadcast_message msg_base64decode:%s" [.str coded.text]
        match topic.valuestring with
        | none => fault
        | some topic =>
          let payload := Memory.zero.storeAll coded.stores
          if (strstr topic.bytes (ascii "/subdev/topo/notify/add")).isSome then
            logWrite .debug "add topo" []
            config.edgeTopoHandle.forM fun handler => invoke (.topoNotify handler .add payload)
          else if (strstr topic.bytes (ascii "/subdev/topo/notify/delete")).isSome then
            logWrite .debug "delete topo" []
            config.edgeTopoHandle.forM fun handler => invoke (.topoNotify handler .delete payload)
          else if (strstr topic.bytes (ascii "/subdev/enable")).isSome then
            logWrite .debug "enable subdev" []
            config.edgeSubdevStatusHandle.forM fun handler =>
              invoke (.subdevStatus handler .enable payload)
          else if (strstr topic.bytes (ascii "/subdev/disable")).isSome then
            logWrite .debug "disable subdev" []
            config.edgeSubdevStatusHandle.forM fun handler =>
              invoke (.subdevStatus handler .disable payload)
          else
            storeReply config coded.text
        free .msgJson
        free (.buffer .msgBase64decode)
        free .msg

/-- A topic with one of these parts is a notice for the user, not a reply. -/
def noticeTopics : List Bytes :=
  [ascii "/subdev/topo/notify/add", ascii "/subdev/topo/notify/delete", ascii "/subdev/enable",
    ascii "/subdev/disable"]

/-- What holds of the four notices and of a reply holds of the branch taken. -/
theorem broadcast_branches {β : Sort u} {motive : β → Prop} {topic : Bytes}
    {add delete enable disable reply : β}
    (notices : (noticeTopics.any fun notice => (strstr topic notice).isSome) = true →
      motive add ∧ motive delete ∧ motive enable ∧ motive disable)
    (replies : (noticeTopics.any fun notice => (strstr topic notice).isSome) = false →
      motive reply) :
    motive (if (strstr topic (ascii "/subdev/topo/notify/add")).isSome then add
      else if (strstr topic (ascii "/subdev/topo/notify/delete")).isSome then delete
      else if (strstr topic (ascii "/subdev/enable")).isSome then enable
      else if (strstr topic (ascii "/subdev/disable")).isSome then disable
      else reply) := by
  simp only [noticeTopics, List.any_cons, List.any_nil, Bool.or_false] at notices replies
  split
  · rename_i found
    exact (notices (by simp [found])).1
  · split
    · rename_i found
      exact (notices (by simp [found])).2.1
    · split
      · rename_i found
        exact (notices (by simp [found])).2.2.1
      · split
        · rename_i found
          exact (notices (by simp [found])).2.2.2
        · rename_i first second third fourth
          exact replies (by simp [first, second, third, fourth])

def onEdgeStateMessage (config : DriverConfig) (msg : NatsMsg) : Program edge Unit := do
  logWrite .debug "Received state msg: %s - %.*s" msg.logArgs
  match config.cJsonParse msg.text with
  | none =>
    logWrite .error "on broadcast message json parse error: [%s]" [.str (config.cJsonErrorPtr msg.text)]
    free .msg
  | some msgJson =>
    match msgJson.getObjectItem "state" with
    | none =>
      logWrite .error "cannot find state, illegal msg" []
      free .msg
    | some state =>
      let stateStr := if ← malloc .cJsonPrint then some (config.cJsonPrint state) else none
      logWrite .debug "_on_edge_statue_message state:%s" [printed stateStr]
      match stateStr with
      | none => fault
      | some stateStr =>
        setEdgeState (strncmp stateStr (.literal "true") 4 == 0)
        -- the item alone, not the document it is part of
        free .stateItem
        free .msg

def onNatsMessage (config : DriverConfig) (msg : NatsMsg) : Program edge Unit := do
  logWrite .debug "Received local msg: %s - %.*s" msg.logArgs
  if !(← malloc (.buffer .msgBase64decode)) then
    logWrite .error "msg_base64decode malloc fail!" []
    return
  let coded ← base64DecodeMsg config msg.data msg.data.length
  logWrite .debug "_on_local_message msg_base64decode:%s" [.str coded.text]
  config.edgeNatsMsgHandle.forM fun handler =>
    invoke (.nats handler msg.subject (Memory.zero.storeAll coded.stores) coded.ret)
  free (.buffer .msgBase64decode)

/-- The logs of `_on_local_message` on its way to the search. -/
def localLogs (msg : NatsMsg) (topic deviceSn payload : Option CString) (coded : Coded) :
    List (String × List Arg) :=
  [("Received local msg: %s - %.*s", msg.logArgs), ("_on_broadcast_message topic:%s", [printed topic]),
    ("_on_local_message deviceSN:%s", [printed deviceSn]),
    ("_on_local_message msg_base64code:%s", [printed payload]),
    ("_on_local_message msg_base64decode:%s", [.str coded.text])]

/-- The logs of `_on_broadcast_message` on its way to the branches. -/
def broadcastLogs (msg : NatsMsg) (topic payload : Option CString) (coded : Coded) :
    List (String × List Arg) :=
  [("Received broadcast msg: %s - %.*s", msg.logArgs),
    ("_on_broadcast_message topic:%s", [printed topic]),
    ("_on_broadcast_message msg_base64code:%s", [printed payload]),
    ("_on_broadcast_message msg_base64decode:%s", [.str coded.text])]

/-- The logs of `_on_nats_message`, where it gets a buffer. -/
def natsLogs (msg : NatsMsg) (coded : Coded) : List (String × List Arg) :=
  [("Received local msg: %s - %.*s", msg.logArgs),
    ("_on_local_message msg_base64decode:%s", [.str coded.text])]

/-- What `base64_decode` makes of the string of an item. -/
def decodedItem (config : DriverConfig) (item : CJson) : Option Coded := do
  let text ← item.valuestring
  base64Decode config.charSign (some text.bytes) text.strlen

/-- The same, where `msg_base64decode` holds it. -/
def fittingItem (config : DriverConfig) (payload : CJson) : Option Coded :=
  (decodedItem config payload).filter fun coded => coded.Fits

theorem base64DecodeString_item (config : DriverConfig) (payload : CJson) :
    base64DecodeString config payload.valuestring =
      match fittingItem config payload with
      | some coded => pure coded
      | none => fault := by
  rw [fittingItem, decodedItem]
  cases payload.valuestring with
  | none => rfl
  | some text =>
    rw [Option.bind_eq_bind, Option.bind_some]
    cases decoded : base64Decode config.charSign (some text.bytes) text.strlen with
    | none => exact base64DecodeMsg_none decoded
    | some coded =>
      by_cases fits : coded.Fits
      · rw [Option.filter_some, if_pos (decide_eq_true fits)]
        exact base64DecodeMsg_fits decoded fits
      · rw [Option.filter_some, if_neg (mt of_decide_eq_true fits)]
        exact base64DecodeMsg_long decoded fits

/-- What a message handled by `_on_local_message` is decoded to, if it comes to that. -/
def localDecoded (config : DriverConfig) (msg : NatsMsg) : Option Coded := do
  let msgJson ← config.cJsonParse msg.text
  let _ ← msgJson.getObjectItem "topic"
  let _ ← msgJson.getObjectItem "deviceSN"
  decodedItem config (← msgJson.getObjectItem "payload")

/-- The same for `_on_broadcast_message`. -/
def broadcastDecoded (config : DriverConfig) (msg : NatsMsg) : Option Coded := do
  let msgJson ← config.cJsonParse msg.text
  let _ ← msgJson.getObjectItem "topic"
  decodedItem config (← msgJson.getObjectItem "payload")

end IotstackDriver.Edge
