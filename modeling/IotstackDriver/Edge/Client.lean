import IotstackDriver.Edge.Driver

/-! The client side: `client.c` and the list helpers of `common.c`. A `return`
or `goto end` of the source ends the branch that models it. -/

namespace IotstackDriver.Edge

open Libc Support

/-- What the driver is built for and set up with. cJSON is a parameter: the parser, the
text at which it gave up on an input it rejects, and the printer. -/
structure DriverConfig where
  charSign : CharSign
  longBits : Nat
  cJsonParse : Bytes → Option CJson
  cJsonErrorPtr : Bytes → Bytes
  cJsonPrint : CJson → CString
  driverId : CString
  edgeRouterSubject : Bytes
  edgeTopoHandle : Option HandlerPtr
  edgeSubdevStatusHandle : Option HandlerPtr
  edgeNatsMsgHandle : Option HandlerPtr

def genRequestid : Program edge UInt32 := do
  let high ← rand .high
  let low ← rand .low
  return UInt32.ofNat high <<< 16 ||| UInt32.ofNat low

def addToList (list : RegistryList) (node : Ref) : Program edge EdgeStatus := do
  if !(← malloc (.listNode list)) then return .err
  push list node
  return .ok

def findInList (list : RegistryList) (key : list.Key) : Program edge (Option Ref) := find list key

def removeFromList (list : RegistryList) (node : Ref) : Program edge EdgeStatus := do
  if ← remove list node then return .ok
  return .err

/-- The string in a zero-filled buffer after the stores of a codec call, which fill
its first positions in order. The buffer's size does not limit it here. -/
def Coded.text (coded : Coded) : Bytes :=
  (Memory.zero.storeAll coded.stores).cString (coded.stores.length + 1)

/-- What the codec makes fits a buffer of `NATS_MSG_MAX_LEN` bytes, with the NUL that ends it. -/
def Coded.Fits (coded : Coded) : Prop := coded.stores.length < natsMsgMaxLen

instance (coded : Coded) : Decidable coded.Fits := Nat.decLt ..

/-- What `base64_encode` makes of the data, where its buffer holds it. A text that does not fit
is stored past the buffer, or is read past it where it is used. -/
def encodedMsg (config : DriverConfig) (data : Option Memory) (dataLen : Int) : Option Coded :=
  (base64Encode config.charSign data dataLen).filter fun coded => coded.Fits

theorem encodedMsg_eq_some {config : DriverConfig} {data : Option Memory} {dataLen : Int} {coded : Coded} :
    encodedMsg config data dataLen = some coded ↔
      base64Encode config.charSign data dataLen = some coded ∧ coded.Fits := by
  rw [encodedMsg, Option.filter_eq_some_iff, decide_eq_true_eq]

/-- `base64_encode` into a zero-filled buffer, and the string it holds then. -/
def base64Text (config : DriverConfig) (data : Memory) (dataLen : Int) : Program edge Bytes :=
  match encodedMsg config (some data) dataLen with
  | some coded => return coded.text
  | none => fault

def publishAndFlush (subj str : Bytes) : Program edge EdgeStatus := do
  let status ← publishString subj str
  return status.or (← flush)

def normalMsgFormat : String :=
  "\x7b\"src\": \"local\",\"topic\": \"%s\",\"payload\": \"%s\"\x7d"

def edgePublish (config : DriverConfig) (topic : Option CString) (data : Option Memory)
    (dataLen : Int) : Program edge EdgeStatus := do
  match topic, data with
  | some topic, some data =>
    if !(← malloc (.buffer .normalPayloadBase64)) then
      logWrite .error "normal_payload_base64 malloc fail!" []
      return .noMemory
    let normalPayloadBase64 ← base64Text config data dataLen
    logWrite .debug "send data:%s" [.str (data.cString natsMsgMaxLen)]
    if !(← malloc (.buffer .normalMsg)) then
      logWrite .error "normal_msg malloc fail!" []
      free (.buffer .normalPayloadBase64)
      return .noMemory
    let normalMsg :=
      snprintf natsMsgMaxLen normalMsgFormat [.str topic.bytes, .str normalPayloadBase64]
    logWrite .debug "normal_msg:%s" [.str normalMsg]
    let status ← publishAndFlush config.edgeRouterSubject normalMsg
    free (.buffer .normalPayloadBase64)
    free (.buffer .normalMsg)
    return status
  | _, _ => return .invalidArg

def natsPublish (config : DriverConfig) (subject : CString) (data : Option Memory) (dataLen : Int) :
    Program edge EdgeStatus := do
  if !(← malloc (.buffer .normalPayloadBase64)) then
    logWrite .error "normal_payload_base64 malloc fail!" []
    return .noMemory
  match encodedMsg config data dataLen with
  | some coded => publishAndFlush subject.bytes coded.text
  | none => fault

def edgeSubdevConstruct (productSn deviceSn : Option CString)
    (normalMsgHandle rrpcMsgHandle : Option HandlerPtr) : Program edge (Option Ref) := do
  match productSn, deviceSn, normalMsgHandle with
  | some productSn, some deviceSn, some handler =>
    if !(← malloc .subdevClient) then
      logWrite .error "malloc pst_subdev_client fail!" []
      return none
    let client ← newSubdevClient (.constructed productSn deviceSn handler rrpcMsgHandle)
    return some client
  | _, _, _ => return none

/-- `none` is `EDGE_NO_MEMORY`; an entry without a payload buffer is lost. -/
def msgParseStrInit (requestId : UInt32) : Program edge (Option Ref) := do
  if !(← malloc .msgParse) then
    logWrite .error "msgParse_str malloc fail!" []
    return none
  if !(← malloc .msgParsePayload) then
    logWrite .error "msg_parse_str->payload malloc fail!" []
    return none
  return some (← newMsgParse requestId)

/-- The waiting loop with so many rounds left; the result is the rounds not made. -/
def pollPayload (node : Ref) (timeOutMs : UInt32) : Nat → Program edge Nat
  | 0 => return 0
  | remaining + 1 => do
    let payload ← readPayload node (.poll (remaining + 1))
    if payload.length = 0 then
      sleep (timeOutMs / 10)
      pollPayload node timeOutMs remaining
    else return remaining + 1

def waitPayloadIsTimeout (node : Ref) (timeOutMs : UInt32) : Program edge EdgeStatus := do
  let remaining ← pollPayload node timeOutMs 10
  if remaining = 0 then
    let payload ← readPayload node (.poll 0)
    if payload.length = 0 then return .invalidTimeout
  return .ok

/-- The tail the operations that expect a `RetCode` share: wait for the reply,
parse it, and go on by its code. -/
def awaitRetCode (config : DriverConfig) (node : Ref) (timeOutMs : UInt32) (timeoutLog : String)
    (accepted rejected : Program edge EdgeStatus) : Program edge EdgeStatus := do
  let status ← waitPayloadIsTimeout node timeOutMs
  if status = .invalidTimeout then
    logWrite .error timeoutLog []
    return status
  let payload ← readPayload node .parse
  match config.cJsonParse payload with
  | none =>
    logWrite .error "json parse msg_parse_str payload error: [%s]"
      [.str (config.cJsonErrorPtr payload)]
    return .err
  | some msgParseStrPayload =>
    match msgParseStrPayload.getObjectItem "RetCode" with
    | none => fault
    | some retCode => if retCode.valueint = 0 then accepted else rejected

def dynRegFormat : String :=
  "\x7b\"src\": \"local\",\"topic\": \"/$system/%s/%s/subdev/register\",\"payload\": \"%s\"\x7d"

def dynRegFormatPayload : String :=
  "\x7b\"RequestID\": \"%u\",\"Params\": [\x7b\"ProductSN\": \"%s\",\"DeviceSN\": \"%s\",\"ProductSecret\": \"%s\"\x7d]\x7d"

/-- The registration request itself: `none` after a failed allocation, which leaves
the entry in `requestid_list`. -/
def dynRegPublish (config : DriverConfig) (client : Ref) (productSecret : CString)
    (requestId : UInt32) : Program edge (Option EdgeStatus) := do
  if !(← malloc (.buffer .dynRegPayload)) then
    logWrite .error "dyn_reg_payload malloc fail!" []
    return none
  let own ← readClient client
  let dynRegPayload := snprintf natsMsgMaxLen dynRegFormatPayload
    [.uint requestId, .str own.productSn.bytes, .str own.deviceSn.bytes, .str productSecret.bytes]
  logWrite .debug "dyn_reg_payload:%s" [.str dynRegPayload]
  if !(← malloc (.buffer .dynRegPayloadBase64)) then
    logWrite .error "dyn_reg_payload_base64 malloc fail!" []
    free (.buffer .dynRegPayload)
    return none
  let dynRegPayloadBase64 ← base64Text config (.ofBytes dynRegPayload) dynRegPayload.length
  logWrite .debug "dyn_reg_payload_base64:%s" [.str dynRegPayloadBase64]
  if !(← malloc (.buffer .dynRegMsg)) then
    logWrite .error "dyn_reg_msg malloc fail!" []
    free (.buffer .dynRegPayload)
    free (.buffer .dynRegPayloadBase64)
    return none
  let own ← readClient client
  let dynRegMsg := snprintf natsMsgMaxLen dynRegFormat
    [.str own.productSn.bytes, .str own.deviceSn.bytes, .str dynRegPayloadBase64]
  logWrite .debug "dyn_reg_msg:%s" [.str dynRegMsg]
  return some (← publishAndFlush config.edgeRouterSubject dynRegMsg)

/-- The rest of a registration up to `end`, by the status of the publish. -/
def dynRegReply (config : DriverConfig) (client node : Ref) (status : EdgeStatus)
    (timeOutMs : UInt32) : Program edge EdgeStatus := do
  if status ≠ .ok then
    logWrite .error "publish dynamic register msg fail" []
    return status
  awaitRetCode config node timeOutMs "dynamic register timeout"
    (do
      setOnline client true
      let own ← readClient client
      logWrite .info "device[%s] dynamic register successful" [.str own.deviceSn.bytes]
      free .msgParseStrPayload
      return .ok)
    (do
      let own ← readClient client
      logWrite .error "device[%s] dynamic register fail" [.str own.deviceSn.bytes]
      return .err)

def edgeSubdevDynamicAuth (config : DriverConfig) (client : Option Ref)
    (productSecret : Option CString) (timeOutMs : UInt32) : Program edge EdgeStatus := do
  match client, productSecret with
  | some client, some productSecret =>
    let requestId ← genRequestid
    match ← msgParseStrInit requestId with
    | none => return .noMemory
    | some node =>
      let _ ← addToList .requestid node
      match ← dynRegPublish config client productSecret requestId with
      | none => return .noMemory
      | some status =>
        let status ← dynRegReply config client node status timeOutMs
        let _ ← removeFromList .requestid node
        free (.buffer .dynRegPayload)
        free (.buffer .dynRegPayloadBase64)
        free (.buffer .dynRegMsg)
        return status
  | _, _ => return .invalidArg

inductive SubdevLogInOut where
  | login
  | logout
  deriving DecidableEq

def SubdevLogInOut.topic : SubdevLogInOut → Bytes
  | login => ascii "login"
  | logout => ascii "logout"

def logInOutFormat : String :=
  "\x7b\"src\": \"local\",\"topic\": \"/$system/%s/%s/subdev/%s\",\"payload\": \"%s\"\x7d"

def logInOutFormatPayload : String :=
  "\x7b\"RequestID\": \"%u\",\"Params\": [\x7b\"ProductSN\": \"%s\",\"DeviceSN\": \"%s\"\x7d]\x7d"

def logInOut (config : DriverConfig) (client : Ref) (logOp : SubdevLogInOut) (requestId : UInt32) :
    Program edge EdgeStatus := do
  if !(← malloc (.buffer .loginStrPayload)) then
    logWrite .error "login_str_payload malloc fail!" []
    return .noMemory
  let own ← readClient client
  let loginStrPayload := snprintf natsMsgMaxLen logInOutFormatPayload
    [.uint requestId, .str own.productSn.bytes, .str own.deviceSn.bytes]
  logWrite .debug "login_str_payload:%s\r\n" [.str loginStrPayload]
  if !(← malloc (.buffer .loginStrPayloadBase64)) then
    logWrite .error "login_str_payload_base64 malloc fail!" []
    free (.buffer .loginStrPayload)
    return .noMemory
  let loginStrPayloadBase64 ← base64Text config (.ofBytes loginStrPayload) loginStrPayload.length
  if !(← malloc (.buffer .loginOutStr)) then
    logWrite .error "login_str malloc fail!" []
    free (.buffer .loginStrPayload)
    free (.buffer .loginStrPayloadBase64)
    return .noMemory
  let own ← readClient client
  let loginOutStr := snprintf natsMsgMaxLen logInOutFormat
    [.str own.productSn.bytes, .str own.deviceSn.bytes, .str logOp.topic, .str loginStrPayloadBase64]
  logWrite .debug "login_str:%s" [.str loginOutStr]
  let status ← publishAndFlush config.edgeRouterSubject loginOutStr
  if status ≠ .ok then
    logWrite .error "edge_PublishString fail" []
  free (.buffer .loginStrPayload)
  free (.buffer .loginStrPayloadBase64)
  free (.buffer .loginOutStr)
  return status

/-- The frame the operations with one cleanup label share: register an entry under
a new id, run the body up to `end`, and remove the entry. -/
def withRequest (body : Ref → UInt32 → Program edge EdgeStatus) : Program edge EdgeStatus := do
  let requestId ← genRequestid
  match ← msgParseStrInit requestId with
  | none => return .noMemory
  | some node =>
    let _ ← addToList .requestid node
    let status ← body node requestId
    let _ ← removeFromList .requestid node
    return status

def edgeSubdevLoginSync (config : DriverConfig) (client : Option Ref) (timeOutMs : UInt32) :
    Program edge EdgeStatus := do
  match client with
  | none => return .invalidArg
  | some client =>
    withRequest fun node requestId => do
      let status ← logInOut config client .login requestId
      if status ≠ .ok then
        logWrite .error "_log_in_out fail" []
        return status
      let _ ← addToList .connDevice client
      awaitRetCode config node timeOutMs "subdev login timeout"
        (do
          setOnline client true
          let own ← readClient client
          logWrite .info "device[%s] login successful" [.str own.deviceSn.bytes]
          free .msgParseStrPayload
          return .ok)
        (do
          let own ← readClient client
          logWrite .error "device[%s] login fail" [.str own.deviceSn.bytes]
          return .protocolError)

def edgeSubdevLogoutSync (config : DriverConfig) (client : Option Ref) (timeOutMs : UInt32) :
    Program edge EdgeStatus := do
  match client with
  | none => return .invalidArg
  | some client =>
    let own ← readClient client
    if own.natsOnline = false then return .ok
    withRequest fun node requestId => do
      let status ← logInOut config client .logout requestId
      if status ≠ .ok then
        logWrite .error "_log_in_out fail" []
        return status
      let _ ← removeFromList .connDevice client
      awaitRetCode config node timeOutMs "subdev logout timeout"
        (do
          setOnline client false
          let own ← readClient client
          logWrite .info "device[%s] logout successful" [.str own.deviceSn.bytes]
          free .msgParseStrPayload
          return .ok)
        (do
          let own ← readClient client
          logWrite .error "device[%s] logout fail" [.str own.deviceSn.bytes]
          return .protocolError)

def edgeSubdevLoginAsync (config : DriverConfig) (client : Option Ref) : Program edge EdgeStatus := do
  match client with
  | none => return .invalidArg
  | some client =>
    let requestId ← genRequestid
    let status ← logInOut config client .login requestId
    if status ≠ .ok then
      logWrite .error "_log_in_out fail" []
      return status
    setOnline client true
    let own ← readClient client
    logWrite .info "device[%s] login successful" [.str own.deviceSn.bytes]
    addToList .connDevice client

def edgeSubdevLogoutAsync (config : DriverConfig) (client : Option Ref) :
    Program edge EdgeStatus := do
  match client with
  | none => return .invalidArg
  | some client =>
    let own ← readClient client
    if own.natsOnline = false then return .ok
    let requestId ← genRequestid
    let status ← logInOut config client .logout requestId
    if status ≠ .ok then
      logWrite .error "_log_in_out fail" []
      return status
    setOnline client false
    let own ← readClient client
    logWrite .info "device[%s] logout successful" [.str own.deviceSn.bytes]
    removeFromList .connDevice client

/-- `EDGE_OK` for a topic that names an rrpc request. -/
def edgeRrpcCheck (topic : Bytes) : EdgeStatus :=
  match strstr topic (ascii "/rrpc/request/") with
  | none => .err
  | some _ => .ok

end IotstackDriver.Edge
