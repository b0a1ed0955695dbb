import IotstackDriver.Edge.Client

/-! The topology operations of `edge.c`. -/

namespace IotstackDriver.Edge

open Libc Support

def topoOpFormat : String :=
  "\x7b\"src\": \"local\",\"topic\": \"/$system/%s/%s/subdev/topo/%s\",\"payload\": \"%s\"\x7d"

def topoOpFormatPayload : String := "\x7b\"RequestID\": \"%u\",\"Params\": [%s]\x7d"

def subdevStrFormat : String := "\x7b\"ProductSN\": \"%s\",\"DeviceSN\": \"%s\"\x7d"

def TopoOperation.topic : TopoOperation → Bytes
  | get => ascii "get"
  | add => ascii "add"
  | delete => ascii "delete"

/-- The request text for one operation, from the client whose topology changes.
`TOPO_GET` is sent in the name of a fixed device. -/
def topoMsg (config : DriverConfig) (client : Option Ref) (requestId : UInt32)
    (op : TopoOperation) : Program edge Bytes := do
  match op, client with
  | .get, _ =>
    let payloadStr := snprintf natsMsgMaxLen topoOpFormatPayload [.uint requestId, .str []]
    logWrite .debug "get payload_str:%s" [.str payloadStr]
    let payloadStrBase64 ← base64Text config (.ofBytes payloadStr) payloadStr.length
    logWrite .debug "get payload_str_base64:%s" [.str payloadStrBase64]
    return snprintf natsMsgMaxLen topoOpFormat
      [.str (ascii "i5ztbdmjr8yhlv9a"), .str (ascii "123456"), .str op.topic, .str payloadStrBase64]
  | _, none => fault
  | _, some client =>
    let own ← readClient client
    let subdevStr := snprintf 100 subdevStrFormat [.str own.productSn.bytes, .str own.deviceSn.bytes]
    let payloadStr := snprintf natsMsgMaxLen topoOpFormatPayload [.uint requestId, .str subdevStr]
    logWrite .debug (if op = .add then "add payload_str:%s" else "delete payload_str:%s")
      [.str payloadStr]
    let payloadStrBase64 ← base64Text config (.ofBytes payloadStr) payloadStr.length
    logWrite .debug
      (if op = .add then "add payload_str_base64:%s" else "delete payload_str_base64:%s")
      [.str payloadStrBase64]
    let own ← readClient client
    return snprintf natsMsgMaxLen topoOpFormat
      [.str own.productSn.bytes, .str own.deviceSn.bytes, .str op.topic, .str payloadStrBase64]

def topoMsgCommon (config : DriverConfig) (client : Option Ref) (requestId : UInt32)
    (op : TopoOperation) : Program edge EdgeStatus := do
  if !(← malloc (.buffer .topoMsg)) then
    logWrite .error "topo_msg malloc fail!" []
    return .noMemory
  if !(← malloc (.buffer .subdevStr)) then
    logWrite .error "subdev_str malloc fail!" []
    free (.buffer .topoMsg)
    return .noMemory
  if !(← malloc (.buffer .payloadStr)) then
    logWrite .error "payload_str malloc fail!" []
    free (.buffer .topoMsg)
    free (.buffer .subdevStr)
    return .noMemory
  if !(← malloc (.buffer .payloadStrBase64)) then
    logWrite .error "payload_str_base64 malloc fail!" []
    free (.buffer .topoMsg)
    free (.buffer .subdevStr)
    free (.buffer .payloadStr)
    return .noMemory
  let text ← topoMsg config client requestId op
  let status ← publishAndFlush config.edgeRouterSubject text
  if status ≠ .ok then
    logWrite .error "pub get topo msg fail" []
  free (.buffer .topoMsg)
  free (.buffer .subdevStr)
  free (.buffer .payloadStr)
  free (.buffer .payloadStrBase64)
  return status

/-- The result is the `valuestring` of the reply's `Data`, if there is one. -/
def edgeGetTopo (config : DriverConfig) (timeOutMs : UInt32) : Program edge (Option CString) := do
  let requestId ← genRequestid
  match ← msgParseStrInit requestId with
  | none => return none
  | some node =>
    let _ ← addToList .requestid node
    let status ← topoMsgCommon config none requestId .get
    if status ≠ .ok then
      logWrite .error "publish get topo fail" []
      return none
    let status ← waitPayloadIsTimeout node timeOutMs
    if status = .invalidTimeout then
      logWrite .error "get topo timeout" []
      return none
    let payload ← readPayload node .parse
    match config.cJsonParse payload with
    | none =>
      logWrite .error "json parse msg_parse_str payload error: [%s]"
        [.str (config.cJsonErrorPtr payload)]
      return none
    | some msgParseStrPayload =>
      let dataStr := msgParseStrPayload.getObjectItem "Data"
      let _ ← removeFromList .requestid node
      return dataStr.bind CJson.valuestring

def edgeAddTopo (config : DriverConfig) (client : Option Ref) (timeOutMs : UInt32) :
    Program edge EdgeStatus := do
  match client with
  | none => return .invalidArg
  | some client =>
    withRequest fun node requestId => do
      let status ← topoMsgCommon config (some client) requestId .add
      if status ≠ .ok then
        logWrite .error "publish add topo fail" []
        return status
      awaitRetCode config node timeOutMs "add topo timeout"
        (do
          let own ← readClient client
          logWrite .info "add topo device[%s] successful" [.str own.deviceSn.bytes]
          free .msgParseStrPayload
          return .ok)
        (do
          let own ← readClient client
          logWrite .error "add topo device[%s] fail" [.str own.deviceSn.bytes]
          return .protocolError)

def edgeDeleteTopo (config : DriverConfig) (client : Option Ref) (timeOutMs : UInt32) :
    Program edge EdgeStatus := do
  match client with
  | none => return .invalidArg
  | some client =>
    withRequest fun node requestId => do
      let status ← topoMsgCommon config (some client) requestId .delete
      if status ≠ .ok then
        logWrite .error "publish delete topo fail" []
        return status
      awaitRetCode config node timeOutMs "del topo timeout"
        (do
          let own ← readClient client
          logWrite .info "delete topo device[%s] successful" [.str own.deviceSn.bytes]
          free .msgParseStrPayload
          return .ok)
        (do
          let own ← readClient client
          logWrite .error "delete topo device[%s] fail" [.str own.deviceSn.bytes]
          return .protocolError)

end IotstackDriver.Edge
