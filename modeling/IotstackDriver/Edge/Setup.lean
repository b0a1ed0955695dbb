import IotstackDriver.Edge.Callbacks

/-! The set-up of `edge.c`: the configuration file and the values taken from it, the lists
and their mutexes, the connection and its subscriptions. -/

namespace IotstackDriver.Edge.Setup

open Libc Support

def configFilePath : Bytes := ascii "./etc/iotedge/config.json"
def natsServerDefaultUrl : Bytes := ascii "tcp://127.0.0.1:4222"
def edgeRouterSubjectFormat : String := "edge.router.%s"
def edgeLocalSubjectFormat : String := "edge.local.%s"
def edgeLocalBroadcastSubject : Bytes := ascii "edge.local.broadcast"
def edgeStateReplySubject : Bytes := ascii "edge.state.reply"
def natsSubjectMaxLen : Nat := 100

/-- The variables the four getters keep their results in. -/
inductive Cached where
  | driverInfo
  | deviceInfo
  | productSn
  | deviceSn
  deriving DecidableEq

/-- The static variables of `edge.c` that set-up fills. A pointer into the document, or to
a printed part of it, is the string it points to. -/
structure Globals where
  driverConfigJson : Option CJson
  driverId : Option CString
  driverName : Option CString
  cached : Cached → Option CString
  edgeRouterSubject : Bytes
  edgeLocalSubject : Bytes

/-- The callback of a subscription. -/
inductive MsgHandler where
  | onLocalMessage
  | onBroadcastMessage
  | onEdgeStateMessage
  | onNatsMessage
  deriving DecidableEq

/-- What the configuration file is opened for. -/
inductive FileUse where
  | length
  | text
  deriving DecidableEq

inductive MutexStage where
  | calloc
  | attrInit
  | attrSettype
  | init
  deriving DecidableEq

inductive SetupRequest where
  | globals
  | store (globals : Globals)
  | fopen (use : FileUse)
  | fseekEnd
  | ftell
  | fread (size : UInt32)
  | fclose
  | malloc (size : UInt32)
  | memset (size : UInt32)
  | storeNul (index : UInt32)
  | free
  | cJsonPrint
  | listNew (list : RegistryList)
  | mutexCreate (list : RegistryList) (stage : MutexStage)
  | getenv
  | connectTo (url : Bytes)
  | subscribe (subject : Bytes) (handler : MsgHandler)
  | flush (handler : MsgHandler)
  | timerCreate
  | timerSettime
  | logWrite (level : LogLevel) (format : String) (args : List Arg)
  | logPrint (format : String) (args : List Arg)

abbrev SetupRequest.Reply : SetupRequest → Type
  | globals => Globals
  | fopen _ => Bool
  | ftell => Int
  | fread _ => Bytes
  | malloc _ => Bool
  | cJsonPrint => Bool
  | listNew _ => Bool
  | mutexCreate _ _ => Bool
  | getenv => Option CString
  | connectTo _ => EdgeStatus
  | subscribe _ _ => EdgeStatus
  | flush _ => EdgeStatus
  | timerCreate => Bool
  | timerSettime => Bool
  | _ => Unit

@[reducible] def setup : Interface := ⟨SetupRequest, SetupRequest.Reply⟩

def globals : Program setup Globals := .call .globals .done
def store (globals : Globals) : Program setup Unit := .call (.store globals) .done
def fopen (use : FileUse) : Program setup Bool := .call (.fopen use) .done
def fseekEnd : Program setup Unit := .call .fseekEnd .done
def ftell : Program setup Int := .call .ftell .done
def fread (size : UInt32) : Program setup Bytes := .call (.fread size) .done
def fclose : Program setup Unit := .call .fclose .done
def malloc (size : UInt32) : Program setup Bool := .call (.malloc size) .done
def memset (size : UInt32) : Program setup Unit := .call (.memset size) .done
def storeNul (index : UInt32) : Program setup Unit := .call (.storeNul index) .done
def free : Program setup Unit := .call .free .done
def cJsonPrint : Program setup Bool := .call .cJsonPrint .done
def listNew (list : RegistryList) : Program setup Bool := .call (.listNew list) .done
def mutexStage (list : RegistryList) (stage : MutexStage) : Program setup Bool :=
  .call (.mutexCreate list stage) .done
def getenv : Program setup (Option CString) := .call .getenv .done
def connectTo (url : Bytes) : Program setup EdgeStatus := .call (.connectTo url) .done
def subscribe (subject : Bytes) (handler : MsgHandler) : Program setup EdgeStatus :=
  .call (.subscribe subject handler) .done
def flush (handler : MsgHandler) : Program setup EdgeStatus := .call (.flush handler) .done
def timerCreate : Program setup Bool := .call .timerCreate .done
def timerSettime : Program setup Bool := .call .timerSettime .done
def logWrite (level : LogLevel) (format : String) (args : List Arg) : Program setup Unit :=
  .call (.logWrite level format args) .done
def logPrint (format : String) (args : List Arg) : Program setup Unit :=
  .call (.logPrint format args) .done

/-! ## The configuration file -/

/-- The `long` that `ftell` gives is cut to an `int`. -/
def calcFileLen : Program setup Int := do
  if !(← fopen .length) then return 0
  fseekEnd
  let fileLen ← ftell
  fclose
  return fileLen.bmod (2 ^ 32)

def getDriverCfg (config : DriverConfig) : Program setup (Option CJson) := do
  match (← globals).driverConfigJson with
  | some driverConfigJson => return some driverConfigJson
  | none =>
    let fileLen := UInt32.ofInt (← calcFileLen)
    if !(← malloc (fileLen + 1)) then
      logWrite .error "file_str malloc fail!" []
      return none
    memset (fileLen + 1)
    if !(← fopen .text) then
      logWrite .error "cannot open file:%s" [.str configFilePath]
      return none
    let text ← fread fileLen
    if fileLen.toNat ≠ text.length then
      logWrite .error "fread file:%s fail!" [.str configFilePath]
    storeNul fileLen
    fclose
    let driverConfigJson := config.cJsonParse (text.takeWhile (· != 0))
    store { ← globals with driverConfigJson := driverConfigJson }
    free
    return driverConfigJson

def parseDriverCfg (config : DriverConfig) : Program setup EdgeStatus := do
  let known ← globals
  if known.driverId.isNone || known.driverName.isNone then
    if (← getDriverCfg config).isNone then
      logPrint "_get_driver_cfg fail!\r\n" []
      return .err
    match (← getDriverCfg config).bind fun document => document.getObjectItem "driverID" with
    | none =>
      logPrint "parse driverID fail!\r\n" []
      return .err
    | some driverIdJson =>
      store { ← globals with driverId := driverIdJson.valuestring }
      logPrint "driverId:%s\r\n" [printed driverIdJson.valuestring]
      match (← getDriverCfg config).bind fun document => document.getObjectItem "driverName" with
      | none =>
        logPrint "parse driverName fail!\r\n" []
        return .err
      | some driverNameJson =>
        store { ← globals with driverName := driverNameJson.valuestring }
        logPrint "driverName:%s\r\n" [printed driverNameJson.valuestring]
        return .ok
  else return .ok

/-- What the four getters share: the member of the document with that name, once it was
turned into a string. -/
def getCached (config : DriverConfig) (cached : Cached) (name missing : String) (found : String)
    (text : CJson → Program setup (Option CString)) : Program setup (Option CString) := do
  match (← globals).cached cached with
  | some value => return some value
  | none =>
    if (← getDriverCfg config).isNone then
      logWrite .error "_get_driver_cfg fail!" []
      return none
    match (← getDriverCfg config).bind fun document => document.getObjectItem name with
    | none =>
      logWrite .error missing []
      return none
    | some item =>
      let value ← text item
      let known ← globals
      store { known with cached := Function.update known.cached cached value }
      logWrite .debug found [printed value]
      return value

/-- `cJSON_Print` of an item. -/
def printItem (config : DriverConfig) (item : CJson) : Program setup (Option CString) := do
  if ← cJsonPrint then return some (config.cJsonPrint item)
  return none

def edgeGetDriverInfo (config : DriverConfig) : Program setup (Option CString) :=
  getCached config .driverInfo "driverInfo" "parse driverInfo fail!" "driverInfo:%s" (printItem config)

def edgeGetDeviceInfo (config : DriverConfig) : Program setup (Option CString) :=
  getCached config .deviceInfo "deviceList" "parse driverInfo fail!" "deviceList:%s" (printItem config)

def edgeGetProductSn (config : DriverConfig) : Program setup (Option CString) :=
  getCached config .productSn "productSN" "parse productSN fail!" "productSN:%s" fun item =>
    return item.valuestring

def edgeGetDeviceSn (config : DriverConfig) : Program setup (Option CString) :=
  getCached config .deviceSn "deviceSN" "parse deviceSN fail!" "deviceSN:%s" fun item =>
    return item.valuestring

/-! ## The connection -/

def edgeSubscribe (subject : Bytes) (handler : MsgHandler) : Program setup EdgeStatus := do
  let status ← subscribe subject handler
  return status.or (← flush handler)

/-- The status of a failed system call. -/
def sysError : EdgeStatus := ⟨25⟩

def natsMutexCreate (list : RegistryList) : Program setup EdgeStatus := do
  if !(← mutexStage list .calloc) then return .noMemory
  if !(← mutexStage list .attrInit) then return sysError
  if !(← mutexStage list .attrSettype) then return sysError
  if !(← mutexStage list .init) then return sysError
  return .ok

/-- A failure of either call is only printed. -/
def fetchOnlineStatus : Program setup Unit := do
  let _ ← timerCreate
  let _ ← timerSettime

/-- The three subscriptions, up to the first that fails. -/
def subscribeAll : List (Bytes × MsgHandler) → Program setup Bool
  | [] => return true
  | (subject, handler) :: rest => do
    let status ← edgeSubscribe subject handler
    if status ≠ .ok then
      logWrite .error "edge_subscribe %s fail! status:%d" [.str subject, .int status.code.toNat]
      return false
    subscribeAll rest

/-- The subscriptions of a driver, in the order they are made. -/
def driverSubscriptions (localSubject : Bytes) : List (Bytes × MsgHandler) :=
  [(localSubject, .onLocalMessage), (edgeLocalBroadcastSubject, .onBroadcastMessage),
    (edgeStateReplySubject, .onEdgeStateMessage)]

def edgeCommonInit (config : DriverConfig) : Program setup EdgeStatus := do
  if !(← listNew .requestid) then
    logPrint "requestid_list malloc fail!\r\n" []
    return .noMemory
  if (← natsMutexCreate .requestid) ≠ .ok then return .noMemory
  if !(← listNew .connDevice) then
    logPrint "conn_device_list malloc fail!\r\n" []
    return .noMemory
  if (← natsMutexCreate .connDevice) ≠ .ok then return .noMemory
  let natsServerUrl ← getenv
  let status ← connectTo ((natsServerUrl.map CString.bytes).getD natsServerDefaultUrl)
  if status ≠ .ok then
    logPrint "connect nats fail!\r\n" []
    return .protocolError
  if (← parseDriverCfg config) = .err then
    logPrint "pasrse driver cfg fail!\r\n" []
    return .err
  let known ← globals
  let edgeRouterSubject := snprintf natsSubjectMaxLen edgeRouterSubjectFormat [printed known.driverId]
  store { known with edgeRouterSubject }
  logWrite .debug "edge_router_subject:%s" [.str edgeRouterSubject]
  let known ← globals
  let edgeLocalSubject := snprintf natsSubjectMaxLen edgeLocalSubjectFormat [printed known.driverId]
  store { known with edgeLocalSubject }
  logWrite .debug "edge_local_subject:%s" [.str edgeLocalSubject]
  if !(← subscribeAll (driverSubscriptions edgeLocalSubject)) then return .protocolError
  fetchOnlineStatus
  return .ok

def natsSubscribe (subject : CString) : Program setup EdgeStatus :=
  edgeSubscribe subject.bytes .onNatsMessage

end IotstackDriver.Edge.Setup
