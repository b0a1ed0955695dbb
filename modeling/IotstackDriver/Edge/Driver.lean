import IotstackDriver.Support.Program
import IotstackDriver.Support.Registry
import IotstackDriver.Edge.Base64
import IotstackDriver.Edge.CJson

/-! The driver's shared state and the effects its functions have on it: heap
objects and the two lists of `edge.c`, the NATS connection, the user's handlers
and the outcomes the environment chooses. -/

namespace IotstackDriver.Edge

open Libc Support

abbrev Ref := Nat

def natsMsgMaxLen : Nat := 2048

/-- The `edge_status` codes. Results of NATS calls are combined with `|=`, so a
status need not be one of the named ones. -/
structure EdgeStatus where
  code : UInt32
  deriving DecidableEq

namespace EdgeStatus

def ok : EdgeStatus := ⟨0⟩
def err : EdgeStatus := ⟨1⟩
def protocolError : EdgeStatus := ⟨2⟩
def invalidArg : EdgeStatus := ⟨16⟩
def invalidTimeout : EdgeStatus := ⟨18⟩
def noMemory : EdgeStatus := ⟨24⟩

def or (left right : EdgeStatus) : EdgeStatus := ⟨left.code ||| right.code⟩

@[simp] theorem err_ne_ok : ¬ err = ok := by decide
@[simp] theorem protocolError_ne_ok : ¬ protocolError = ok := by decide
@[simp] theorem invalidArg_ne_ok : ¬ invalidArg = ok := by decide
@[simp] theorem invalidTimeout_ne_ok : ¬ invalidTimeout = ok := by decide
@[simp] theorem noMemory_ne_ok : ¬ noMemory = ok := by decide

end EdgeStatus

inductive LogLevel where
  | debug
  | info
  | warn
  | error
  deriving DecidableEq

inductive TopoOperation where
  | get
  | add
  | delete
  deriving DecidableEq

inductive SubdevAble where
  | enable
  | disable
  deriving DecidableEq

/-- A user's handler, by its address. -/
abbrev HandlerPtr := Nat

structure MsgParse where
  requestId : UInt32
  payload : Memory

def MsgParse.storeAll (entry : MsgParse) (stores : List (Nat × UInt8)) : MsgParse :=
  { entry with payload := entry.payload.storeAll stores }

/-- `edge_subdev_construct` refuses a client without a normal handler. -/
structure SubdevClient where
  natsOnline : Bool
  productSn : CString
  deviceSn : CString
  normalMsgHandle : Option HandlerPtr
  rrpcMsgHandle : Option HandlerPtr
  normalSet : normalMsgHandle.isSome = true

/-- The client `edge_subdev_construct` sets up. -/
def SubdevClient.constructed (productSn deviceSn : CString) (handler : HandlerPtr)
    (rrpcMsgHandle : Option HandlerPtr) : SubdevClient where
  natsOnline := false
  productSn := productSn
  deviceSn := deviceSn
  normalMsgHandle := some handler
  rrpcMsgHandle := rrpcMsgHandle
  normalSet := rfl

def SubdevClient.withOnline (client : SubdevClient) (online : Bool) : SubdevClient :=
  { client with natsOnline := online }

/-- `requestid_list` and `conn_device_list`. -/
inductive RegistryList where
  | requestid
  | connDevice
  deriving DecidableEq

/-- What a search compares entries with: a request id, or the `device_sn` of a
temporary client, which may be `NULL`. -/
abbrev RegistryList.Key : RegistryList → Type
  | requestid => UInt32
  | connDevice => Option CString

def msgParseMatch (requestId : UInt32) (entry : MsgParse) : Bool := requestId == entry.requestId

def subdevClientMatch (deviceSn : CString) (entry : SubdevClient) : Bool :=
  strncmp deviceSn entry.deviceSn deviceSn.strlen == 0

theorem subdevClientMatch_iff (deviceSn : CString) (entry : SubdevClient) :
    subdevClientMatch deviceSn entry = true ↔ deviceSn.bytes <+: entry.deviceSn.bytes := by
  simp [subdevClientMatch, strncmp_strlen_eq_zero_iff]

/-- The scratch buffers. -/
inductive Buffer where
  | normalPayloadBase64
  | normalMsg
  | dynRegPayload
  | dynRegPayloadBase64
  | dynRegMsg
  | loginStrPayload
  | loginStrPayloadBase64
  | loginOutStr
  | topoMsg
  | subdevStr
  | payloadStr
  | payloadStrBase64
  | msgBase64decode
  | deviceListMsg
  | tmpMsg
  | syncMsg
  deriving DecidableEq

/-- The `malloc` calls, by what they allocate. The three buffers of a log are had together
or not at all. -/
inductive AllocSite where
  | msgParse
  | msgParsePayload
  | subdevClient
  | buffer (buffer : Buffer)
  | listNode (list : RegistryList)
  | listIterator (list : RegistryList)
  | cJsonPrint
  | log (text : String) (args : List Arg)
  deriving DecidableEq

/-- What a call releases besides the entries of the lists. -/
inductive Resource where
  | buffer (buffer : Buffer)
  | msgJson
  | msgBase64decodeJson
  | msgParseStrPayload
  | stateItem
  | msg
  deriving DecidableEq

/-- `rand` draws from 0 to `RAND_MAX`. -/
def randBound : Nat := 2 ^ 31

/-- The two draws of `_gen_requestid`. -/
inductive Draw where
  | high
  | low
  deriving DecidableEq

/-- The moments at which a reply buffer is read: in the waiting loop with so many
rounds left, to parse the reply, and to log it. -/
inductive Look where
  | poll (remaining : Nat)
  | parse
  | log
  deriving DecidableEq

/-- One call of a user's handler. A client's handler is read from the client. -/
inductive HandlerCall where
  | normal (client : Ref) (handler : HandlerPtr) (topic : Option CString) (payload : Memory)
      (payloadLen : Int)
  | rrpc (client : Ref) (handler : HandlerPtr) (topic : Option CString) (payload : Memory)
      (payloadLen : Int)
  | topoNotify (handler : HandlerPtr) (opera : TopoOperation) (payload : Memory)
  | subdevStatus (handler : HandlerPtr) (opera : SubdevAble) (payload : Memory)
  | nats (handler : HandlerPtr) (subject : CString) (payload : Memory) (payloadLen : Int)

/-- The effects of the driver's functions. `fault` is an access through `NULL`
or outside a table: nothing that follows it is defined. -/
inductive Request where
  | malloc (site : AllocSite)
  | rand (draw : Draw)
  | publishString (subject text : Bytes)
  | flush
  | sleep (ms : UInt32)
  | logWrite (level : LogLevel) (format : String) (args : List Arg)
  | newMsgParse (requestId : UInt32)
  | newSubdevClient (client : SubdevClient)
  | push (list : RegistryList) (node : Ref)
  | find (list : RegistryList) (key : list.Key)
  | iterate (list : RegistryList)
  | remove (list : RegistryList) (node : Ref)
  | readPayload (node : Ref) (look : Look)
  | writePayload (node : Ref) (stores : List (Nat × UInt8))
  | readClient (client : Ref)
  | setOnline (client : Ref) (online : Bool)
  | setEdgeState (state : Bool)
  | invoke (call : HandlerCall)
  | free (resource : Resource)
  | fault

abbrev Request.Reply : Request → Type
  | malloc _ => Bool
  | rand _ => Fin randBound
  | publishString _ _ => EdgeStatus
  | flush => EdgeStatus
  | newMsgParse _ => Ref
  | newSubdevClient _ => Ref
  | find _ _ => Option Ref
  | iterate _ => Option (List Ref)
  | remove _ _ => Bool
  | readPayload _ _ => Bytes
  | readClient _ => SubdevClient
  | fault => Empty
  | _ => Unit

@[reducible] def edge : Interface := ⟨Request, Request.Reply⟩

section Requests

def malloc (site : AllocSite) : Program edge Bool := .call (.malloc site) .done
def rand (draw : Draw) : Program edge (Fin randBound) := .call (.rand draw) .done
def publishString (subject text : Bytes) : Program edge EdgeStatus :=
  .call (.publishString subject text) .done
def flush : Program edge EdgeStatus := .call .flush .done
def sleep (ms : UInt32) : Program edge Unit := .call (.sleep ms) .done
def logWrite (level : LogLevel) (format : String) (args : List Arg) : Program edge Unit :=
  .call (.logWrite level format args) .done
def newMsgParse (requestId : UInt32) : Program edge Ref := .call (.newMsgParse requestId) .done
def newSubdevClient (client : SubdevClient) : Program edge Ref :=
  .call (.newSubdevClient client) .done
def push (list : RegistryList) (node : Ref) : Program edge Unit := .call (.push list node) .done
def find (list : RegistryList) (key : list.Key) : Program edge (Option Ref) :=
  .call (.find list key) .done
def iterate (list : RegistryList) : Program edge (Option (List Ref)) := .call (.iterate list) .done
def remove (list : RegistryList) (node : Ref) : Program edge Bool := .call (.remove list node) .done
def readPayload (node : Ref) (look : Look) : Program edge Bytes := .call (.readPayload node look) .done
def writePayload (node : Ref) (stores : List (Nat × UInt8)) : Program edge Unit :=
  .call (.writePayload node stores) .done
def readClient (client : Ref) : Program edge SubdevClient := .call (.readClient client) .done
def setOnline (client : Ref) (online : Bool) : Program edge Unit :=
  .call (.setOnline client online) .done
def setEdgeState (state : Bool) : Program edge Unit := .call (.setEdgeState state) .done
def invoke (call : HandlerCall) : Program edge Unit := .call (.invoke call) .done
def free (resource : Resource) : Program edge Unit := .call (.free resource) .done
def fault : Program edge α := .call .fault Empty.elim

end Requests

/-- The heap objects and the lists the calls and the callbacks share. -/
structure World where
  requests : Registry MsgParse
  devices : Registry SubdevClient

def World.initial : World := ⟨.empty, .empty⟩

def World.entries (world : World) : RegistryList → List Ref
  | .requestid => world.requests.entries
  | .connDevice => world.devices.entries

/-- The outcomes one call meets. Each allocation site is passed at most once in a
call. `look` is what the call sees in its reply buffer, given what the buffer
held when this call last changed or created it: the receiver may have stored
a reply in the meantime. -/
structure Env where
  malloc : AllocSite → Bool
  rand : Draw → Fin randBound
  publishStatus : EdgeStatus
  flushStatus : EdgeStatus
  look : Look → Bytes → Bytes

/-- A search of a list, with the entries it reads. -/
def searchList (registry : Registry α) (test : α → Bool) : Option Ref × Registry α :=
  (registry.find? test, registry.touchAll (registry.visited test))

/-- The entries from the last to the first, and `none` where the list holds some and no
iterator can be had. -/
def iterateTail (entries : List Ref) (allocated : Bool) : Option (List Ref) :=
  if entries = [] ∨ allocated = true then some entries.reverse else none

/-- `_list_find` and `_list_remove` under one lock. The match callback reads the
node it was given and an entry each time it is called. -/
def extractFromList (registry : Registry α) (node : Ref) (test : α → Bool) : Bool × Registry α :=
  ((registry.find? test).isSome,
    (registry.touchAll ((registry.visited test).flatMap fun entry => [node, entry])).remove test)

/-- The text `vsnprintf` leaves in `msg_str`. -/
def LogUpload.msgStr (text : String) (args : List Arg) : CString :=
  .ofBytes (snprintf natsMsgMaxLen text args)

/-- `log_write` copies its text, each quote with a backslash before it, into `msg_str_rep`,
and nothing but the size of that buffer limits the copy. -/
def logInside (text : String) (args : List Arg) : Bool :=
  (LogUpload.msgStr text args).strlen + (LogUpload.msgStr text args).bytes.count 34 < natsMsgMaxLen

theorem logInside_of_short {text : String} {args : List Arg}
    (short : (format text args).length + (format text args).count 34 < natsMsgMaxLen) :
    logInside text args = true := by
  refine decide_eq_true (Nat.lt_of_le_of_lt ?_ short)
  have part : List.Sublist (LogUpload.msgStr text args).bytes (format text args) :=
    (List.takeWhile_sublist _).trans (List.take_sublist _ _)
  exact Nat.add_le_add part.length_le (part.count_le 34)

/-- A log that gets its buffers stays inside them. -/
def Env.logFits (env : Env) (text : String) (args : List Arg) : Bool :=
  !env.malloc (.log text args) || logInside text args

def Env.fits (env : Env) : Request → Bool
  | .logWrite _ text args => env.logFits text args
  | _ => true

def Env.logsFit (env : Env) (logs : List (String × List Arg)) : Bool :=
  logs.all fun log => env.logFits log.1 log.2

/-- How the shared state responds to a request, where a log is one that fits. The locked
sections of the list functions are single requests. -/
def respond (env : Env) : Program.Handler edge World
  | .malloc site, world => some (env.malloc site, world)
  | .rand draw, world => some (env.rand draw, world)
  | .publishString _ _, world => some (env.publishStatus, world)
  | .flush, world => some (env.flushStatus, world)
  | .sleep _, world => some ((), world)
  | .logWrite _ _ _, world => some ((), world)
  | .newMsgParse requestId, world =>
    some (world.requests.size, { world with requests := world.requests.alloc ⟨requestId, .zero⟩ })
  | .newSubdevClient client, world =>
    some (world.devices.size, { world with devices := world.devices.alloc client })
  | .push .requestid node, world =>
    if node < world.requests.size then
      some ((), { world with requests := world.requests.push node })
    else none
  | .push .connDevice node, world =>
    if node < world.devices.size then
      some ((), { world with devices := world.devices.push node })
    else none
  | .find .requestid requestId, world =>
    if env.malloc (.listIterator .requestid) then
      let (found, requests) := searchList world.requests (msgParseMatch requestId)
      some (found, { world with requests })
    else some (none, world)
  | .find .connDevice deviceSn, world =>
    if env.malloc (.listIterator .connDevice) then
      match deviceSn with
      | some deviceSn =>
        let (found, devices) := searchList world.devices (subdevClientMatch deviceSn)
        some (found, { world with devices })
      | none => if world.devices.entries = [] then some (none, world) else none
    else some (none, world)
  | .iterate list, world =>
    some (iterateTail (world.entries list) (env.malloc (.listIterator list)), world)
  | .remove .requestid node, world => do
    let own ← world.requests.value? node
    if env.malloc (.listIterator .requestid) then
      let (found, requests) := extractFromList world.requests node (msgParseMatch own.requestId)
      some (found, { world with requests })
    else some (false, world)
  | .remove .connDevice node, world => do
    let own ← world.devices.value? node
    if env.malloc (.listIterator .connDevice) then
      let (found, devices) := extractFromList world.devices node (subdevClientMatch own.deviceSn)
      some (found, { world with devices })
    else some (false, world)
  | .readPayload node look, world => do
    let own ← world.requests.value? node
    some (env.look look (own.payload.cString natsMsgMaxLen),
      { world with requests := world.requests.touch node })
  | .writePayload node stores, world => do
    let _ ← world.requests.value? node
    if stores.all fun store => store.1 < natsMsgMaxLen then
      some ((), { world with
        requests := (world.requests.touch node).modify node fun entry => entry.storeAll stores })
    else none
  | .readClient client, world => do
    let own ← world.devices.value? client
    some (own, { world with devices := world.devices.touch client })
  | .setOnline client online, world => do
    let _ ← world.devices.value? client
    some ((), { world with
      devices := (world.devices.touch client).modify client fun own => own.withOnline online })
  | .setEdgeState _, world => some ((), world)
  | .invoke _, world => some ((), world)
  | .free _, world => some ((), world)
  | .fault, _ => none

/-- How the shared state handles a request. Nothing that follows a log that does not fit is
defined. -/
def handle (env : Env) : Program.Handler edge World := (respond env).guarded env.fits

/-- The logs of a run fit. -/
def LogsFit (env : Env) (program : Program edge α) (world : World) : Prop :=
  program.passes (respond env) env.fits world = true

instance (env : Env) (program : Program edge α) (world : World) :
    Decidable (LogsFit env program world) := inferInstanceAs (Decidable (_ = _))

section Logs

variable {env : Env} {program : Program edge α} {world : World}

/-- Where no log is too long, the logs make no difference. -/
theorem handle_of_logFits (fits : ∀ text args, env.logFits text args = true) : handle env = respond env := by
  funext request world
  refine Program.Handler.guarded_of_passes ?_
  cases request with
  | logWrite level text args => exact fits text args
  | _ => rfl

theorem respond_of_handle {request : Request} {answer : request.Reply × World}
    (answered : handle env request world = some answer) : respond env request world = some answer :=
  (Program.Handler.of_guarded answered).2

/-- A run finishes as it does without its logs, if these fit. -/
theorem run_handle_iff {result : α × World} : program.run (handle env) world = some result ↔
    LogsFit env program world ∧ program.run (respond env) world = some result :=
  Program.run_guarded_iff

theorem run_respond {result : α × World} (ran : program.run (handle env) world = some result) :
    program.run (respond env) world = some result :=
  (run_handle_iff.mp ran).2

theorem logFits_of_inside {text : String} {args : List Arg} (inside : logInside text args = true) :
    env.logFits text args = true := by
  rw [Env.logFits, inside, Bool.or_true]

namespace LogsFit

theorem run (fit : LogsFit env program world) :
    program.run (handle env) world = program.run (respond env) world :=
  (Program.run_guarded program world).trans (if_pos fit)

theorem observed {observe : Request → Option ω} (fit : LogsFit env program world) :
    program.observed (handle env) observe world = program.observed (respond env) observe world :=
  Program.observed_guarded fit

end LogsFit

end Logs

end IotstackDriver.Edge
