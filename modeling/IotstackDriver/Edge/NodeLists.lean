import IotstackDriver.Utils.ListFrame
import IotstackDriver.Support.Simulation
import IotstackDriver.Edge.Driver

/-! The two lists of `edge.c` one level down: the nodes of `utils_list.c` in one heap, the
objects they point to, and `malloc` choosing the addresses. -/

namespace IotstackDriver.Edge

open Libc Support Utils

/-- What the value of a node points to, and the keys a search may bring instead. -/
inductive Pointer where
  | msgParse (ref : Ref)
  | subdevClient (ref : Ref)
  | requestId (requestId : UInt32)
  | deviceSn (deviceSn : CString)
  deriving DecidableEq

def Pointer.ref? : Pointer → Option Ref
  | msgParse ref | subdevClient ref => some ref
  | requestId _ | deviceSn _ => none

def RegistryList.pointer : RegistryList → Ref → Pointer
  | requestid => .msgParse
  | connDevice => .subdevClient

/-- `_msg_parse_free` and `_subdev_client_free`. -/
def RegistryList.freePtr : RegistryList → FreePtr
  | requestid => 0
  | connDevice => 1

structure NodeWorld where
  requests : List MsgParse
  devices : List SubdevClient
  lists : RegistryList → LinkedList Pointer
  heap : Heap Pointer

namespace NodeWorld

/-- The lists as `edge_common_init` makes them. The match function is set where it is used,
since it reads the objects. -/
def initial : NodeWorld where
  requests := []
  devices := []
  lists list := ⟨none, none, 0, some list.freePtr, none⟩
  heap := ⟨fun _ => none, []⟩

def requestId? (world : NodeWorld) : Pointer → Option UInt32
  | .msgParse ref => world.requests[ref]?.map MsgParse.requestId
  | .requestId requestId => some requestId
  | _ => none

def deviceSn? (world : NodeWorld) : Pointer → Option CString
  | .subdevClient ref => world.devices[ref]?.map SubdevClient.deviceSn
  | .deviceSn deviceSn => some deviceSn
  | _ => none

/-- `_msg_parse_match` and `_subdev_client_match`, on the objects as they are. -/
def matchFn (world : NodeWorld) : RegistryList → Pointer → Pointer → Bool
  | .requestid, sought, own => ((world.requestId? sought).bind fun requestId =>
    (world.requestId? own).map fun other => requestId == other).getD false
  | .connDevice, sought, own => ((world.deviceSn? sought).bind fun deviceSn =>
    (world.deviceSn? own).map fun other => strncmp deviceSn other deviceSn.strlen == 0).getD false

def search (world : NodeWorld) (env : Env) (list : RegistryList) (sought : Pointer) :
    Option (Option NodeRef) :=
  let self := { world.lists list with matchFn := some (world.matchFn list) }
  listFind (env.malloc (.listIterator list)) self.len.toNat self sought world.heap

/-- What a node that was found points to. -/
def found (world : NodeWorld) (node : Option NodeRef) : Option Ref :=
  node.bind fun node => (world.heap.val node).bind Pointer.ref?

def setList (world : NodeWorld) (list : RegistryList) (self : LinkedList Pointer)
    (heap : Heap Pointer) : NodeWorld :=
  { world with lists := Function.update world.lists list self, heap }

/-- `_list_node_new` at the address `malloc` gives, and `_list_rpush`. -/
def append (world : NodeWorld) (place : Heap Pointer → NodeRef) (list : RegistryList) (ref : Ref) :
    Option NodeWorld :=
  let node := place world.heap
  if world.heap.allocated node then none
  else do
    let (node, heap) := listNodeNew (some node) (list.pointer ref) world.heap
    let (_, self, heap) ← listRpush (world.lists list) node heap
    return world.setList list self heap

/-- `_list_find` and `_list_remove` under one lock. -/
def extract (world : NodeWorld) (env : Env) (list : RegistryList) (ref : Ref) :
    Option (Bool × NodeWorld) := do
  match ← world.search env list (list.pointer ref) with
  | none => return (false, world)
  | some node =>
    let (self, heap) ← listRemove (world.lists list) (some node) world.heap
    return (true, world.setList list self heap)

/-- The loop of `_handle_status_sync` over the list, from its tail. -/
def collect (world : NodeWorld) (env : Env) (list : RegistryList) : Option (Option (List Ref)) :=
  let self := world.lists list
  if self.len = 0 then some (some [])
  else
    match listIteratorNew (env.malloc (.listIterator list)) self .tail with
    | none => some none
    | some it => (drain world.heap (self.len.toNat + 1) it).map fun values =>
      some (values.filterMap Pointer.ref?)

end NodeWorld

/-- The requests at the level of nodes. Those that are not about a list are answered as
above. -/
def handleNodes (place : Heap Pointer → NodeRef) (env : Env) : Program.Handler edge NodeWorld
  | .malloc site, world => some (env.malloc site, world)
  | .rand draw, world => some (env.rand draw, world)
  | .publishString _ _, world => some (env.publishStatus, world)
  | .flush, world => some (env.flushStatus, world)
  | .sleep _, world => some ((), world)
  | .logWrite _ _ _, world => some ((), world)
  | .newMsgParse requestId, world =>
    some (world.requests.length, { world with requests := world.requests ++ [⟨requestId, .zero⟩] })
  | .newSubdevClient client, world =>
    some (world.devices.length, { world with devices := world.devices ++ [client] })
  | .push .requestid node, world =>
    if node < world.requests.length then (world.append place .requestid node).map fun next => ((), next)
    else none
  | .push .connDevice node, world =>
    if node < world.devices.length then (world.append place .connDevice node).map fun next => ((), next)
    else none
  | .find .requestid requestId, world =>
    (world.search env .requestid (.requestId requestId)).map fun node => (world.found node, world)
  | .find .connDevice (some deviceSn), world =>
    (world.search env .connDevice (.deviceSn deviceSn)).map fun node => (world.found node, world)
  | .find .connDevice none, world =>
    -- the match function is called only where there is a node
    if env.malloc (.listIterator .connDevice) ∧ (world.lists .connDevice).len ≠ 0 then none
    else some (none, world)
  | .iterate list, world => (world.collect env list).map fun refs => (refs, world)
  | .remove .requestid node, world => do
    let _ ← world.requests[node]?
    world.extract env .requestid node
  | .remove .connDevice node, world => do
    let _ ← world.devices[node]?
    world.extract env .connDevice node
  | .readPayload node look, world => do
    let own ← world.requests[node]?
    some (env.look look (own.payload.cString natsMsgMaxLen), world)
  | .writePayload node stores, world => do
    let _ ← world.requests[node]?
    if stores.all fun store => store.1 < natsMsgMaxLen then
      some ((), { world with requests := world.requests.modify node fun entry => entry.storeAll stores })
    else none
  | .readClient client, world => do
    let own ← world.devices[client]?
    some (own, world)
  | .setOnline client online, world => do
    let _ ← world.devices[client]?
    some ((), { world with devices := world.devices.modify client fun own => own.withOnline online })
  | .setEdgeState _, world => some ((), world)
  | .invoke _, world => some ((), world)
  | .free _, world => some ((), world)
  | .fault, _ => none

/-- The handler above, with lists that stay below the bound of their length. -/
def handleBounded (env : Env) : Program.Handler edge World
  | .push list node, world =>
    if (world.entries list).length + 1 < 2 ^ 32 then respond env (.push list node) world else none
  | request, world => respond env request world

end IotstackDriver.Edge
