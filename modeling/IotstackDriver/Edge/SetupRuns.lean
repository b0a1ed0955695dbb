import IotstackDriver.Libc.Numerals
import IotstackDriver.Support.Simulation
import IotstackDriver.Edge.Setup

/-! What set-up does, by the outcomes its requests meet. -/

namespace IotstackDriver.Edge.Setup

open Libc Support Program

/-- A subscription, with the connection it was made on. -/
structure Subscription where
  conn : Option Nat
  subject : Bytes
  handler : MsgHandler
  deriving DecidableEq

/-- What set-up works on. `blocks` holds the sizes of the file buffers that were not freed,
the latest first; connections are numbered in the order they are made. -/
structure Machine where
  globals : Globals
  opens : Nat
  streams : Nat
  blocks : List Nat
  lists : RegistryList → Bool
  mutexes : RegistryList → Bool
  conn : Option Nat
  connections : Nat
  subscriptions : List Subscription
  timers : Nat

/-- The outcomes one call meets. `content` is what the file holds when it is read. -/
structure SetupEnv where
  fopen : FileUse → Bool
  ftell : Int
  malloc : Bool
  content : Bytes
  cJsonPrint : Bool
  listNew : RegistryList → Bool
  mutexCreate : RegistryList → MutexStage → Bool
  natsServerUrl : Option CString
  connectTo : EdgeStatus
  subscribe : MsgHandler → EdgeStatus
  flush : MsgHandler → EdgeStatus
  timerCreate : Bool
  timerSettime : Bool
  log : String → List Arg → Bool

/-- How set-up is responded to where a log is one that fits. An access outside the file buffer, and
the use of a timer that was not created, have no defined outcome. -/
def respond (env : SetupEnv) : Handler setup Machine
  | .globals, machine => some (machine.globals, machine)
  | .store globals, machine => some ((), { machine with globals })
  | .fopen use, machine =>
    let opened := { machine with opens := machine.opens + 1 }
    if env.fopen use then some (true, { opened with streams := machine.streams + 1 })
    else some (false, opened)
  | .fseekEnd, machine => some ((), machine)
  | .ftell, machine => some (env.ftell, machine)
  | .fread size, machine =>
    let text := env.content.take size.toNat
    if text.length ≤ machine.blocks.headD 0 then some (text, machine) else none
  | .fclose, machine => some ((), { machine with streams := machine.streams - 1 })
  | .malloc size, machine =>
    if env.malloc then some (true, { machine with blocks := size.toNat :: machine.blocks })
    else some (false, machine)
  | .memset size, machine => if size.toNat ≤ machine.blocks.headD 0 then some ((), machine) else none
  | .storeNul index, machine => if index.toNat < machine.blocks.headD 0 then some ((), machine) else none
  | .free, machine => some ((), { machine with blocks := machine.blocks.tail })
  | .cJsonPrint, machine => some (env.cJsonPrint, machine)
  | .listNew list, machine =>
    some (env.listNew list, { machine with lists := Function.update machine.lists list (env.listNew list) })
  | .mutexCreate list stage, machine =>
    let created := env.mutexCreate list stage
    if stage = .init ∧ created then
      some (created, { machine with mutexes := Function.update machine.mutexes list true })
    else some (created, machine)
  | .getenv, machine => some (env.natsServerUrl, machine)
  | .connectTo _, machine =>
    if env.connectTo = .ok then some (env.connectTo,
      { machine with conn := some machine.connections, connections := machine.connections + 1 })
    else some (env.connectTo, machine)
  | .subscribe subject handler, machine =>
    if env.subscribe handler = .ok then some (env.subscribe handler,
      { machine with subscriptions := machine.subscriptions ++ [⟨machine.conn, subject, handler⟩] })
    else some (env.subscribe handler, machine)
  | .flush handler, machine => some (env.flush handler, machine)
  | .timerCreate, machine => some (env.timerCreate, machine)
  | .timerSettime, machine =>
    if env.timerCreate then some (env.timerSettime,
      { machine with timers := machine.timers + env.timerSettime.toNat })
    else none
  | .logWrite .., machine => some ((), machine)
  | .logPrint .., machine => some ((), machine)

/-- A log that gets its buffers stays inside them. -/
def SetupEnv.logFits (env : SetupEnv) (text : String) (args : List Arg) : Bool :=
  !env.log text args || logInside text args

def SetupEnv.fits (env : SetupEnv) : SetupRequest → Bool
  | .logWrite _ text args => env.logFits text args
  | _ => true

/-- Nothing that follows a log that does not fit is defined. -/
def handle (env : SetupEnv) : Handler setup Machine := (respond env).guarded env.fits

variable {config : DriverConfig} {env : SetupEnv} {machine final : Machine}

/-! ## The document -/

namespace SetupEnv

/-- What `calc_file_len` makes of the file. -/
def fileLen (env : SetupEnv) : UInt32 := if env.fopen .length then UInt32.ofInt env.ftell else 0

/-- The document in the text that is read. -/
def document (config : DriverConfig) (env : SetupEnv) : Option CJson :=
  config.cJsonParse ((env.content.take env.fileLen.toNat).takeWhile (· != 0))

end SetupEnv

/-- What `_get_driver_cfg` returns and leaves. A buffer it could not open the file for stays
allocated, and one of no bytes is stored to. -/
def Machine.load (config : DriverConfig) (env : SetupEnv) (machine : Machine) :
    Option (Option CJson × Machine) :=
  match machine.globals.driverConfigJson with
  | some document => some (some document, machine)
  | none =>
    if env.malloc then
      if env.fopen .text then
        if env.fileLen + 1 = 0 then none
        else some (env.document config, { machine with
          opens := machine.opens + 2
          globals := { machine.globals with driverConfigJson := env.document config } })
      else some (none, { machine with
        opens := machine.opens + 2
        blocks := (env.fileLen + 1).toNat :: machine.blocks })
    else some (none, { machine with opens := machine.opens + 1 })

section Requests

@[simp] theorem run_globals : globals.run (respond env) machine = respond env .globals machine :=
  run_request ..

@[simp] theorem run_store {known : Globals} :
    (store known).run (respond env) machine = respond env (.store known) machine := run_request ..

@[simp] theorem run_fopen {use : FileUse} :
    (fopen use).run (respond env) machine = respond env (.fopen use) machine := run_request ..

@[simp] theorem run_fseekEnd : fseekEnd.run (respond env) machine = respond env .fseekEnd machine :=
  run_request ..

@[simp] theorem run_ftell : ftell.run (respond env) machine = respond env .ftell machine :=
  run_request ..

@[simp] theorem run_fread {size : UInt32} :
    (fread size).run (respond env) machine = respond env (.fread size) machine := run_request ..

@[simp] theorem run_fclose : fclose.run (respond env) machine = respond env .fclose machine :=
  run_request ..

@[simp] theorem run_malloc {size : UInt32} :
    (malloc size).run (respond env) machine = respond env (.malloc size) machine := run_request ..

@[simp] theorem run_memset {size : UInt32} :
    (memset size).run (respond env) machine = respond env (.memset size) machine := run_request ..

@[simp] theorem run_storeNul {index : UInt32} :
    (storeNul index).run (respond env) machine = respond env (.storeNul index) machine := run_request ..

@[simp] theorem run_free : free.run (respond env) machine = respond env .free machine :=
  run_request ..

@[simp] theorem run_cJsonPrint : cJsonPrint.run (respond env) machine = respond env .cJsonPrint machine :=
  run_request ..

@[simp] theorem run_listNew {list : RegistryList} :
    (listNew list).run (respond env) machine = respond env (.listNew list) machine := run_request ..

@[simp] theorem run_mutexStage {list : RegistryList} {stage : MutexStage} :
    (mutexStage list stage).run (respond env) machine = respond env (.mutexCreate list stage) machine := run_request ..

@[simp] theorem run_getenv : getenv.run (respond env) machine = respond env .getenv machine :=
  run_request ..

@[simp] theorem run_connectTo {url : Bytes} :
    (connectTo url).run (respond env) machine = respond env (.connectTo url) machine := run_request ..

@[simp] theorem run_subscribe {subject : Bytes} {handler : MsgHandler} :
    (subscribe subject handler).run (respond env) machine = respond env (.subscribe subject handler) machine := run_request ..

@[simp] theorem run_flush {handler : MsgHandler} :
    (flush handler).run (respond env) machine = respond env (.flush handler) machine := run_request ..

@[simp] theorem run_timerCreate : timerCreate.run (respond env) machine = respond env .timerCreate machine :=
  run_request ..

@[simp] theorem run_timerSettime : timerSettime.run (respond env) machine = respond env .timerSettime machine :=
  run_request ..

@[simp] theorem run_logWrite {level : LogLevel} {format : String} {args : List Arg} :
    (logWrite level format args).run (respond env) machine = respond env (.logWrite level format args) machine := run_request ..

@[simp] theorem run_logPrint {format : String} {args : List Arg} :
    (logPrint format args).run (respond env) machine = respond env (.logPrint format args) machine := run_request ..

@[simp] theorem run_ite {condition : Prop} [Decidable condition] {left right : Program setup α} :
    (if condition then left else right).run (respond env) machine =
      if condition then left.run (respond env) machine else right.run (respond env) machine := by
  split <;> rfl

end Requests

private theorem calcFileLen_run : calcFileLen.run (respond env) machine =
    some (if env.fopen .length then env.ftell.bmod (2 ^ 32) else 0,
      { machine with opens := machine.opens + 1 }) := by
  cases opened : env.fopen .length <;> simp [calcFileLen, respond, opened]

private theorem fileLen_eq :
    UInt32.ofInt (if env.fopen .length then env.ftell.bmod (2 ^ 32) else 0) = env.fileLen := by
  rw [SetupEnv.fileLen]
  split
  · refine (ofInt_eq_iff _ _).mpr (Eq.trans ?_ ((ofInt_eq_iff env.ftell _).mp rfl))
    exact Int.bmod_emod ..
  · rfl

private theorem toNat_succ {size : UInt32} (fits : size + 1 ≠ 0) : (size + 1).toNat = size.toNat + 1 := by
  have nonzero : (size + 1).toNat ≠ 0 := fun zero => fits (UInt32.toNat_inj.mp zero)
  have bound := size.toNat_lt
  rw [UInt32.toNat_add, UInt32.toNat_one] at nonzero ⊢
  omega

theorem getDriverCfg_run : (getDriverCfg config).run (respond env) machine = machine.load config env := by
  rw [getDriverCfg, run_bind, run_globals, respond, Option.bind_some]
  cases known : machine.globals.driverConfigJson with
  | some document => simp [Machine.load, known]
  | none =>
    simp only [Machine.load, known, run_bind, calcFileLen_run, Option.bind_some, fileLen_eq]
    cases allocated : env.malloc with
    | false => simp [respond, allocated]
    | true =>
      cases opened : env.fopen .text with
      | false => simp [respond, allocated, opened]
      | true =>
        by_cases wraps : env.fileLen + 1 = 0
        · simp [respond, allocated, opened, wraps]
        · simp [respond, allocated, opened, wraps, toNat_succ wraps, SetupEnv.document]

/-! ## The values taken from it -/

/-- The name under which the document holds a value. -/
def Cached.name : Cached → String
  | driverInfo => "driverInfo"
  | deviceInfo => "deviceList"
  | productSn => "productSN"
  | deviceSn => "deviceSN"

/-- What a getter makes of the item. Two of them print it, which takes memory. -/
def Cached.read (config : DriverConfig) (allocated : Bool) : Cached → CJson → Option CString
  | driverInfo, item | deviceInfo, item => if allocated then some (config.cJsonPrint item) else none
  | productSn, item | deviceSn, item => item.valuestring

def edgeGet (config : DriverConfig) : Cached → Program setup (Option CString)
  | .driverInfo => edgeGetDriverInfo config
  | .deviceInfo => edgeGetDeviceInfo config
  | .productSn => edgeGetProductSn config
  | .deviceSn => edgeGetDeviceSn config

/-- What a getter returns and keeps, from the document it was given. -/
def Machine.fetch (config : DriverConfig) (env : SetupEnv) (cached : Cached) (machine : Machine) :
    Option CJson → Option CString × Machine
  | none => (none, machine)
  | some document =>
    match document.getObjectItem cached.name with
    | none => (none, machine)
    | some item =>
      let value := cached.read config env.cJsonPrint item
      (value, { machine with globals := { machine.globals with
        cached := Function.update machine.globals.cached cached value } })

/-- What `_parse_driver_cfg` returns and keeps. -/
def Machine.identify (machine : Machine) : Option CJson → EdgeStatus × Machine
  | none => (.err, machine)
  | some document =>
    match document.getObjectItem "driverID" with
    | none => (.err, machine)
    | some driverIdJson =>
      let named := { machine.globals with driverId := driverIdJson.valuestring }
      match document.getObjectItem "driverName" with
      | none => (.err, { machine with globals := named })
      | some driverNameJson => (.ok, { machine with
          globals := { named with driverName := driverNameJson.valuestring } })

theorem load_document {found : Option CJson} (loaded : machine.load config env = some (found, final)) :
    found = final.globals.driverConfigJson := by
  rw [Machine.load] at loaded
  split at loaded
  · rename_i document known
    cases loaded
    exact known.symm
  · rename_i missing
    split at loaded
    · split at loaded
      · split at loaded <;> cases loaded
        rfl
      · cases loaded
        exact missing.symm
    · cases loaded
      exact missing.symm

theorem load_known {document : CJson} (known : machine.globals.driverConfigJson = some document) :
    machine.load config env = some (some document, machine) := by
  rw [Machine.load, known]

private theorem getCached_run {cached : Cached} {missing found : String}
    {text : CJson → Program setup (Option CString)}
    (reads : ∀ item machine, (text item).run (respond env) machine =
      some (cached.read config env.cJsonPrint item, machine)) :
    (getCached config cached cached.name missing found text).run (respond env) machine =
      match machine.globals.cached cached with
      | some value => some (some value, machine)
      | none => (machine.load config env).map fun result => result.2.fetch config env cached result.1 := by
  rw [getCached, run_bind, run_globals, respond, Option.bind_some]
  cases kept : machine.globals.cached cached with
  | some value => rfl
  | none =>
    simp only [run_bind, getDriverCfg_run]
    cases loaded : machine.load config env with
    | none => rfl
    | some result =>
      obtain ⟨document, next⟩ := result
      have same := load_document loaded
      subst same
      cases known : next.globals.driverConfigJson with
      | none => simp [respond, Machine.fetch]
      | some document =>
        cases member : document.getObjectItem cached.name with
        | none => simp [respond, Machine.fetch, getDriverCfg_run, load_known known, member]
        | some item =>
          simp [respond, Machine.fetch, getDriverCfg_run, load_known known, member, reads]

theorem printItem_run {item : CJson} : (printItem config item).run (respond env) machine =
    some (if env.cJsonPrint then some (config.cJsonPrint item) else none, machine) := by
  cases printed : env.cJsonPrint <;> simp [printItem, respond, printed]

theorem edgeGet_run (cached : Cached) : (edgeGet config cached).run (respond env) machine =
    match machine.globals.cached cached with
    | some value => some (some value, machine)
    | none => (machine.load config env).map fun result => result.2.fetch config env cached result.1 := by
  cases cached
  · exact getCached_run fun item machine => printItem_run
  · exact getCached_run fun item machine => printItem_run
  · exact getCached_run fun item machine => rfl
  · exact getCached_run fun item machine => rfl

theorem parseDriverCfg_run : (parseDriverCfg config).run (respond env) machine =
    if machine.globals.driverId.isNone || machine.globals.driverName.isNone then
      (machine.load config env).map fun result => result.2.identify result.1
    else some (.ok, machine) := by
  rw [parseDriverCfg, run_bind, run_globals, respond, Option.bind_some]
  split
  · simp only [run_bind, getDriverCfg_run]
    cases loaded : machine.load config env with
    | none => rfl
    | some result =>
      obtain ⟨document, next⟩ := result
      have same := load_document loaded
      subst same
      cases known : next.globals.driverConfigJson with
      | none => simp [respond, Machine.identify]
      | some document =>
        cases identified : document.getObjectItem "driverID" with
        | none => simp [respond, Machine.identify, getDriverCfg_run, load_known known, identified]
        | some driverIdJson =>
          have still : ({ next with globals := { next.globals with
              driverId := driverIdJson.valuestring } } : Machine).globals.driverConfigJson =
                some document := known
          cases named : document.getObjectItem "driverName" with
          | none => simp [respond, Machine.identify, getDriverCfg_run, load_known known,
              load_known still, identified, named]
          | some driverNameJson => simp [respond, Machine.identify, getDriverCfg_run,
              load_known known, load_known still, identified, named]
  · rfl

/-! ## The connection -/

theorem or_eq_ok {left right : EdgeStatus} : left.or right = .ok ↔ left = .ok ∧ right = .ok := by
  cases left
  cases right
  simp [EdgeStatus.or, EdgeStatus.ok]

namespace SetupEnv

/-- A mutex comes out of `natsMutex_Create`. -/
def mutexCreated (env : SetupEnv) (list : RegistryList) : Bool :=
  env.mutexCreate list .calloc && env.mutexCreate list .attrInit &&
    env.mutexCreate list .attrSettype && env.mutexCreate list .init

def mutexStatus (env : SetupEnv) (list : RegistryList) : EdgeStatus :=
  if env.mutexCreated list then .ok
  else if env.mutexCreate list .calloc then sysError
  else .noMemory

/-- Both lists, their mutexes and a connection can be had. -/
def prepared (env : SetupEnv) : Bool :=
  env.listNew .requestid && env.mutexCreated .requestid && env.listNew .connDevice &&
    env.mutexCreated .connDevice && env.connectTo == .ok

/-- A subscription is made and flushed. -/
def subscribed (env : SetupEnv) (handler : MsgHandler) : Bool :=
  env.subscribe handler == .ok && env.flush handler == .ok

/-- The subscriptions that are made, up to the first failure. -/
def taken (env : SetupEnv) (conn : Option Nat) : List (Bytes × MsgHandler) → List Subscription
  | [] => []
  | (subject, handler) :: rest => if env.subscribed handler then ⟨conn, subject, handler⟩ :: env.taken conn rest
    else if env.subscribe handler = .ok then [⟨conn, subject, handler⟩] else []

end SetupEnv

/-- The lists, the mutexes and the connection: `none` when all are there. -/
def prepare : Program setup (Option EdgeStatus) := do
  if !(← listNew .requestid) then
    logPrint "requestid_list malloc fail!\r\n" []
    return some .noMemory
  if (← natsMutexCreate .requestid) ≠ .ok then return some .noMemory
  if !(← listNew .connDevice) then
    logPrint "conn_device_list malloc fail!\r\n" []
    return some .noMemory
  if (← natsMutexCreate .connDevice) ≠ .ok then return some .noMemory
  let natsServerUrl ← getenv
  let status ← connectTo ((natsServerUrl.map CString.bytes).getD natsServerDefaultUrl)
  if status ≠ .ok then
    logPrint "connect nats fail!\r\n" []
    return some .protocolError
  return none

/-- What follows. -/
def subscribeDriver (config : DriverConfig) : Program setup EdgeStatus := do
  if (← parseDriverCfg config) = .err then
    logPrint "pasrse driver cfg fail!\r\n" []
    return .err
  let known ← globals
  let edgeRouterSubject := snprintf natsSubjectMaxLen edgeRouterSubjectFormat [printed known.driverId]
  store { known with edgeRouterSubject }
  logWrite .debug "edge_router_subject:%s" [.str edgeRouterSubject]
  let known ← globals
  let edgeLocalSubject := snprintf natsSubjectMaxLen edgeLocalSubjectFormat [printed known.driverId]
  store { known with edgeLocalSubject }
  logWrite .debug "edge_local_subject:%s" [.str edgeLocalSubject]
  if !(← subscribeAll (driverSubscriptions edgeLocalSubject)) then return .protocolError
  fetchOnlineStatus
  return .ok

theorem edgeCommonInit_eq : edgeCommonInit config = prepare >>= fun refused =>
    match refused with
    | some status => pure status
    | none => subscribeDriver config := by
  refine congrArg (Program.call (I := setup) _) (funext fun listed => ?_)
  cases listed with
  | false => rfl
  | true =>
    refine Eq.trans ?_ (bind_bind (natsMutexCreate .requestid) _ _).symm
    refine congrArg (natsMutexCreate .requestid >>= ·) (funext fun status => ?_)
    by_cases created : status = .ok
    · subst created
      refine congrArg (Program.call (I := setup) _) (funext fun listed => ?_)
      cases listed with
      | false => rfl
      | true =>
        refine Eq.trans ?_ (bind_bind (natsMutexCreate .connDevice) _ _).symm
        refine congrArg (natsMutexCreate .connDevice >>= ·) (funext fun status => ?_)
        by_cases created : status = .ok
        · subst created
          refine congrArg (Program.call (I := setup) _) (funext fun natsServerUrl => ?_)
          refine congrArg (Program.call (I := setup) _) (funext fun status => ?_)
          by_cases connected : status = .ok
          · subst connected
            rfl
          · simp only [Program.bind, ne_eq, connected, not_false_eq_true, ↓reduceIte]
            rfl
        · simp only [ne_eq, created, not_false_eq_true, ↓reduceIte]
          rfl
    · simp only [ne_eq, created, not_false_eq_true, ↓reduceIte]
      rfl

private theorem natsMutexCreate_run (list : RegistryList) :
    (natsMutexCreate list).run (respond env) machine = some (env.mutexStatus list,
      if env.mutexCreated list then
        { machine with mutexes := Function.update machine.mutexes list true }
      else machine) := by
  cases first : env.mutexCreate list .calloc <;> cases second : env.mutexCreate list .attrInit <;>
    cases third : env.mutexCreate list .attrSettype <;> cases fourth : env.mutexCreate list .init <;>
      simp [natsMutexCreate, respond, SetupEnv.mutexStatus, SetupEnv.mutexCreated, first, second, third, fourth]

theorem subscribeAll_run (wanted : List (Bytes × MsgHandler)) :
    (subscribeAll wanted).run (respond env) machine =
      some (wanted.all fun subscription => env.subscribed subscription.2,
        { machine with subscriptions := machine.subscriptions ++ env.taken machine.conn wanted }) := by
  induction wanted generalizing machine with
  | nil => simp [subscribeAll, SetupEnv.taken]
  | cons first rest ih =>
    obtain ⟨subject, handler⟩ := first
    have whole : (env.subscribe handler).or (env.flush handler) = .ok ↔ env.subscribed handler = true := by
      simp [or_eq_ok, SetupEnv.subscribed]
    by_cases made : env.subscribe handler = .ok
    · rw [made] at whole
      by_cases flushed : EdgeStatus.ok.or (env.flush handler) = .ok
      · simp [subscribeAll, edgeSubscribe, respond, SetupEnv.taken, made, flushed, whole.mp flushed, ih]
      · have failed := whole.not.mp flushed
        simp [subscribeAll, edgeSubscribe, respond, SetupEnv.taken, made, flushed, failed]
    · have failed : ¬ (env.subscribe handler).or (env.flush handler) = .ok := fun all =>
        made (or_eq_ok.mp all).1
      simp [subscribeAll, edgeSubscribe, respond, SetupEnv.taken, made, failed, whole.not.mp failed]

/-- The machine once the lists, the mutexes and the connection are there. -/
def Machine.prepared (machine : Machine) : Machine :=
  { machine with
    lists := fun _ => true
    mutexes := fun _ => true
    conn := some machine.connections
    connections := machine.connections + 1 }

theorem prepare_run : ∃ refused lists mutexes,
    prepare.run (respond env) machine = some (refused,
      if env.prepared then machine.prepared else { machine with lists, mutexes }) ∧
      (refused = none ↔ env.prepared = true) ∧ refused ≠ some .ok := by
  have failed (list : RegistryList) (refused : env.mutexCreated list = false) :
      ¬ env.mutexStatus list = .ok := by
    rw [SetupEnv.mutexStatus, refused, if_neg Bool.false_ne_true]
    split <;> decide
  have made (list : RegistryList) (created : env.mutexCreated list = true) :
      env.mutexStatus list = .ok := by rw [SetupEnv.mutexStatus, created]; rfl
  have all (flags : RegistryList → Bool) :
      Function.update (Function.update flags .requestid true) .connDevice true = fun _ => true := by
    funext list
    cases list <;> simp
  have refuse {status : EdgeStatus} {lists mutexes : RegistryList → Bool} (failed : status ≠ .ok)
      (unready : env.prepared = false) : ∃ refused lists' mutexes',
        some (some status, { machine with lists, mutexes }) = some (refused,
          if env.prepared then machine.prepared else { machine with lists := lists', mutexes := mutexes' }) ∧
          (refused = none ↔ env.prepared = true) ∧ refused ≠ some .ok :=
    ⟨some status, lists, mutexes, by rw [unready]; rfl, by simp [unready], by simpa using failed⟩
  simp only [prepare, run_bind, run_listNew, run_ite, run_logPrint, run_getenv, run_connectTo, run_pure,
    respond, Option.bind_some, natsMutexCreate_run]
  cases first : env.listNew .requestid with
  | false => exact refuse (by decide) (by simp [SetupEnv.prepared, first])
  | true =>
    cases second : env.mutexCreated .requestid with
    | false =>
      simp only [failed _ second, Bool.not_true, Bool.false_eq_true, ↓reduceIte, ne_eq, not_false_eq_true]
      exact refuse (by decide) (by simp [SetupEnv.prepared, second])
    | true =>
      simp only [made _ second, Bool.not_true, Bool.false_eq_true, ↓reduceIte, ne_eq, not_true_eq_false]
      cases third : env.listNew .connDevice with
      | false => exact refuse (by decide) (by simp [SetupEnv.prepared, third])
      | true =>
        cases fourth : env.mutexCreated .connDevice with
        | false =>
          simp only [failed _ fourth, Bool.not_true, Bool.false_eq_true, ↓reduceIte, not_false_eq_true]
          exact refuse (by decide) (by simp [SetupEnv.prepared, fourth])
        | true =>
          simp only [made _ fourth, Bool.not_true, Bool.false_eq_true, ↓reduceIte, not_true_eq_false]
          by_cases connected : env.connectTo = .ok
          · have ready : env.prepared = true := by
              simp [SetupEnv.prepared, first, second, third, fourth, connected]
            simp only [connected, ↓reduceIte, Option.bind_some, not_true_eq_false, all, ready]
            exact ⟨none, machine.lists, machine.mutexes, rfl, by simp, by decide⟩
          · simp only [connected, ↓reduceIte, Option.bind_some, not_false_eq_true]
            exact refuse (by decide) (by simp [SetupEnv.prepared, connected])

/-- The three subscriptions of a driver are made and flushed. -/
def SetupEnv.allSubscribed (env : SetupEnv) : Bool :=
  env.subscribed .onLocalMessage && env.subscribed .onBroadcastMessage &&
    env.subscribed .onEdgeStateMessage

/-- The machine once the driver's subjects are known. -/
def Machine.addressed (machine : Machine) : Machine :=
  { machine with globals := { machine.globals with
    edgeRouterSubject :=
      snprintf natsSubjectMaxLen edgeRouterSubjectFormat [printed machine.globals.driverId]
    edgeLocalSubject :=
      snprintf natsSubjectMaxLen edgeLocalSubjectFormat [printed machine.globals.driverId] } }

/-- The machine once the driver subscribed, as far as it comes. -/
def Machine.subscribed (machine : Machine) (env : SetupEnv) : Machine :=
  { machine with
    subscriptions := machine.subscriptions ++
      env.taken machine.conn (driverSubscriptions machine.globals.edgeLocalSubject) }

private theorem fetchOnlineStatus_run : fetchOnlineStatus.run (respond env) machine =
    if env.timerCreate then some ((), { machine with timers := machine.timers + env.timerSettime.toNat })
    else none := by
  cases created : env.timerCreate <;> simp [fetchOnlineStatus, respond, created]

theorem subscribeDriver_run : (subscribeDriver config).run (respond env) machine =
    ((parseDriverCfg config).run (respond env) machine).bind fun result =>
      if result.1 = .err then some (.err, result.2)
      else
        let subscribed := result.2.addressed.subscribed env
        if env.allSubscribed then
          if env.timerCreate then some (.ok, { subscribed with
            timers := subscribed.timers + env.timerSettime.toNat })
          else none
        else some (.protocolError, subscribed) := by
  rw [subscribeDriver, run_bind]
  cases (parseDriverCfg config).run (respond env) machine with
  | none => rfl
  | some result =>
    have all (subject : Bytes) : ((driverSubscriptions subject).all fun subscription =>
        env.subscribed subscription.2) = env.allSubscribed := by
      simp [driverSubscriptions, SetupEnv.allSubscribed, Bool.and_assoc]
    by_cases refused : result.1 = .err
    · simp [refused, respond]
    · cases subscribed : env.allSubscribed <;> cases created : env.timerCreate <;>
        simp [refused, respond, subscribeAll_run, fetchOnlineStatus_run, Machine.addressed,
          Machine.subscribed, all, subscribed, created]

end IotstackDriver.Edge.Setup
