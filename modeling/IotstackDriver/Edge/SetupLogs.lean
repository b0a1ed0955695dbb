import IotstackDriver.Edge.SetupRuns

/-! What set-up logs. All of it is short but for the values that are fetched. -/

namespace IotstackDriver.Edge.Setup

open Libc Support Program

variable {config : DriverConfig} {env : SetupEnv} {machine : Machine}

/-- Every log of a program fits, and whatever is replied, its result is such a one. -/
def LogsShort (env : SetupEnv) (program : Program setup α) (post : α → Prop) : Prop :=
  Issues (I := setup) (fun request => env.fits request = true) program post

section Requests

variable {program : Program setup α} {next : α → Program setup β}

theorem LogsShort.passes {post : α → Prop} (short : LogsShort env program post) (machine : Machine) :
    program.passes (respond env) env.fits machine = true := Issues.passes short machine

@[simp] theorem logsShort_pure {value : α} {post : α → Prop} :
    LogsShort env (pure value : Program setup α) post ↔ post value := issues_pure

@[simp] theorem logsShort_bind {post : β → Prop} : LogsShort env (program >>= next) post ↔
    LogsShort env program fun value => LogsShort env (next value) post := issues_bind

@[simp] theorem logsShort_ite {condition : Prop} [Decidable condition] {left right : Program setup α}
    {post : α → Prop} : LogsShort env (if condition then left else right) post ↔
      if condition then LogsShort env left post else LogsShort env right post := issues_ite

/-- A request that is no log. -/
private theorem logsShort_other {request : SetupRequest} {post : request.Reply → Prop}
    (other : env.fits request = true) :
    LogsShort env (.call request .done) post ↔ ∀ reply, post reply := and_iff_right other

@[simp] theorem logsShort_globals {post : Globals → Prop} :
    LogsShort env globals post ↔ ∀ reply, post reply := logsShort_other rfl

@[simp] theorem logsShort_store {known : Globals} {post : Unit → Prop} :
    LogsShort env (store known) post ↔ ∀ reply, post reply := logsShort_other rfl

@[simp] theorem logsShort_fopen {use : FileUse} {post : Bool → Prop} :
    LogsShort env (fopen use) post ↔ ∀ reply, post reply := logsShort_other rfl

@[simp] theorem logsShort_fseekEnd {post : Unit → Prop} :
    LogsShort env fseekEnd post ↔ ∀ reply, post reply := logsShort_other rfl

@[simp] theorem logsShort_ftell {post : Int → Prop} :
    LogsShort env ftell post ↔ ∀ reply, post reply := logsShort_other rfl

@[simp] theorem logsShort_fread {size : UInt32} {post : Bytes → Prop} :
    LogsShort env (fread size) post ↔ ∀ reply, post reply := logsShort_other rfl

@[simp] theorem logsShort_fclose {post : Unit → Prop} :
    LogsShort env fclose post ↔ ∀ reply, post reply := logsShort_other rfl

@[simp] theorem logsShort_malloc {size : UInt32} {post : Bool → Prop} :
    LogsShort env (malloc size) post ↔ ∀ reply, post reply := logsShort_other rfl

@[simp] theorem logsShort_memset {size : UInt32} {post : Unit → Prop} :
    LogsShort env (memset size) post ↔ ∀ reply, post reply := logsShort_other rfl

@[simp] theorem logsShort_storeNul {index : UInt32} {post : Unit → Prop} :
    LogsShort env (storeNul index) post ↔ ∀ reply, post reply := logsShort_other rfl

@[simp] theorem logsShort_free {post : Unit → Prop} :
    LogsShort env free post ↔ ∀ reply, post reply := logsShort_other rfl

@[simp] theorem logsShort_cJsonPrint {post : Bool → Prop} :
    LogsShort env cJsonPrint post ↔ ∀ reply, post reply := logsShort_other rfl

@[simp] theorem logsShort_listNew {list : RegistryList} {post : Bool → Prop} :
    LogsShort env (listNew list) post ↔ ∀ reply, post reply := logsShort_other rfl

@[simp] theorem logsShort_mutexStage {list : RegistryList} {stage : MutexStage} {post : Bool → Prop} :
    LogsShort env (mutexStage list stage) post ↔ ∀ reply, post reply := logsShort_other rfl

@[simp] theorem logsShort_getenv {post : Option CString → Prop} :
    LogsShort env getenv post ↔ ∀ reply, post reply := logsShort_other rfl

@[simp] theorem logsShort_connectTo {url : Bytes} {post : EdgeStatus → Prop} :
    LogsShort env (connectTo url) post ↔ ∀ reply, post reply := logsShort_other rfl

@[simp] theorem logsShort_subscribe {subject : Bytes} {handler : MsgHandler} {post : EdgeStatus → Prop} :
    LogsShort env (subscribe subject handler) post ↔ ∀ reply, post reply := logsShort_other rfl

@[simp] theorem logsShort_flush {handler : MsgHandler} {post : EdgeStatus → Prop} :
    LogsShort env (flush handler) post ↔ ∀ reply, post reply := logsShort_other rfl

@[simp] theorem logsShort_timerCreate {post : Bool → Prop} :
    LogsShort env timerCreate post ↔ ∀ reply, post reply := logsShort_other rfl

@[simp] theorem logsShort_timerSettime {post : Bool → Prop} :
    LogsShort env timerSettime post ↔ ∀ reply, post reply := logsShort_other rfl

@[simp] theorem logsShort_logPrint {text : String} {args : List Arg} {post : Unit → Prop} :
    LogsShort env (logPrint text args) post ↔ ∀ reply, post reply := logsShort_other rfl

@[simp] theorem logsShort_logWrite {level : LogLevel} {text : String} {args : List Arg}
    {post : Unit → Prop} : LogsShort env (logWrite level text args) post ↔
      env.logFits text args = true ∧ post () :=
  and_congr_right fun _ => ⟨fun all => all (), fun one _ => one⟩

end Requests

section Programs

theorem logFits_of_inside {text : String} {args : List Arg} (inside : logInside text args = true) :
    env.logFits text args = true := by
  rw [SetupEnv.logFits, inside, Bool.or_true]

theorem getDriverCfg_logsShort : LogsShort env (getDriverCfg config) fun _ => True := by
  have refused : env.logFits "file_str malloc fail!" [] = true := logFits_of_inside (by decide +kernel)
  have missing : env.logFits "cannot open file:%s" [.str configFilePath] = true :=
    logFits_of_inside (by decide +kernel)
  have short : env.logFits "fread file:%s fail!" [.str configFilePath] = true :=
    logFits_of_inside (by decide +kernel)
  rw [getDriverCfg, logsShort_bind, logsShort_globals]
  intro known
  cases known.driverConfigJson with
  | some document => simp
  | none => simp [calcFileLen, refused, missing, short]

/-- A line is fine of which no more than half the buffer is needed. -/
private theorem logFits_of_half {text : String} {args : List Arg}
    (half : (format text args).length ≤ 1000) : env.logFits text args = true := by
  refine logFits_of_inside (logInside_of_short ?_)
  have quotes : (format text args).count 34 ≤ (format text args).length := List.count_le_length
  have size : natsMsgMaxLen = 2048 := rfl
  omega

private theorem logFits_address {text subjectFormat : String} {args : List Arg} (label : Bytes)
    (labelled : ∀ message, format text [.str message] = label ++ (message ++ []))
    (short : label.length ≤ 100) :
    env.logFits text [.str (snprintf natsSubjectMaxLen subjectFormat args)] = true := by
  have cut : (snprintf natsSubjectMaxLen subjectFormat args).length ≤ natsSubjectMaxLen - 1 :=
    List.length_take_le _ _
  have size : natsSubjectMaxLen = 100 := rfl
  refine logFits_of_half ?_
  rw [labelled, List.append_nil, List.length_append]
  omega

private theorem logFits_refused {subject : Bytes} (status : EdgeStatus)
    (short : subject.length ≤ natsSubjectMaxLen - 1) :
    env.logFits "edge_subscribe %s fail! status:%d" [.str subject, .int status.code.toNat] = true := by
  have line : format "edge_subscribe %s fail! status:%d" [.str subject, .int status.code.toNat] =
      ascii "edge_subscribe " ++ (subject ++ (ascii " fail! status:" ++
        (decimal status.code.toNat ++ []))) := rfl
  have fixed : (ascii "edge_subscribe ").length = 15 ∧ (ascii " fail! status:").length = 14 := by decide
  have digits := decimal_length_le status.code
  have size : natsSubjectMaxLen = 100 := rfl
  refine logFits_of_half ?_
  simp only [line, List.length_append, List.length_nil, fixed]
  omega

theorem subscribeAll_logsShort (wanted : List (Bytes × MsgHandler))
    (short : ∀ subscription ∈ wanted, subscription.1.length ≤ natsSubjectMaxLen - 1) :
    LogsShort env (subscribeAll wanted) fun _ => True := by
  induction wanted with
  | nil => exact trivial
  | cons first rest ih =>
    obtain ⟨subject, handler⟩ := first
    have refused (status : EdgeStatus) :
        env.logFits "edge_subscribe %s fail! status:%d" [.str subject, .int status.code.toNat] = true :=
      logFits_refused status (short (subject, handler) List.mem_cons_self)
    have others := ih fun subscription member => short subscription (List.mem_cons_of_mem _ member)
    simp [subscribeAll, edgeSubscribe, refused, others]

private theorem driverSubscriptions_short {localSubject : Bytes}
    (short : localSubject.length ≤ natsSubjectMaxLen - 1) : ∀ subscription ∈ driverSubscriptions localSubject,
      subscription.1.length ≤ natsSubjectMaxLen - 1 := by
  have fixed : edgeLocalBroadcastSubject.length ≤ natsSubjectMaxLen - 1 ∧
      edgeStateReplySubject.length ≤ natsSubjectMaxLen - 1 := by decide
  simp [driverSubscriptions, short, fixed]

private theorem load_logsShort {rest : Option CJson → Program setup α}
    (continues : ∀ document, LogsShort env (rest document) fun _ => True) :
    LogsShort env (getDriverCfg config >>= rest) fun _ => True := Issues.bind getDriverCfg_logsShort continues

theorem parseDriverCfg_logsShort : LogsShort env (parseDriverCfg config) fun _ => True := by
  rw [parseDriverCfg, logsShort_bind, logsShort_globals]
  intro known
  rw [logsShort_ite]
  split
  · refine load_logsShort fun document => ?_
    cases document with
    | none => simp
    | some _ =>
      refine load_logsShort fun document => ?_
      cases identified : document.bind fun document => document.getObjectItem "driverID" with
      | none => simp
      | some driverIdJson =>
        simp only [logsShort_bind, logsShort_globals, logsShort_store, logsShort_logPrint]
        refine fun _ _ _ => Issues.weaken getDriverCfg_logsShort (fun _ same => same) fun document _ => ?_
        cases document.bind fun document => document.getObjectItem "driverName" with
        | none => simp
        | some driverNameJson => simp
  · simp

theorem edgeCommonInit_logsShort : LogsShort env (edgeCommonInit config) fun _ => True := by
  have router {args : List Arg} : env.logFits "edge_router_subject:%s"
      [.str (snprintf natsSubjectMaxLen edgeRouterSubjectFormat args)] = true :=
    logFits_address (ascii "edge_router_subject:") (fun _ => rfl) (by decide)
  have locals {args : List Arg} : env.logFits "edge_local_subject:%s"
      [.str (snprintf natsSubjectMaxLen edgeLocalSubjectFormat args)] = true :=
    logFits_address (ascii "edge_local_subject:") (fun _ => rfl) (by decide)
  rw [edgeCommonInit_eq]
  refine Issues.bind ?_ fun refused => ?_
  · change LogsShort env _ _
    simp [prepare, natsMutexCreate]
  · cases refused with
    | some status => exact trivial
    | none =>
      refine Issues.bind parseDriverCfg_logsShort fun status => ?_
      change LogsShort env _ _
      simp only [logsShort_ite, logsShort_bind, logsShort_globals, logsShort_store, logsShort_logPrint,
        logsShort_logWrite, logsShort_pure, implies_true, router, locals, true_and]
      split
      · trivial
      · refine fun known _ latest _ => (subscribeAll_logsShort _
          (driverSubscriptions_short (List.length_take_le _ _))).weaken (fun _ same => same) fun taken _ => ?_
        split <;> simp [fetchOnlineStatus]

end Programs

/-! ## The values that are fetched -/

/-- What a getter logs of the value it fetched. -/
def Cached.found : Cached → String
  | .driverInfo => "driverInfo:%s"
  | .deviceInfo => "deviceList:%s"
  | .productSn => "productSN:%s"
  | .deviceSn => "deviceSN:%s"

/-- The string a getter turns its member into, if it comes to that. -/
def Machine.fetched (config : DriverConfig) (env : SetupEnv) (machine : Machine) (cached : Cached) :
    Option (Option CString) :=
  match machine.globals.cached cached with
  | some _ => none
  | none => do
    let (document, _) ← machine.load config env
    let item ← (← document).getObjectItem cached.name
    return cached.read config env.cJsonPrint item

private theorem logWrite_passes {level : LogLevel} {text : String} {args : List Arg} :
    (logWrite level text args).passes (respond env) env.fits machine = env.logFits text args :=
  passes_request _ _

private theorem getCached_passes {cached : Cached} {missing : String}
    {text : CJson → Program setup (Option CString)} (absent : env.logFits missing [] = true)
    (short : ∀ item, LogsShort env (text item) fun _ => True)
    (reads : ∀ item machine, (text item).run (respond env) machine =
      some (cached.read config env.cJsonPrint item, machine)) :
    (getCached config cached cached.name missing cached.found text).passes (respond env) env.fits machine =
      (machine.fetched config env cached).all fun value => env.logFits cached.found [printed value] := by
  have failed : env.logFits "_get_driver_cfg fail!" [] = true := logFits_of_inside (by decide +kernel)
  have loads (machine : Machine) : (getDriverCfg config).passes (respond env) env.fits machine = true :=
    getDriverCfg_logsShort.passes machine
  have asks (machine : Machine) : globals.passes (respond env) env.fits machine = true := passes_request _ _
  have keeps (known : Globals) (machine : Machine) :
      (store known).passes (respond env) env.fits machine = true := passes_request _ _
  rw [getCached, passes_bind, asks, run_globals, respond, Machine.fetched]
  cases kept : machine.globals.cached cached with
  | some value => simp [kept]
  | none =>
    simp only [Option.map_some, Option.getD_some, kept, passes_bind, loads, getDriverCfg_run, Bool.true_and]
    cases loaded : machine.load config env with
    | none => rfl
    | some result =>
      obtain ⟨document, next⟩ := result
      have same := load_document loaded
      subst same
      cases known : next.globals.driverConfigJson with
      | none => simp [passes_bind, logWrite_passes, failed, respond]
      | some document =>
        cases member : document.getObjectItem cached.name with
        | none =>
          simp [passes_bind, loads, getDriverCfg_run, load_known known, member, logWrite_passes, absent, respond]
        | some item =>
          simp [passes_bind, loads, getDriverCfg_run, load_known known, member, logWrite_passes, respond,
            (short item).passes, reads, asks, keeps]

/-- The logs of a getter fit exactly when that of the value it fetched does. -/
theorem edgeGet_passes (cached : Cached) : (edgeGet config cached).passes (respond env) env.fits machine =
    (machine.fetched config env cached).all fun value => env.logFits cached.found [printed value] := by
  have prints (item : CJson) : LogsShort env (printItem config item) fun _ => True := by simp [printItem]
  cases cached
  · exact getCached_passes (logFits_of_inside (by decide +kernel)) prints fun item machine => printItem_run
  · exact getCached_passes (logFits_of_inside (by decide +kernel)) prints fun item machine => printItem_run
  · exact getCached_passes (logFits_of_inside (by decide +kernel)) (fun item => by simp) fun item machine => rfl
  · exact getCached_passes (logFits_of_inside (by decide +kernel)) (fun item => by simp) fun item machine => rfl

end IotstackDriver.Edge.Setup
