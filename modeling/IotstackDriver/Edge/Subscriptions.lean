import IotstackDriver.Edge.Configuration

/-! The subscriptions that runs of set-up calls make, connection by connection. -/

namespace IotstackDriver.Edge.Setup

open Libc Support
open Program (run_bind run_pure)

/-- The driver's own subscriptions on a connection, in order. -/
def driverOn (connection : Nat) (subscriptions : List Subscription) : List (Bytes × MsgHandler) :=
  (subscriptions.filter fun made => made.conn = some connection ∧ made.handler ≠ .onNatsMessage).map
    fun made => (made.subject, made.handler)

/-- The string the document has under a name. -/
def Machine.documented (machine : Machine) (name : String) : Option CString :=
  (machine.globals.driverConfigJson.bind fun document => document.getObjectItem name).bind
    CJson.valuestring

/-- The subject of the messages for the driver. -/
def Machine.localSubject (machine : Machine) : Bytes :=
  snprintf natsSubjectMaxLen edgeLocalSubjectFormat [printed (machine.documented "driverID")]

variable {config : DriverConfig} {env : SetupEnv} {machine middle next final : Machine}
  {calls more : List (SetupEnv × SetupCall)} {call : SetupCall} {result : SetupResult}
  {results : List SetupResult} {connection : Nat}

@[simp] theorem driverOn_append (first second : List Subscription) :
    driverOn connection (first ++ second) = driverOn connection first ++ driverOn connection second := by
  simp [driverOn]

theorem driverOn_eq_nil {subscriptions : List Subscription}
    (apart : ∀ made ∈ subscriptions, made.conn ≠ some connection) :
    driverOn connection subscriptions = [] := by
  simp only [driverOn, List.map_eq_nil_iff, List.filter_eq_nil_iff]
  exact fun made member => by simp [apart made member]

theorem taken_conn {conn : Option Nat} {wanted : List (Bytes × MsgHandler)} :
    ∀ made ∈ env.taken conn wanted, made.conn = conn := by
  induction wanted with
  | nil => exact nofun
  | cons first rest ih =>
    obtain ⟨subject, handler⟩ := first
    intro made member
    rw [SetupEnv.taken] at member
    split at member
    · rcases List.mem_cons.mp member with rfl | later
      · rfl
      · exact ih made later
    · split at member
      · rw [List.mem_singleton.mp member]
      · cases member

/-- What is taken of the wanted subscriptions is the first of them. -/
theorem driverOn_taken {wanted : List (Bytes × MsgHandler)}
    (own : ∀ subscription ∈ wanted, subscription.2 ≠ .onNatsMessage) :
    driverOn connection (env.taken (some connection) wanted) <+: wanted ∧
      ((wanted.all fun subscription => env.subscribed subscription.2) = true →
        driverOn connection (env.taken (some connection) wanted) = wanted) := by
  induction wanted with
  | nil => exact ⟨List.prefix_rfl, fun _ => rfl⟩
  | cons first rest ih =>
    obtain ⟨subject, handler⟩ := first
    obtain ⟨starts, whole⟩ := ih fun subscription member => own subscription (List.mem_cons_of_mem _ member)
    have named := own (subject, handler) List.mem_cons_self
    rw [SetupEnv.taken]
    split
    · rename_i subscribed
      have one : driverOn connection (⟨some connection, subject, handler⟩ ::
          env.taken (some connection) rest) =
            (subject, handler) :: driverOn connection (env.taken (some connection) rest) := by
        simp [driverOn, named]
      rw [one]
      refine ⟨List.cons_prefix_cons.mpr ⟨rfl, starts⟩, fun all => ?_⟩
      rw [whole (by simpa [subscribed] using all)]
    · rename_i failed
      refine ⟨?_, fun all => ?_⟩
      · split
        · have one : driverOn connection [⟨some connection, subject, handler⟩] = [(subject, handler)] := by
            simp [driverOn, named]
          rw [one]
          exact ⟨rest, rfl⟩
        · exact List.nil_prefix
      · simp [failed] at all

/-! ## The parts of a machine that a call keeps -/

theorem load_rest {document : Option CJson} (load : machine.load config env = some (document, next)) :
    ∃ globals opens blocks, next = { machine with globals, opens, blocks } := by
  rw [Machine.load] at load
  split at load
  · cases load
    exact ⟨_, _, _, rfl⟩
  · split at load
    · split at load
      · split at load <;> cases load
        exact ⟨_, _, _, rfl⟩
      · cases load
        exact ⟨_, _, _, rfl⟩
    · cases load
      exact ⟨_, _, _, rfl⟩

theorem fetch_rest (cached : Cached) (document : Option CJson) :
    ∃ globals, (machine.fetch config env cached document).2 = { machine with globals } := by
  rw [Machine.fetch.eq_def]
  split
  · exact ⟨_, rfl⟩
  · split <;> exact ⟨_, rfl⟩

theorem identify_rest (document : Option CJson) :
    ∃ globals, (machine.identify document).2 = { machine with globals } := by
  rw [Machine.identify.eq_def]
  split
  · exact ⟨_, rfl⟩
  · split
    · exact ⟨_, rfl⟩
    · split <;> exact ⟨_, rfl⟩

theorem parse_rest {status : EdgeStatus}
    (parse : (parseDriverCfg config).run (respond env) machine = some (status, next)) :
    ∃ globals opens blocks, next = { machine with globals, opens, blocks } := by
  rw [parseDriverCfg_run] at parse
  split at parse
  · obtain ⟨⟨document, loaded⟩, load, same⟩ := Option.map_eq_some_iff.mp parse
    obtain rfl := congrArg Prod.snd same
    obtain ⟨globals, opens, blocks, rfl⟩ := load_rest load
    obtain ⟨globals', same⟩ := @identify_rest { machine with globals, opens, blocks } document
    exact ⟨globals', opens, blocks, same⟩
  · cases parse
    exact ⟨_, _, _, rfl⟩

/-- The document has a driver's id and name. -/
def Machine.identified (machine : Machine) : Bool :=
  machine.globals.driverConfigJson.any fun document =>
    (document.getObjectItem "driverID").isSome && (document.getObjectItem "driverName").isSome

/-- An identified driver goes by the id and the name in the document. -/
structure Named (machine : Machine) : Prop where
  identified : machine.identified = true
  driverId : machine.globals.driverId = machine.documented "driverID"
  driverName : machine.globals.driverName = machine.documented "driverName"

theorem parse_named (coherent : Coherent config machine)
    (parse : (parseDriverCfg config).run (respond env) machine = some (.ok, next)) : Named next := by
  rw [parseDriverCfg_run] at parse
  split at parse
  · obtain ⟨⟨document, loaded⟩, load, same⟩ := Option.map_eq_some_iff.mp parse
    obtain rfl := load_document load
    rw [Machine.identify.eq_def] at same
    split at same
    · cases same
    · rename_i document known
      have known : loaded.globals.driverConfigJson = some document := known
      split at same
      · cases same
      · rename_i driverIdJson identified
        split at same
        · cases same
        · rename_i driverNameJson named
          cases same
          constructor <;> simp [Machine.identified, Machine.documented, known, identified, named]
  · rename_i known
    cases parse
    cases keptId : machine.globals.driverId with
    | none => simp [keptId] at known
    | some driverId =>
      cases keptName : machine.globals.driverName with
      | none => simp [keptName] at known
      | some driverName =>
        obtain ⟨document, item, there, identified, id⟩ := coherent.driverId driverId keptId
        obtain ⟨document', item', there', named, name⟩ := coherent.driverName driverName keptName
        cases there.symm.trans there'
        constructor <;>
          simp [Machine.identified, Machine.documented, keptId, keptName, there, identified, named, id, name]

/-! ## Connections -/

/-- On every connection the driver's own subscriptions are the first of the three, and there
are none before the document names a driver. -/
structure Connected (machine : Machine) : Prop where
  ahead : ∀ connection, machine.connections ≤ connection → driverOn connection machine.subscriptions = []
  starts : ∀ connection, driverOn connection machine.subscriptions <+: driverSubscriptions machine.localSubject
  unnamed : machine.identified = false → ∀ connection, driverOn connection machine.subscriptions = []

/-- The connections with all three. -/
def Machine.served (machine : Machine) : Nat :=
  (List.range machine.connections).countP fun connection =>
    driverOn connection machine.subscriptions = driverSubscriptions machine.localSubject

theorem initial_connected : Connected .initial :=
  ⟨fun _ _ => rfl, fun _ => List.nil_prefix, fun _ _ => rfl⟩

private theorem named_same (persists : Persists machine next) (named : machine.identified = true) :
    next.identified = true ∧ next.localSubject = machine.localSubject := by
  obtain ⟨document, known, -⟩ := (Option.any_eq_true ..).mp named
  have kept := persists.document document known
  simp only [Machine.identified, Machine.localSubject, Machine.documented, known, kept] at named ⊢
  exact ⟨named, trivial⟩

theorem Connected.unserved (connected : Connected machine) (unnamed : machine.identified = false) :
    machine.served = 0 :=
  List.countP_eq_zero.mpr fun connection _ => by
    rw [connected.unnamed unnamed connection]
    exact Bool.false_ne_true

/-- A call that makes no subscription of the driver's own keeps the others. -/
theorem Connected.of_same (connected : Connected machine) (persists : Persists machine next)
    (same : ∀ connection, driverOn connection next.subscriptions = driverOn connection machine.subscriptions)
    (grows : machine.connections ≤ next.connections) :
    Connected next ∧ machine.served ≤ next.served := by
  cases named : machine.identified with
  | false =>
    have none_made (connection : Nat) : driverOn connection next.subscriptions = [] :=
      (same connection).trans (connected.unnamed named connection)
    refine ⟨⟨fun connection _ => none_made connection, ?_, fun _ => none_made⟩, ?_⟩
    · exact fun connection => none_made connection ▸ List.nil_prefix
    · exact connected.unserved named ▸ Nat.zero_le _
  | true =>
    obtain ⟨named', address⟩ := named_same persists named
    refine ⟨⟨?_, ?_, ?_⟩, ?_⟩
    · exact fun connection after => (same connection).trans (connected.ahead connection (grows.trans after))
    · intro connection
      rw [same, address]
      exact connected.starts connection
    · exact fun unnamed => absurd named' (Bool.eq_false_iff.mp unnamed)
    · refine Nat.le_trans (List.countP_mono_left fun connection _ all => ?_)
        (List.range_sublist.mpr grows).countP_le
      simpa only [same, address] using all

/-- An initialisation that comes to subscribing does so on a connection of its own. -/
theorem Connected.subscribes {parsed : Machine} (connected : Connected parsed) (named : Named parsed)
    (conn : parsed.conn = some connection) (connections : parsed.connections = connection + 1)
    (fresh : driverOn connection parsed.subscriptions = []) :
    Connected (parsed.addressed.subscribed env) ∧
      parsed.served + env.allSubscribed.toNat ≤ (parsed.addressed.subscribed env).served := by
  have own : ∀ subscription ∈ driverSubscriptions parsed.localSubject, subscription.2 ≠ .onNatsMessage := by
    simp [driverSubscriptions]
  have all : ((driverSubscriptions parsed.localSubject).all fun subscription =>
      env.subscribed subscription.2) = env.allSubscribed := by
    simp [driverSubscriptions, SetupEnv.allSubscribed, Bool.and_assoc]
  obtain ⟨starts, whole⟩ := @driverOn_taken env connection _ own
  rw [all] at whole
  have made : (parsed.addressed.subscribed env).subscriptions = parsed.subscriptions ++
      env.taken (some connection) (driverSubscriptions parsed.localSubject) := by
    simp only [Machine.subscribed, Machine.addressed, Machine.localSubject, conn, named.driverId]
  have there : driverOn connection (parsed.addressed.subscribed env).subscriptions =
      driverOn connection (env.taken (some connection) (driverSubscriptions parsed.localSubject)) := by
    rw [made, driverOn_append, fresh, List.nil_append]
  have elsewhere (other : Nat) (apart : other ≠ connection) :
      driverOn other (parsed.addressed.subscribed env).subscriptions = driverOn other parsed.subscriptions := by
    have none_made : driverOn other (env.taken (some connection)
        (driverSubscriptions parsed.localSubject)) = [] := by
      refine driverOn_eq_nil fun made member same => apart ?_
      exact (Option.some.inj ((taken_conn made member).symm.trans same)).symm
    rw [made, driverOn_append, none_made, List.append_nil]
  have same : (parsed.addressed.subscribed env).localSubject = parsed.localSubject := rfl
  refine ⟨⟨fun other after => ?_, fun other => ?_, ?_⟩, ?_⟩
  · have bound : connection + 1 ≤ other := connections ▸ after
    rw [elsewhere other (by omega)]
    exact connected.ahead other after
  · rw [same]
    by_cases here : other = connection
    · subst here
      rw [there]
      exact starts
    · rw [elsewhere other here]
      exact connected.starts other
  · exact fun unnamed => absurd named.identified (Bool.eq_false_iff.mp unnamed)
  · have grown : (parsed.addressed.subscribed env).connections = connection + 1 := connections
    have unserved : ¬ driverOn connection parsed.subscriptions = driverSubscriptions parsed.localSubject := by
      rw [fresh]
      exact (List.cons_ne_nil _ _).symm
    simp only [Machine.served, connections, grown, same, List.range_succ, List.countP_append,
      List.countP_singleton, unserved, decide_false, Bool.false_eq_true, ↓reduceIte]
    refine Nat.add_le_add (List.countP_mono_left fun other member served => ?_) ?_
    · have before := List.mem_range.mp member
      simpa only [elsewhere other (Nat.ne_of_lt before)] using served
    · cases subscribed : env.allSubscribed with
      | false => exact Nat.zero_le _
      | true =>
        simp [there, whole subscribed]

/-- An initialisation whose driver is identified subscribes on a new connection. -/
theorem Connected.initialises {parsed : Machine} (connected : Connected machine)
    (coherent : Coherent config machine)
    (parse : (parseDriverCfg config).run (respond env) machine.prepared = some (.ok, parsed)) :
    Connected (parsed.addressed.subscribed env) ∧
      machine.served + env.allSubscribed.toNat ≤ (parsed.addressed.subscribed env).served := by
  have prepares : Settles config machine machine.prepared := .of_same rfl rfl rfl rfl rfl
  have persists := ((prepares.trans (.parse parse)) coherent).2
  have named := parse_named (prepares coherent).1 parse
  obtain ⟨globals, opens, blocks, rfl⟩ := parse_rest parse
  obtain ⟨kept, served⟩ := connected.of_same persists (fun _ => rfl) (Nat.le_succ _)
  obtain ⟨subscribed, more⟩ := kept.subscribes named rfl rfl
    (connected.ahead machine.connections (Nat.le_refl _))
  exact ⟨subscribed, (Nat.add_le_add_right served _).trans more⟩

/-- The outcome of an initialisation that succeeded. -/
def succeeded (outcome : SetupCall × SetupResult) : Bool :=
  outcome = (.commonInit, .status .ok)

theorem Called.connected (called : Called config env machine call result next)
    (coherent : Coherent config machine) (connected : Connected machine) :
    Connected next ∧ machine.served + (succeeded (call, result)).toNat ≤ next.served := by
  have persists := (called.settles coherent).2
  have unsuccessful {status : EdgeStatus} (failed : status ≠ .ok) :
      succeeded (.commonInit, .status status) = false := by simp [succeeded, failed]
  cases called with
  | subscribed =>
    refine connected.of_same persists (fun connection => ?_) ?_
    · split
      · simp [driverOn]
      · rfl
    · split <;> exact Nat.le_refl _
  | known kept => exact connected.of_same persists (fun _ => rfl) (Nat.le_refl _)
  | @fetched cached document loaded unset load =>
    obtain ⟨globals, opens, blocks, rfl⟩ := load_rest load
    obtain ⟨globals', same⟩ := @fetch_rest config env { machine with globals, opens, blocks } cached document
    rw [same] at persists ⊢
    exact connected.of_same persists (fun _ => rfl) (Nat.le_refl _)
  | unprepared refused failed =>
    rw [unsuccessful failed]
    exact connected.of_same persists (fun _ => rfl) (Nat.le_refl _)
  | unidentified ready parse =>
    rw [unsuccessful (by decide)]
    obtain ⟨globals, opens, blocks, rfl⟩ := parse_rest parse
    exact connected.of_same persists (fun _ => rfl) (Nat.le_succ _)
  | unsubscribed ready parse failed =>
    rw [unsuccessful (by decide)]
    obtain ⟨subscribed, served⟩ := @Connected.initialises config env machine _ connected coherent parse
    exact ⟨subscribed, (Nat.add_le_add_left (Nat.zero_le _) _).trans served⟩
  | @initialised parsed ready parse all created =>
    obtain ⟨subscribed, served⟩ := @Connected.initialises config env machine _ connected coherent parse
    rw [all] at served
    have timed : Persists (parsed.addressed.subscribed env) { parsed.addressed.subscribed env with
        timers := (parsed.addressed.subscribed env).timers + env.timerSettime.toNat } :=
      ⟨fun _ kept => kept, fun _ kept => kept, fun _ kept => kept, fun _ _ kept => kept, fun _ => rfl⟩
    obtain ⟨kept, more⟩ := subscribed.of_same timed (fun _ => rfl) (Nat.le_refl _)
    exact ⟨kept, served.trans more⟩

/-! ## Runs -/

theorem runSetup_connected (coherent : Coherent config machine) (connected : Connected machine)
    (ran : runSetup config calls machine = some (results, final)) :
    Coherent config final ∧ Connected final ∧
      machine.served + ((calls.map Prod.snd).zip results).countP succeeded ≤ final.served := by
  induction calls generalizing machine results with
  | nil =>
    cases ran
    exact ⟨coherent, connected, Nat.le_refl _⟩
  | cons first rest ih =>
    obtain ⟨env, call⟩ := first
    obtain ⟨result, next, others, rfl, now, ran⟩ := runSetup_cons ran
    have called := called_of_run now
    obtain ⟨kept, served⟩ := called.connected coherent connected
    obtain ⟨ends, still, all⟩ := ih (called.settles coherent).1 kept ran
    refine ⟨ends, still, ?_⟩
    simp only [List.map_cons, List.zip_cons_cons, List.countP_cons]
    have counted : (if succeeded (call, result) = true then 1 else 0) = (succeeded (call, result)).toNat := by
      cases succeeded (call, result) <;> rfl
    omega

/-- In every run of set-up calls, the driver's own subscriptions on a connection are the first
of the three, at most once each and under the id of the document, and every initialisation that
succeeded has a connection with all three. -/
theorem driver_subscriptions (config : DriverConfig) (calls : List (SetupEnv × SetupCall))
    (results : List SetupResult) (final : Machine)
    (ran : runSetup config calls .initial = some (results, final)) :
    (∀ connection, driverOn connection final.subscriptions <+: driverSubscriptions final.localSubject) ∧
      ((calls.map Prod.snd).zip results).countP succeeded ≤
        (List.range final.connections).countP fun connection =>
          driverOn connection final.subscriptions = driverSubscriptions final.localSubject := by
  obtain ⟨-, connected, served⟩ := runSetup_connected initial_coherent initial_connected ran
  exact ⟨connected.starts, (Nat.le_add_left ..).trans served⟩

/-- Two initialisations in a row leave two connections with all three. -/
theorem driver_subscriptions_twice : ∃ final,
    runSetup settled [(.calm settingsText, .commonInit), (.calm namelessText, .commonInit)] .initial =
      some ([.status .ok, .status .ok], final) ∧
      2 ≤ (List.range final.connections).countP fun connection =>
        driverOn connection final.subscriptions = driverSubscriptions final.localSubject := by
  obtain ⟨final, ran⟩ := ran_of_results (by decide +kernel : (runSetup settled
    [(.calm settingsText, .commonInit), (.calm namelessText, .commonInit)] .initial).map Prod.fst =
      some [.status .ok, .status .ok])
  exact ⟨final, ran, (driver_subscriptions _ _ _ _ ran).2⟩

/-- A document is final: what it lacks is not found in any later call, whatever the file holds
by then, and a driver it does not identify never subscribes. -/
theorem document_final (config : DriverConfig) (earlier later : List (SetupEnv × SetupCall))
    (first second : List SetupResult) (middle final : Machine) (document : CJson)
    (before : runSetup config earlier .initial = some (first, middle))
    (kept : middle.globals.driverConfigJson = some document)
    (after : runSetup config later middle = some (second, final)) :
    (∀ cached value, document.getObjectItem cached.name = none →
      (SetupCall.get cached, SetupResult.text (some value)) ∉ (later.map Prod.snd).zip second) ∧
      (document.getObjectItem "driverID" = none ∨ document.getObjectItem "driverName" = none →
        (SetupCall.commonInit, SetupResult.status .ok) ∉ (later.map Prod.snd).zip second ∧
          ∀ connection, driverOn connection final.subscriptions = []) := by
  obtain ⟨settled, connected, -⟩ := runSetup_connected initial_coherent initial_connected before
  obtain ⟨coherent, persists, returned⟩ := runSetup_settles settled after
  obtain ⟨-, connected, served⟩ := runSetup_connected settled connected after
  have still := persists.document document kept
  refine ⟨fun cached value missing member => ?_, fun missing => ?_⟩
  · obtain ⟨document', item, known, found, -⟩ := coherent.cached cached value (returned cached value member)
    cases still.symm.trans known
    cases missing.symm.trans found
  · have unnamed : final.identified = false := by
      rw [Machine.identified, still]
      rcases missing with missing | missing <;> simp [missing]
    refine ⟨fun member => ?_, connected.unnamed unnamed⟩
    have some_success := List.countP_pos_iff.mpr ⟨_, member, (by decide :
      succeeded (SetupCall.commonInit, SetupResult.status .ok) = true)⟩
    have none_served := connected.unserved unnamed
    omega

/-- A driver that was started without a name in the file stays without one. -/
theorem document_final_nameless : ∃ first second middle final,
    runSetup settled [(.calm namelessText, .commonInit)] .initial = some (first, middle) ∧
      runSetup settled [(.calm settingsText, .commonInit)] middle = some (second, final) ∧
      ∀ connection, driverOn connection final.subscriptions = [] := by
  have nameless : ((runSetup settled [(.calm namelessText, .commonInit)] .initial).bind
      fun run => run.2.globals.driverConfigJson).map (fun document =>
        (document.getObjectItem "driverName").isNone) = some true := by decide +kernel
  obtain ⟨document, kept, missing⟩ := Option.map_eq_some_iff.mp nameless
  obtain ⟨⟨first, middle⟩, before, kept⟩ := Option.bind_eq_some_iff.mp kept
  obtain ⟨final, ran⟩ := ran_of_results (by decide +kernel : (runSetup settled
    ([(.calm namelessText, .commonInit)] ++ [(.calm settingsText, .commonInit)]) .initial).map Prod.fst =
      some [.status .err, .status .err])
  rw [runSetup_append, before, Option.bind_some] at ran
  obtain ⟨⟨second, last⟩, after, -⟩ := Option.map_eq_some_iff.mp ran
  exact ⟨first, second, middle, last, before, after, ((document_final _ _ _ _ _ _ _ document before kept
    after).2 (.inr (Option.isNone_iff_eq_none.mp missing))).2⟩

/-! ## The driver's address -/

/-- An identified driver, with the subjects it is reached and reaches the router by. -/
structure Addressed (machine : Machine) : Prop extends Named machine where
  router : machine.globals.edgeRouterSubject = snprintf natsSubjectMaxLen edgeRouterSubjectFormat
    [printed (machine.documented "driverID")]
  reached : machine.globals.edgeLocalSubject = machine.localSubject

theorem Named.parse (named : Named machine) :
    (parseDriverCfg config).run (respond env) machine = some (.ok, machine) := by
  obtain ⟨document, known, both⟩ := (Option.any_eq_true ..).mp named.identified
  obtain ⟨identified, titled⟩ := Bool.and_eq_true_iff.mp both
  obtain ⟨driverIdJson, identified⟩ := Option.isSome_iff_exists.mp identified
  obtain ⟨driverNameJson, titled⟩ := Option.isSome_iff_exists.mp titled
  have id : machine.globals.driverId = driverIdJson.valuestring := by
    simpa [Machine.documented, known, identified] using named.driverId
  have name : machine.globals.driverName = driverNameJson.valuestring := by
    simpa [Machine.documented, known, titled] using named.driverName
  rw [parseDriverCfg_run, load_known known]
  split
  · simp only [Option.map_some, Machine.identify, identified, titled, ← id, ← name]
  · rfl

theorem Named.addresses (named : Named machine) : Addressed machine.addressed where
  identified := named.identified
  driverId := named.driverId
  driverName := named.driverName
  router := by simp only [Machine.addressed, named.driverId]; rfl
  reached := by simp only [Machine.addressed, named.driverId]; rfl

theorem Addressed.of_same (addressed : Addressed machine)
    (document : next.globals.driverConfigJson = machine.globals.driverConfigJson)
    (driverId : next.globals.driverId = machine.globals.driverId)
    (driverName : next.globals.driverName = machine.globals.driverName)
    (router : next.globals.edgeRouterSubject = machine.globals.edgeRouterSubject)
    (reached : next.globals.edgeLocalSubject = machine.globals.edgeLocalSubject) : Addressed next := by
  have documented (name : String) : next.documented name = machine.documented name := by
    rw [Machine.documented, document, Machine.documented]
  refine ⟨⟨?_, ?_, ?_⟩, ?_, ?_⟩
  · rw [Machine.identified, document]
    exact addressed.identified
  · rw [driverId, documented, addressed.driverId]
  · rw [driverName, documented, addressed.driverName]
  · rw [router, documented, addressed.router]
  · rw [reached, addressed.reached, Machine.localSubject, Machine.localSubject, documented]

/-- A successful initialisation gives the driver its address. -/
theorem Called.addresses (called : Called config env machine call result next)
    (coherent : Coherent config machine) (success : succeeded (call, result) = true) : Addressed next := by
  cases called with
  | subscribed => simp [succeeded] at success
  | known => simp [succeeded] at success
  | fetched => simp [succeeded] at success
  | unprepared refused failed => simp [succeeded, failed] at success
  | unidentified => exact absurd success (by decide)
  | unsubscribed => exact absurd success (by decide)
  | initialised ready parse all created =>
    have prepares : Settles config machine machine.prepared := .of_same rfl rfl rfl rfl rfl
    exact (parse_named (prepares coherent).1 parse).addresses.of_same rfl rfl rfl rfl rfl

/-- Calls leave an address as it is. -/
theorem Called.addressed (called : Called config env machine call result next)
    (addressed : Addressed machine) : Addressed next ∧
      next.globals.driverConfigJson = machine.globals.driverConfigJson := by
  have prepared : Named machine.prepared := ⟨addressed.identified, addressed.driverId, addressed.driverName⟩
  cases called with
  | subscribed => split <;> exact ⟨addressed.of_same rfl rfl rfl rfl rfl, rfl⟩
  | known => exact ⟨addressed, rfl⟩
  | @fetched cached document loaded unset load =>
    obtain ⟨document, known, -⟩ := (Option.any_eq_true ..).mp addressed.identified
    rw [load_known known] at load
    cases load
    rw [Machine.fetch]
    split <;> exact ⟨addressed.of_same rfl rfl rfl rfl rfl, rfl⟩
  | unprepared => exact ⟨addressed.of_same rfl rfl rfl rfl rfl, rfl⟩
  | unidentified ready parse => cases prepared.parse.symm.trans parse
  | unsubscribed ready parse | initialised ready parse =>
    cases prepared.parse.symm.trans parse
    exact ⟨prepared.addresses.of_same rfl rfl rfl rfl rfl, rfl⟩

theorem runSetup_addressed (addressed : Addressed machine)
    (ran : runSetup config calls machine = some (results, final)) : Addressed final ∧
      final.globals.driverConfigJson = machine.globals.driverConfigJson := by
  induction calls generalizing machine results with
  | nil =>
    cases ran
    exact ⟨addressed, rfl⟩
  | cons first rest ih =>
    obtain ⟨env, call⟩ := first
    obtain ⟨result, next, others, rfl, now, ran⟩ := runSetup_cons ran
    obtain ⟨still, document⟩ := (called_of_run now).addressed addressed
    obtain ⟨ends, document'⟩ := ih still ran
    exact ⟨ends, document'.trans document⟩

theorem runSetup_addresses (coherent : Coherent config machine)
    (ran : runSetup config calls machine = some (results, final))
    (success : ∃ outcome ∈ (calls.map Prod.snd).zip results, succeeded outcome = true) : Addressed final := by
  induction calls generalizing machine results with
  | nil => simp at success
  | cons first rest ih =>
    obtain ⟨env, call⟩ := first
    obtain ⟨result, next, others, rfl, now, ran⟩ := runSetup_cons ran
    have called := called_of_run now
    obtain ⟨outcome, member, success⟩ := success
    rcases List.mem_cons.mp member with rfl | member
    · exact (runSetup_addressed (called.addresses coherent success) ran).1
    · exact ih (called.settles coherent).1 ran ⟨outcome, member, success⟩

/-- From a successful initialisation on, the id and the name are those of the document, the
subjects are made of that id, and neither calls nor a changed file touch them. -/
theorem address_constant (config : DriverConfig) (earlier later : List (SetupEnv × SetupCall))
    (first second : List SetupResult) (middle final : Machine)
    (before : runSetup config earlier .initial = some (first, middle))
    (success : (SetupCall.commonInit, SetupResult.status .ok) ∈ (earlier.map Prod.snd).zip first)
    (after : runSetup config later middle = some (second, final)) :
    middle.globals.edgeRouterSubject =
        snprintf natsSubjectMaxLen edgeRouterSubjectFormat [printed middle.globals.driverId] ∧
      middle.globals.edgeLocalSubject =
        snprintf natsSubjectMaxLen edgeLocalSubjectFormat [printed middle.globals.driverId] ∧
      final.globals.driverId = middle.globals.driverId ∧
      final.globals.driverName = middle.globals.driverName ∧
      final.globals.edgeRouterSubject = middle.globals.edgeRouterSubject ∧
      final.globals.edgeLocalSubject = middle.globals.edgeLocalSubject := by
  have addressed := runSetup_addresses initial_coherent before ⟨_, success, by decide⟩
  obtain ⟨still, document⟩ := runSetup_addressed addressed after
  have documented (name : String) : final.documented name = middle.documented name := by
    rw [Machine.documented, document, Machine.documented]
  refine ⟨?_, ?_, ?_, ?_, ?_, ?_⟩
  · rw [addressed.router, addressed.driverId]
  · rw [addressed.reached, addressed.driverId, Machine.localSubject]
  · rw [still.driverId, addressed.driverId, documented]
  · rw [still.driverName, addressed.driverName, documented]
  · rw [still.router, addressed.router, documented]
  · rw [still.reached, addressed.reached, Machine.localSubject, Machine.localSubject, documented]

/-- An initialised driver keeps its address when the file loses its name. -/
theorem address_constant_renamed : ∃ first second middle final,
    runSetup settled [(.calm settingsText, .commonInit)] .initial = some (first, middle) ∧
      runSetup settled [(.calm namelessText, .commonInit)] middle = some (second, final) ∧
      final.globals.edgeLocalSubject = middle.globals.edgeLocalSubject := by
  obtain ⟨middle, before⟩ := ran_of_results (by decide +kernel : (runSetup settled
    [(.calm settingsText, .commonInit)] .initial).map Prod.fst = some [.status .ok])
  obtain ⟨final, ran⟩ := ran_of_results (by decide +kernel : (runSetup settled
    ([(.calm settingsText, .commonInit)] ++ [(.calm namelessText, .commonInit)]) .initial).map Prod.fst =
      some [.status .ok, .status .ok])
  rw [runSetup_append, before, Option.bind_some] at ran
  obtain ⟨⟨second, last⟩, after, -⟩ := Option.map_eq_some_iff.mp ran
  exact ⟨_, second, middle, last, before, after,
    (address_constant _ _ _ _ _ _ _ before (by decide) after).2.2.2.2.2⟩

end IotstackDriver.Edge.Setup
