import IotstackDriver.Edge.Calls
import IotstackDriver.Edge.SetupLogs

/-! Runs of set-up calls: the document they settle on, the resources they keep and the
subscriptions they make. -/

namespace IotstackDriver.Edge.Setup

open Libc Support
open Program (run_bind run_pure run_guarded run_of_guarded passes_bind)

inductive SetupCall where
  | commonInit
  | natsSubscribe (subject : CString)
  | get (cached : Cached)
  deriving DecidableEq

inductive SetupResult where
  | status (status : EdgeStatus)
  | text (text : Option CString)
  deriving DecidableEq

def SetupCall.program (config : DriverConfig) : SetupCall → Program setup SetupResult
  | commonInit => do return .status (← edgeCommonInit config)
  | natsSubscribe subject => do return .status (← Setup.natsSubscribe subject)
  | get cached => do return .text (← edgeGet config cached)

/-- One call after the other, each with the outcomes it meets. -/
def runSetup (config : DriverConfig) : List (SetupEnv × SetupCall) → Machine →
    Option (List SetupResult × Machine)
  | [], machine => some ([], machine)
  | (env, call) :: rest, machine => do
    let (result, next) ← (call.program config).run (handle env) machine
    let (results, final) ← runSetup config rest next
    return (result :: results, final)

/-- The static variables as they start. -/
def Globals.unset : Globals where
  driverConfigJson := none
  driverId := none
  driverName := none
  cached _ := none
  edgeRouterSubject := []
  edgeLocalSubject := []

def Machine.initial : Machine where
  globals := .unset
  opens := 0
  streams := 0
  blocks := []
  lists _ := false
  mutexes _ := false
  conn := none
  connections := 0
  subscriptions := []
  timers := 0

variable {config : DriverConfig} {env : SetupEnv} {machine middle next final : Machine}
  {calls more : List (SetupEnv × SetupCall)} {call : SetupCall} {result : SetupResult}
  {results : List SetupResult}

theorem runSetup_append : runSetup config (calls ++ more) machine =
    (runSetup config calls machine).bind fun first => (runSetup config more first.2).map fun second =>
      (first.1 ++ second.1, second.2) := by
  induction calls generalizing machine with
  | nil => simp [runSetup]
  | cons first rest ih =>
    obtain ⟨env, call⟩ := first
    simp only [List.cons_append, runSetup, Option.bind_eq_bind]
    cases (call.program config).run (handle env) machine with
    | none => rfl
    | some answer =>
      simp only [Option.bind_some, ih]
      cases runSetup config rest answer.2 with
      | none => rfl
      | some first =>
        cases later : runSetup config more first.2 <;> simp [later]

theorem runSetup_cons (ran : runSetup config ((env, call) :: calls) machine = some (results, final)) :
    ∃ result next others, results = result :: others ∧
      (call.program config).run (handle env) machine = some (result, next) ∧
      runSetup config calls next = some (others, final) := by
  obtain ⟨⟨result, next⟩, now, later⟩ := Option.bind_eq_some_iff.mp ran
  obtain ⟨⟨others, last⟩, ran, same⟩ := Option.bind_eq_some_iff.mp later
  cases same
  exact ⟨result, next, others, rfl, now, ran⟩

/-! ## One call -/

/-- What a call comes to. -/
inductive Called (config : DriverConfig) (env : SetupEnv) (machine : Machine) :
    SetupCall → SetupResult → Machine → Prop
  | subscribed {subject : CString} {status : EdgeStatus} :
      Called config env machine (.natsSubscribe subject) (.status status)
        (if env.subscribe .onNatsMessage = .ok then { machine with
          subscriptions := machine.subscriptions ++ [⟨machine.conn, subject.bytes, .onNatsMessage⟩] }
        else machine)
  | known {cached : Cached} {value : CString} (kept : machine.globals.cached cached = some value) :
      Called config env machine (.get cached) (.text (some value)) machine
  | fetched {cached : Cached} {document : Option CJson} {loaded : Machine}
      (unset : machine.globals.cached cached = none)
      (load : machine.load config env = some (document, loaded)) :
      Called config env machine (.get cached) (.text (loaded.fetch config env cached document).1)
        (loaded.fetch config env cached document).2
  | unprepared {status : EdgeStatus} {lists mutexes : RegistryList → Bool}
      (refused : env.prepared = false) (failed : status ≠ .ok) :
      Called config env machine .commonInit (.status status) { machine with lists, mutexes }
  | unidentified {parsed : Machine} (ready : env.prepared = true)
      (parse : (parseDriverCfg config).run (respond env) machine.prepared = some (.err, parsed)) :
      Called config env machine .commonInit (.status .err) parsed
  | unsubscribed {parsed : Machine} (ready : env.prepared = true)
      (parse : (parseDriverCfg config).run (respond env) machine.prepared = some (.ok, parsed))
      (failed : env.allSubscribed = false) :
      Called config env machine .commonInit (.status .protocolError) (parsed.addressed.subscribed env)
  | initialised {parsed : Machine} (ready : env.prepared = true)
      (parse : (parseDriverCfg config).run (respond env) machine.prepared = some (.ok, parsed))
      (all : env.allSubscribed = true) (created : env.timerCreate = true) :
      Called config env machine .commonInit (.status .ok)
        { parsed.addressed.subscribed env with
          timers := (parsed.addressed.subscribed env).timers + env.timerSettime.toNat }

theorem parse_status {status : EdgeStatus}
    (parse : (parseDriverCfg config).run (respond env) machine = some (status, final)) :
    status = .ok ∨ status = .err := by
  rw [parseDriverCfg_run] at parse
  split at parse
  · obtain ⟨⟨document, loaded⟩, -, same⟩ := Option.map_eq_some_iff.mp parse
    have settled := congrArg Prod.fst same
    subst settled
    simp only [Machine.identify]
    split
    · exact .inr rfl
    · split
      · exact .inr rfl
      · split
        · exact .inr rfl
        · exact .inl rfl
  · cases parse
    exact .inl rfl

private theorem run_status {program : Program setup α} {pack : α → SetupResult}
    (ran : (program >>= fun value => pure (pack value)).run (respond env) machine = some (result, next)) :
    ∃ value, program.run (respond env) machine = some (value, next) ∧ result = pack value := by
  rw [run_bind] at ran
  obtain ⟨⟨value, final⟩, now, same⟩ := Option.bind_eq_some_iff.mp ran
  cases same
  exact ⟨value, now, rfl⟩

theorem called_of_run (handled : (call.program config).run (handle env) machine = some (result, next)) :
    Called config env machine call result next := by
  have ran := (run_of_guarded handled).2
  cases call with
  | natsSubscribe subject =>
    obtain ⟨status, now, rfl⟩ := run_status ran
    have ended : next = if env.subscribe .onNatsMessage = .ok then { machine with
        subscriptions := machine.subscriptions ++ [⟨machine.conn, subject.bytes, .onNatsMessage⟩] }
        else machine := by
      by_cases made : env.subscribe .onNatsMessage = .ok
      · simp only [natsSubscribe, edgeSubscribe, run_bind, run_subscribe, run_flush, respond, made,
          ↓reduceIte, Option.bind_some, run_pure, Option.some.injEq, Prod.mk.injEq] at now ⊢
        exact now.2.symm
      · simp only [natsSubscribe, edgeSubscribe, run_bind, run_subscribe, run_flush, respond, made,
          ↓reduceIte, Option.bind_some, run_pure, Option.some.injEq, Prod.mk.injEq] at now ⊢
        exact now.2.symm
    rw [ended]
    exact .subscribed
  | get cached =>
    obtain ⟨text, now, rfl⟩ := run_status ran
    rw [edgeGet_run] at now
    cases kept : machine.globals.cached cached with
    | some value =>
      rw [kept] at now
      cases now
      exact .known kept
    | none =>
      rw [kept] at now
      obtain ⟨⟨document, loaded⟩, load, same⟩ := Option.map_eq_some_iff.mp now
      obtain ⟨rfl, rfl⟩ := Prod.mk.inj same
      exact .fetched kept load
  | commonInit =>
    obtain ⟨status, now, rfl⟩ := run_status ran
    rw [edgeCommonInit_eq, run_bind] at now
    obtain ⟨refused, lists, mutexes, prepares, whole, failed⟩ := @prepare_run env machine
    rw [prepares, Option.bind_some] at now
    cases refused with
    | some status =>
      have unready : env.prepared = false := by simpa using whole
      rw [unready] at now
      cases now
      exact .unprepared unready fun ok => failed (congrArg some ok)
    | none =>
      have ready := whole.mp rfl
      rw [ready, if_pos rfl] at now
      change (subscribeDriver config).run (respond env) machine.prepared = some (status, next) at now
      rw [subscribeDriver_run] at now
      obtain ⟨⟨parsed, after⟩, parse, now⟩ := Option.bind_eq_some_iff.mp now
      rcases parse_status parse with rfl | rfl
      · have fine : ¬ EdgeStatus.ok = .err := by decide
        rw [if_neg fine] at now
        cases all : env.allSubscribed with
        | false =>
          rw [all] at now
          cases now
          exact .unsubscribed ready parse all
        | true =>
          cases created : env.timerCreate with
          | false =>
            rw [all, created] at now
            cases now
          | true =>
            rw [all, created] at now
            cases now
            exact .initialised ready parse all created
      · cases now
        exact .unidentified ready parse

/-! ## The document -/

/-- The string a value is in the document. -/
def Machine.Holds (machine : Machine) (name : String) (read : CJson → Option CString) (value : CString) :
    Prop :=
  ∃ document item, machine.globals.driverConfigJson = some document ∧
    document.getObjectItem name = some item ∧ read item = some value

/-- Every value is one of the document that is kept. -/
structure Coherent (config : DriverConfig) (machine : Machine) : Prop where
  driverId : ∀ value, machine.globals.driverId = some value →
    machine.Holds "driverID" CJson.valuestring value
  driverName : ∀ value, machine.globals.driverName = some value →
    machine.Holds "driverName" CJson.valuestring value
  cached : ∀ cached value, machine.globals.cached cached = some value →
    machine.Holds cached.name (cached.read config true) value

/-- What is set stays, and the file is not opened again once its document is kept. -/
structure Persists (machine next : Machine) : Prop where
  document : ∀ document, machine.globals.driverConfigJson = some document →
    next.globals.driverConfigJson = some document
  driverId : ∀ value, machine.globals.driverId = some value → next.globals.driverId = some value
  driverName : ∀ value, machine.globals.driverName = some value → next.globals.driverName = some value
  cached : ∀ cached value, machine.globals.cached cached = some value →
    next.globals.cached cached = some value
  opens : machine.globals.driverConfigJson.isSome = true → next.opens = machine.opens

theorem Persists.refl (machine : Machine) : Persists machine machine :=
  ⟨fun _ kept => kept, fun _ kept => kept, fun _ kept => kept, fun _ _ kept => kept, fun _ => rfl⟩

theorem Persists.trans (first : Persists machine middle) (second : Persists middle final) :
    Persists machine final where
  document document kept := second.document document (first.document document kept)
  driverId value kept := second.driverId value (first.driverId value kept)
  driverName value kept := second.driverName value (first.driverName value kept)
  cached cached value kept := second.cached cached value (first.cached cached value kept)
  opens kept := by
    obtain ⟨document, known⟩ := Option.isSome_iff_exists.mp kept
    exact (second.opens (Option.isSome_of_eq_some (first.document document known))).trans (first.opens kept)

/-- A step from a machine whose values are of one document. -/
def Settles (config : DriverConfig) (machine next : Machine) : Prop :=
  Coherent config machine → Coherent config next ∧ Persists machine next

theorem Settles.trans (first : Settles config machine middle) (second : Settles config middle final) :
    Settles config machine final := fun coherent =>
  have settled := first coherent
  have again := second settled.1
  ⟨again.1, settled.2.trans again.2⟩

/-- What set-up does besides does not touch the configuration. -/
theorem Settles.of_same (document : next.globals.driverConfigJson = machine.globals.driverConfigJson)
    (driverId : next.globals.driverId = machine.globals.driverId)
    (driverName : next.globals.driverName = machine.globals.driverName)
    (cached : next.globals.cached = machine.globals.cached) (opens : next.opens = machine.opens) :
    Settles config machine next := by
  intro coherent
  refine ⟨⟨?_, ?_, ?_⟩, ⟨?_, ?_, ?_, ?_, fun _ => opens⟩⟩
  all_goals simp only [Machine.Holds, document, driverId, driverName, cached]
  · exact coherent.driverId
  · exact coherent.driverName
  · exact coherent.cached
  all_goals
    intros
    assumption

/-- Loading the document sets nothing else. -/
theorem load_values {document : Option CJson} (load : machine.load config env = some (document, next)) :
    next.globals.driverId = machine.globals.driverId ∧
      next.globals.driverName = machine.globals.driverName ∧
      next.globals.cached = machine.globals.cached := by
  rw [Machine.load] at load
  split at load
  · cases load
    exact ⟨rfl, rfl, rfl⟩
  · split at load
    · split at load
      · split at load <;> cases load
        exact ⟨rfl, rfl, rfl⟩
      · cases load
        exact ⟨rfl, rfl, rfl⟩
    · cases load
      exact ⟨rfl, rfl, rfl⟩

theorem Settles.load {document : Option CJson} (load : machine.load config env = some (document, next)) :
    Settles config machine next := by
  intro coherent
  cases unset : machine.globals.driverConfigJson with
  | some known =>
    rw [load_known unset] at load
    cases load
    exact ⟨coherent, .refl _⟩
  | none =>
    -- without a document nothing is set yet
    have none_held {name : String} {read : CJson → Option CString} {value : CString} :
        ¬ machine.Holds name read value := by
      rintro ⟨document, -, known, -⟩
      cases unset.symm.trans known
    have noId (value : CString) : machine.globals.driverId ≠ some value := fun kept =>
      none_held (coherent.driverId value kept)
    have noName (value : CString) : machine.globals.driverName ≠ some value := fun kept =>
      none_held (coherent.driverName value kept)
    have noCached (cached : Cached) (value : CString) : machine.globals.cached cached ≠ some value :=
      fun kept => none_held (coherent.cached cached value kept)
    obtain ⟨sameId, sameName, sameCached⟩ := load_values load
    refine ⟨⟨?_, ?_, ?_⟩, ⟨?_, ?_, ?_, ?_, ?_⟩⟩
    · exact fun value kept => absurd (sameId ▸ kept) (noId value)
    · exact fun value kept => absurd (sameName ▸ kept) (noName value)
    · exact fun cached value kept => absurd (sameCached ▸ kept) (noCached cached value)
    · exact fun document known => by cases unset.symm.trans known
    · exact fun value kept => absurd kept (noId value)
    · exact fun value kept => absurd kept (noName value)
    · exact fun cached value kept => absurd kept (noCached cached value)
    · rw [unset]
      exact nofun

theorem Settles.identify : Settles config machine (machine.identify machine.globals.driverConfigJson).2 := by
  intro coherent
  rw [Machine.identify.eq_def]
  split
  · exact ⟨coherent, .refl _⟩
  · rename_i document known
    split
    · exact ⟨coherent, .refl _⟩
    · rename_i driverIdJson identified
      have sameId (value : CString) (kept : machine.globals.driverId = some value) :
          driverIdJson.valuestring = some value := by
        obtain ⟨document', item, known', found, read⟩ := coherent.driverId value kept
        cases known.symm.trans known'
        cases identified.symm.trans found
        exact read
      split
      · refine ⟨⟨?_, coherent.driverName, coherent.cached⟩,
          ⟨fun _ kept => kept, sameId, fun _ kept => kept, fun _ _ kept => kept, fun _ => rfl⟩⟩
        exact fun value kept => ⟨document, driverIdJson, known, identified, kept⟩
      · rename_i driverNameJson named
        have sameName (value : CString) (kept : machine.globals.driverName = some value) :
            driverNameJson.valuestring = some value := by
          obtain ⟨document', item, known', found, read⟩ := coherent.driverName value kept
          cases known.symm.trans known'
          cases named.symm.trans found
          exact read
        refine ⟨⟨?_, ?_, coherent.cached⟩,
          ⟨fun _ kept => kept, sameId, sameName, fun _ _ kept => kept, fun _ => rfl⟩⟩
        · exact fun value kept => ⟨document, driverIdJson, known, identified, kept⟩
        · exact fun value kept => ⟨document, driverNameJson, known, named, kept⟩

theorem Settles.parse {status : EdgeStatus}
    (parse : (parseDriverCfg config).run (respond env) machine = some (status, next)) :
    Settles config machine next := by
  rw [parseDriverCfg_run] at parse
  split at parse
  · obtain ⟨⟨document, loaded⟩, load, same⟩ := Option.map_eq_some_iff.mp parse
    obtain rfl := load_document load
    obtain rfl := congrArg Prod.snd same
    exact (Settles.load load).trans .identify
  · cases parse
    exact fun coherent => ⟨coherent, .refl _⟩

/-- A printed item is the one that is printed when memory allows. -/
theorem Cached.read_allocated {cached : Cached} {allocated : Bool} {item : CJson} {value : CString}
    (read : cached.read config allocated item = some value) : cached.read config true item = some value := by
  cases cached <;> cases allocated <;> first | exact read | cases read

theorem Settles.fetch {cached : Cached} (unset : machine.globals.cached cached = none) :
    Settles config machine (machine.fetch config env cached machine.globals.driverConfigJson).2 := by
  intro coherent
  rw [Machine.fetch.eq_def]
  split
  · exact ⟨coherent, .refl _⟩
  · rename_i document known
    split
    · exact ⟨coherent, .refl _⟩
    · rename_i item found
      refine ⟨⟨coherent.driverId, coherent.driverName, ?_⟩,
        ⟨fun _ kept => kept, fun _ kept => kept, fun _ kept => kept, ?_, fun _ => rfl⟩⟩
      · intro other value kept
        by_cases same : other = cached
        · subst same
          have read : other.read config env.cJsonPrint item = some value := by simpa using kept
          exact ⟨document, item, known, found, Cached.read_allocated read⟩
        · exact coherent.cached other value (by simpa [same] using kept)
      · intro other value kept
        by_cases same : other = cached
        · subst same
          cases unset.symm.trans kept
        · simpa [same] using kept

/-- A value that a getter returns is kept. -/
theorem fetch_kept {cached : Cached} {document : Option CJson} {value : CString}
    (fetched : (machine.fetch config env cached document).1 = some value) :
    (machine.fetch config env cached document).2.globals.cached cached = some value := by
  revert fetched
  rw [Machine.fetch.eq_def]
  split
  · exact nofun
  · split
    · exact nofun
    · exact fun fetched => by simpa using fetched

theorem Called.settles (called : Called config env machine call result next) :
    Settles config machine next := by
  have prepares : Settles config machine machine.prepared := .of_same rfl rfl rfl rfl rfl
  cases called with
  | subscribed =>
    split
    · exact .of_same rfl rfl rfl rfl rfl
    · exact .of_same rfl rfl rfl rfl rfl
  | known => exact .of_same rfl rfl rfl rfl rfl
  | fetched unset load =>
    obtain rfl := load_document load
    exact (Settles.load load).trans (.fetch ((congrFun (load_values load).2.2 _).trans unset))
  | unprepared => exact .of_same rfl rfl rfl rfl rfl
  | unidentified ready parse => exact .trans prepares (.parse parse)
  | unsubscribed ready parse failed =>
    exact .trans prepares (.trans (.parse parse) (.of_same rfl rfl rfl rfl rfl))
  | initialised ready parse all created =>
    exact .trans prepares (.trans (.parse parse) (.of_same rfl rfl rfl rfl rfl))

/-- A string that a getter returned is the one it keeps. -/
theorem Called.kept {cached : Cached} {value : CString}
    (called : Called config env machine (.get cached) (.text (some value)) next) :
    next.globals.cached cached = some value := by
  generalize returned : SetupResult.text (some value) = result at called
  cases called with
  | known kept =>
    cases returned
    exact kept
  | fetched unset load =>
    injection returned with same
    exact fetch_kept same.symm

theorem runSetup_settles (coherent : Coherent config machine)
    (ran : runSetup config calls machine = some (results, final)) :
    Coherent config final ∧ Persists machine final ∧
      ∀ cached value, (SetupCall.get cached, SetupResult.text (some value)) ∈
        (calls.map Prod.snd).zip results → final.globals.cached cached = some value := by
  induction calls generalizing machine results with
  | nil =>
    cases ran
    exact ⟨coherent, .refl _, nofun⟩
  | cons first rest ih =>
    obtain ⟨env, call⟩ := first
    obtain ⟨result, next, others, rfl, now, ran⟩ := runSetup_cons ran
    have called := called_of_run now
    obtain ⟨settled, persists⟩ := called.settles coherent
    obtain ⟨ends, persists', kept⟩ := ih settled ran
    refine ⟨ends, persists.trans persists', fun cached value member => ?_⟩
    rcases List.mem_cons.mp member with same | member
    · cases same
      exact persists'.cached cached value called.kept
    · exact kept cached value member

theorem initial_coherent : Coherent config .initial := ⟨nofun, nofun, fun _ => nofun⟩

/-- In every run of set-up calls all values are of one document, a string that a getter
returned once is what it returns from then on, and nothing that is set changes. -/
theorem settings_from_one_document (config : DriverConfig) (calls : List (SetupEnv × SetupCall))
    (results : List SetupResult) (final : Machine)
    (ran : runSetup config calls .initial = some (results, final)) :
    Coherent config final ∧
      (∀ cached value, (SetupCall.get cached, SetupResult.text (some value)) ∈
        (calls.map Prod.snd).zip results → final.globals.cached cached = some value) ∧
      ∀ earlier later first middle, calls = earlier ++ later →
        runSetup config earlier .initial = some (first, middle) → Persists middle final := by
  obtain ⟨coherent, -, kept⟩ := runSetup_settles initial_coherent ran
  refine ⟨coherent, kept, ?_⟩
  rintro earlier later first middle rfl before
  rw [runSetup_append, before, Option.bind_some] at ran
  obtain ⟨⟨second, last⟩, after, same⟩ := Option.map_eq_some_iff.mp ran
  cases same
  exact (runSetup_settles (runSetup_settles initial_coherent before).1 after).2.1

/-- A configuration file, and one that lacks the name. -/
def settingsText : Bytes :=
  ascii "\x7b\"driverID\":\"d1\",\"driverName\":\"n1\",\"productSN\":\"p1\"\x7d"
def namelessText : Bytes := ascii "\x7b\"driverID\":\"d1\"\x7d"

def settled : DriverConfig :=
  { DriverConfig.plain with
    cJsonParse := fun text =>
      if text = settingsText then
        some (.object [(.literal "driverID", .string (.literal "d1")),
          (.literal "driverName", .string (.literal "n1")), (.literal "productSN", .string (.literal "p1"))])
      else if text = namelessText then some (.object [(.literal "driverID", .string (.literal "d1"))])
      else none }

/-- Nothing fails, and the file holds the text. -/
def SetupEnv.calm (content : Bytes) : SetupEnv where
  fopen _ := true
  ftell := content.length
  malloc := true
  content := content
  cJsonPrint := true
  listNew _ := true
  mutexCreate _ _ := true
  natsServerUrl := none
  connectTo := .ok
  subscribe _ := .ok
  flush _ := .ok
  timerCreate := true
  timerSettime := true
  log _ _ := true

/-- The results of a run, and the machine it ends in. -/
theorem ran_of_results (reached : (runSetup config calls machine).map Prod.fst = some results) :
    ∃ final, runSetup config calls machine = some (results, final) := by
  obtain ⟨⟨same, final⟩, ran, rfl⟩ := Option.map_eq_some_iff.mp reached
  exact ⟨final, ran⟩

/-- The product's serial number stays what it was, also once the file lost it. -/
theorem settings_kept_productSn : ∃ final,
    runSetup settled [(.calm settingsText, .commonInit), (.calm settingsText, .get .productSn),
        (.calm namelessText, .get .productSn)] .initial =
      some ([.status .ok, .text (some (.literal "p1")), .text (some (.literal "p1"))], final) ∧
      final.globals.cached .productSn = some (.literal "p1") := by
  obtain ⟨final, ran⟩ := ran_of_results (by decide +kernel : (runSetup settled
    [(.calm settingsText, .commonInit), (.calm settingsText, .get .productSn),
      (.calm namelessText, .get .productSn)] .initial).map Prod.fst =
        some [.status .ok, .text (some (.literal "p1")), .text (some (.literal "p1"))])
  exact ⟨final, ran, (settings_from_one_document _ _ _ _ ran).2.1 .productSn _ (by decide)⟩

/-! ## The file -/

/-- The call comes to reading the file. -/
def SetupCall.loads (env : SetupEnv) (machine : Machine) : SetupCall → Bool
  | commonInit => env.prepared && machine.globals.driverConfigJson.isNone &&
    (machine.globals.driverId.isNone || machine.globals.driverName.isNone)
  | natsSubscribe _ => false
  | get cached => machine.globals.driverConfigJson.isNone && (machine.globals.cached cached).isNone

/-- The buffer is there, and the file cannot be opened a second time. -/
def SetupCall.leaks (env : SetupEnv) (machine : Machine) (call : SetupCall) : Bool :=
  call.loads env machine && env.malloc && !env.fopen .text

/-- The length wraps to a buffer of no bytes, and the file is read. -/
def SetupCall.overruns (env : SetupEnv) (machine : Machine) (call : SetupCall) : Bool :=
  call.loads env machine && env.malloc && env.fopen .text && env.fileLen + 1 == 0

/-- The driver's id and name are there, or in the document. -/
def Machine.identifies (config : DriverConfig) (env : SetupEnv) (machine : Machine) : Bool :=
  machine.globals.driverId.isSome && machine.globals.driverName.isSome ||
    ((machine.load config env).bind Prod.fst).any fun document =>
      (document.getObjectItem "driverID").isSome && (document.getObjectItem "driverName").isSome

theorem load_eq_none_iff : machine.load config env = none ↔
    machine.globals.driverConfigJson = none ∧ env.malloc = true ∧ env.fopen .text = true ∧
      env.fileLen + 1 = 0 := by
  rw [Machine.load]
  cases machine.globals.driverConfigJson with
  | some known => simp
  | none =>
    cases env.malloc <;> cases env.fopen .text <;> by_cases wraps : env.fileLen + 1 = 0 <;> simp [wraps]

theorem load_resources {document : Option CJson} (load : machine.load config env = some (document, next)) :
    next.streams = machine.streams ∧ next.blocks =
      if machine.globals.driverConfigJson.isNone && env.malloc && !env.fopen .text then
        (env.fileLen + 1).toNat :: machine.blocks
      else machine.blocks := by
  rw [Machine.load] at load
  cases known : machine.globals.driverConfigJson with
  | some document =>
    rw [known] at load
    cases load
    exact ⟨rfl, rfl⟩
  | none =>
    rw [known] at load
    cases allocated : env.malloc <;> cases opened : env.fopen .text <;>
      simp only [allocated, opened, Bool.false_eq_true, ↓reduceIte] at load
    · cases load
      exact ⟨rfl, rfl⟩
    · cases load
      exact ⟨rfl, rfl⟩
    · cases load
      exact ⟨rfl, rfl⟩
    · split at load <;> cases load
      exact ⟨rfl, rfl⟩

theorem fetch_resources (cached : Cached) (document : Option CJson) :
    (machine.fetch config env cached document).2.streams = machine.streams ∧
      (machine.fetch config env cached document).2.blocks = machine.blocks := by
  rw [Machine.fetch.eq_def]
  split
  · exact ⟨rfl, rfl⟩
  · split <;> exact ⟨rfl, rfl⟩

theorem identify_resources (document : Option CJson) :
    (machine.identify document).2.streams = machine.streams ∧
      (machine.identify document).2.blocks = machine.blocks := by
  rw [Machine.identify.eq_def]
  split
  · exact ⟨rfl, rfl⟩
  · split
    · exact ⟨rfl, rfl⟩
    · split <;> exact ⟨rfl, rfl⟩

theorem parse_resources {status : EdgeStatus}
    (parse : (parseDriverCfg config).run (respond env) machine = some (status, next)) :
    next.streams = machine.streams ∧ next.blocks =
      if machine.globals.driverConfigJson.isNone && (machine.globals.driverId.isNone ||
          machine.globals.driverName.isNone) && env.malloc && !env.fopen .text then
        (env.fileLen + 1).toNat :: machine.blocks
      else machine.blocks := by
  rw [parseDriverCfg_run] at parse
  split at parse
  · rename_i unknown
    obtain ⟨⟨document, loaded⟩, load, same⟩ := Option.map_eq_some_iff.mp parse
    obtain rfl := congrArg Prod.snd same
    obtain ⟨streams, blocks⟩ := load_resources load
    rw [unknown, Bool.and_true, (identify_resources document).1, (identify_resources document).2]
    exact ⟨streams, blocks⟩
  · rename_i known
    cases parse
    rw [Bool.eq_false_iff.mpr known, Bool.and_false]
    exact ⟨rfl, rfl⟩

theorem Called.resources (called : Called config env machine call result next) :
    next.streams = machine.streams ∧ next.blocks =
      if call.leaks env machine then (env.fileLen + 1).toNat :: machine.blocks else machine.blocks := by
  cases called with
  | subscribed => split <;> exact ⟨rfl, rfl⟩
  | known kept => simp [SetupCall.leaks, SetupCall.loads, kept]
  | @fetched cached document loaded unset load =>
    obtain ⟨streams, blocks⟩ := load_resources load
    rw [(fetch_resources cached document).1, (fetch_resources cached document).2, SetupCall.leaks,
      SetupCall.loads, unset]
    exact ⟨streams, by simpa using blocks⟩
  | unprepared refused failed => simp [SetupCall.leaks, SetupCall.loads, refused]
  | unidentified ready parse | unsubscribed ready parse | initialised ready parse =>
    obtain ⟨streams, blocks⟩ := parse_resources parse
    rw [SetupCall.leaks, SetupCall.loads, ready]
    exact ⟨streams, blocks⟩

/-- How many calls of a run leave a buffer behind. -/
def leaked (config : DriverConfig) : List (SetupEnv × SetupCall) → Machine → Nat
  | [], _ => 0
  | (env, call) :: rest, machine => (call.leaks env machine).toNat +
    match (call.program config).run (handle env) machine with
    | none => 0
    | some (_, next) => leaked config rest next

/-- Every stream is closed again, and the buffers that stay are those of the calls that could
not open the file a second time. -/
theorem setup_resources (config : DriverConfig) (calls : List (SetupEnv × SetupCall))
    (results : List SetupResult) (machine final : Machine)
    (ran : runSetup config calls machine = some (results, final)) :
    final.streams = machine.streams ∧
      final.blocks.length = machine.blocks.length + leaked config calls machine := by
  induction calls generalizing machine results with
  | nil =>
    cases ran
    exact ⟨rfl, rfl⟩
  | cons first rest ih =>
    obtain ⟨env, call⟩ := first
    obtain ⟨result, next, others, rfl, now, ran⟩ := runSetup_cons ran
    obtain ⟨streams, blocks⟩ := (called_of_run now).resources
    obtain ⟨closed, kept⟩ := ih others next ran
    refine ⟨closed.trans streams, ?_⟩
    rw [kept, blocks, leaked, now]
    cases call.leaks env machine <;> simp
    omega

/-- A file that vanishes between the two times it is opened costs its buffer. -/
theorem setup_resources_vanished : ∃ final,
    runSetup settled [({ SetupEnv.calm [] with fopen := (· = .length) }, .commonInit)] .initial =
      some ([.status .err], final) ∧ final.streams = 0 ∧ final.blocks.length = 1 := by
  obtain ⟨final, ran⟩ := ran_of_results (by decide +kernel : (runSetup settled
    [({ SetupEnv.calm [] with fopen := (· = .length) }, .commonInit)] .initial).map Prod.fst =
      some [.status .err])
  obtain ⟨streams, blocks⟩ := setup_resources _ _ _ _ _ ran
  exact ⟨final, ran, streams, blocks.trans (by decide +kernel)⟩

private theorem unset_iff (first second : Option CString) :
    (first.isNone || second.isNone) = !(first.isSome && second.isSome) := by
  cases first <;> cases second <;> rfl

/-- The driver is identified exactly when both its variables are set or in the document. -/
theorem parse_ok_iff {status : EdgeStatus}
    (parse : (parseDriverCfg config).run (respond env) machine = some (status, next)) :
    status = .ok ↔ machine.identifies config env = true := by
  have failed : ¬ EdgeStatus.err = .ok := by decide
  rw [parseDriverCfg_run, unset_iff] at parse
  rw [Machine.identifies]
  cases known : machine.globals.driverId.isSome && machine.globals.driverName.isSome with
  | true =>
    rw [known] at parse
    cases parse
    exact iff_of_true rfl rfl
  | false =>
    rw [known] at parse
    obtain ⟨⟨document, loaded⟩, load, same⟩ := Option.map_eq_some_iff.mp parse
    obtain rfl := congrArg Prod.fst same
    rw [load, Option.bind_some, Bool.false_or]
    cases document with
    | none => simp [Machine.identify, failed]
    | some document =>
      cases identified : document.getObjectItem "driverID" <;>
        cases named : document.getObjectItem "driverName" <;>
          simp [Machine.identify, failed, identified, named]

theorem parse_eq_none_iff : (parseDriverCfg config).run (respond env) machine = none ↔
    (machine.globals.driverId.isNone || machine.globals.driverName.isNone) = true ∧
      machine.load config env = none := by
  rw [parseDriverCfg_run]
  split <;> simp_all

/-- A getter fetches a string that does not fit the buffer of its log. -/
def SetupCall.overlogs (config : DriverConfig) (env : SetupEnv) (machine : Machine) : SetupCall → Bool
  | .get cached => !(machine.fetched config env cached).all fun value => env.logFits cached.found [printed value]
  | _ => false

theorem setup_passes (config : DriverConfig) (env : SetupEnv) (call : SetupCall) (machine : Machine) :
    (call.program config).passes (respond env) env.fits machine = !call.overlogs config env machine := by
  have packed {α : Type} {program : Program setup α} {pack : α → SetupResult} :
      (program >>= fun value => pure (pack value)).passes (respond env) env.fits machine =
        program.passes (respond env) env.fits machine := by
    rw [passes_bind]
    cases program.run (respond env) machine <;> simp
  cases call with
  | commonInit => exact packed.trans (edgeCommonInit_logsShort.passes machine)
  | natsSubscribe subject =>
    have short : LogsShort env (natsSubscribe subject) fun _ => True := by simp [natsSubscribe, edgeSubscribe]
    exact packed.trans (short.passes machine)
  | get cached =>
    rw [SetupCall.overlogs, Bool.not_not, ← edgeGet_passes]
    exact packed

/-- Without its logs, the initialisation is undefined exactly when it reads the file into a buffer of
no bytes, or sets a timer that was not created. -/
private theorem edgeCommonInit_undefined_iff (config : DriverConfig) (env : SetupEnv) (machine : Machine) :
    (edgeCommonInit config).run (respond env) machine = none ↔
      SetupCall.overruns env machine .commonInit = true ∨ (env.prepared = true ∧
        machine.prepared.identifies config env = true ∧ env.allSubscribed = true ∧
        env.timerCreate = false) := by
  rw [edgeCommonInit_eq, run_bind]
  obtain ⟨refused, lists, mutexes, prepares, whole, -⟩ := @prepare_run env machine
  rw [prepares, Option.bind_some]
  cases refused with
  | some status =>
    have unready : env.prepared = false := by simpa using whole
    simp [SetupCall.overruns, SetupCall.loads, unready]
  | none =>
    have ready := whole.mp rfl
    rw [ready, if_pos rfl]
    change (subscribeDriver config).run (respond env) machine.prepared = none ↔ _
    rw [subscribeDriver_run]
    have overruns : SetupCall.overruns env machine .commonInit = true ↔
        (parseDriverCfg config).run (respond env) machine.prepared = none := by
      rw [parse_eq_none_iff, load_eq_none_iff, SetupCall.overruns, SetupCall.loads, ready]
      change _ ↔ (machine.globals.driverId.isNone || machine.globals.driverName.isNone) = true ∧
        machine.globals.driverConfigJson = none ∧ _
      cases machine.globals.driverConfigJson <;> simp [and_assoc]
    rw [overruns]
    cases parse : (parseDriverCfg config).run (respond env) machine.prepared with
    | none => simp
    | some result =>
      obtain ⟨status, parsed⟩ := result
      rw [← parse_ok_iff parse]
      by_cases refused : status = .err
      · simp [refused]
      · have accepted : status = .ok := (parse_status parse).resolve_right refused
        have apart : ¬ EdgeStatus.ok = .err := by decide
        cases env.allSubscribed <;> cases env.timerCreate <;> simp [accepted, apart]

/-- Without the logs, a call is without a defined outcome exactly when it reads the file into a
buffer of no bytes, or sets a timer that was not created. -/
private theorem respond_undefined_iff (config : DriverConfig) (env : SetupEnv) (call : SetupCall)
    (machine : Machine) : (call.program config).run (respond env) machine = none ↔
      call.overruns env machine = true ∨ (call = .commonInit ∧ env.prepared = true ∧
        machine.prepared.identifies config env = true ∧ env.allSubscribed = true ∧
        env.timerCreate = false) := by
  have packed {α : Type} {program : Program setup α} {pack : α → SetupResult} :
      (program >>= fun value => pure (pack value)).run (respond env) machine = none ↔
        program.run (respond env) machine = none := by
    rw [run_bind]
    cases program.run (respond env) machine <;> simp
  cases call with
  | natsSubscribe subject =>
    refine packed.trans ?_
    by_cases made : env.subscribe .onNatsMessage = .ok <;>
      simp [natsSubscribe, edgeSubscribe, respond, made, SetupCall.overruns, SetupCall.loads]
  | get cached =>
    refine packed.trans ?_
    rw [edgeGet_run]
    cases kept : machine.globals.cached cached with
    | some value => simp [SetupCall.overruns, SetupCall.loads, kept]
    | none =>
      simp only [Option.map_eq_none_iff, load_eq_none_iff, SetupCall.overruns, SetupCall.loads, kept]
      simp [and_assoc]
  | commonInit => exact (packed.trans (edgeCommonInit_undefined_iff config env machine)).trans (by simp)

/-- A call is without a defined outcome exactly when it reads the file into a buffer of no
bytes, logs a fetched string that its log has no room for, or sets a timer that was not created. -/
theorem setup_undefined_iff (config : DriverConfig) (env : SetupEnv) (call : SetupCall)
    (machine : Machine) : (call.program config).run (handle env) machine = none ↔
      call.overruns env machine = true ∨ call.overlogs config env machine = true ∨
        (call = .commonInit ∧ env.prepared = true ∧ machine.prepared.identifies config env = true ∧
          env.allSubscribed = true ∧ env.timerCreate = false) := by
  rw [or_left_comm, ← respond_undefined_iff, handle, run_guarded, setup_passes]
  cases call.overlogs config env machine <;> simp

end IotstackDriver.Edge.Setup
