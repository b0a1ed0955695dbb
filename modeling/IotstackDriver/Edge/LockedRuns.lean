import IotstackDriver.Edge.LockedCalls

/-! Runs of a driver's threads with their locks, at every interleaving of their steps. -/

namespace IotstackDriver.Edge.Locking

open Libc Support Program

/-- A thread of the driver, or one the status timer starts. -/
inductive Worker where
  | performs (duty : Duty)
  | statusSync

namespace Worker

def thread (config : DriverConfig) : Worker → Thread
  | performs duty => .driver (duty.program config)
  | statusSync => .statusSync config

variable {known : RegistryList → Nat}

private theorem spares_of_quiet {program : Program edge α} (quiet : Quiet program) :
    Sound known program := by
  refine .of_spares (quiet.weaken (fun request keeps => ?_) fun _ _ => trivial)
  cases request
  case remove => cases keeps
  all_goals trivial

theorem sound (config : DriverConfig) (worker : Worker) : Sound known (worker.thread config).coarse := by
  cases worker with
  | performs duty => exact duty.sound
  | statusSync =>
    change Sound known (Edge.handleStatusSync config)
    rw [collected_eq]
    refine .bind (spares_of_quiet statusBuffers_quiet) fun ready => .ite ?_ trivial
    refine ⟨trivial, fun collected after stepped => ?_⟩
    cases collected with
    | none => trivial
    | some nodes =>
      have sends : Sound after (Edge.listDevices [] nodes >>= sendStatus config) :=
        .bind (spares_of_quiet (listDevices_quiet [] nodes)) fun text =>
          spares_of_quiet (sendStatus_quiet config text)
      exact sends

end Worker

/-- The threads of one driver, each with the outcomes it meets, and the world they share. -/
structure Crew (ι : Type) where
  config : DriverConfig
  workers : ι → Worker
  envs : ι → Env
  world : World

namespace Crew

variable {ι : Type}

def team (crew : Crew ι) : Team ι where
  threads thread := (crew.workers thread).thread crew.config
  envs := crew.envs
  world := crew.world

variable [DecidableEq ι] (crew : Crew ι)

/-- Its runs with locks, node by node. -/
abbrev LockedRun (history : History locked (Guarded World RegistryList ι) ι Empty)
    (pool : Pool locked (Guarded World RegistryList ι) ι) : Prop :=
  crew.team.fine.Run crew.team.fineStart history pool

/-- Its runs with each locked section a single request. -/
abbrev SectionRun (history : History edge World ι Empty) (pool : Pool edge World ι) : Prop :=
  crew.team.coarse.Run crew.team.coarseStart history pool

variable {crew} {history : History locked (Guarded World RegistryList ι) ι Empty}
  {pool : Pool locked (Guarded World RegistryList ι) ι}

theorem follows (run : crew.LockedRun history pool) : ∃ history' above held,
    crew.SectionRun history' above ∧ Related crew.team pool above held ∧
      System.seen seenCoarse history' = System.seen seenFine history := by
  have begins : Related crew.team crew.team.fineStart crew.team.coarseStart fun _ => none :=
    coarse_begins fun thread => (crew.workers thread).sound crew.config
  obtain ⟨history', above, reached, ⟨held, related⟩, seen⟩ :=
    (related_follows crew.team).run ⟨_, begins⟩ run
  exact ⟨history', above, held, reached, related, seen⟩

end Crew

variable {ι : Type} [DecidableEq ι]

/-! ## A login, and a notification that gets no iterator -/

private def loginAndSync : Crew Bool where
  config := .plain
  workers
    | false => .statusSync
    | true => .performs (.handle (.device (.loginAsync 0)))
  envs
    | false => { Env.calm with malloc := fun site => site != .listIterator .connDevice }
    | true => .calm
  world := { constructed with devices := constructed.devices.push 0 }

private def isFinished : Program locked Unit → Bool
  | .done _ => true
  | .call _ _ => false

private theorem finished_of_isFinished {program : Program locked Unit}
    (finished : isFinished program = true) : program = .done () := by
  cases program with
  | done value => rfl
  | call request rest => cases finished

private def unfinishedSync : List (System.Choice Bool Empty) := List.replicate 4 (.thread false)

/-! ## Locked sections -/

/-- In every run the threads do what they do in a run in which each locked section is a
single request: the same is seen of each, and the same objects and lists are left. -/
theorem lockedRun_follows_sections (crew : Crew ι)
    (history : History locked (Guarded World RegistryList ι) ι Empty)
    (pool : Pool locked (Guarded World RegistryList ι) ι) (run : crew.LockedRun history pool) :
    ∃ history' above, crew.SectionRun history' above ∧ SameWorld pool.shared.world above.shared ∧
      System.seen seenCoarse history' = System.seen seenFine history ∧
      ∀ thread, pool.threads thread = .done () → above.threads thread = .done () := by
  obtain ⟨history', above, held, reached, related, seen⟩ := crew.follows run
  refine ⟨history', above, reached, related.world, seen, fun thread finished => ?_⟩
  exact ((related.stages thread).finished finished).1

/-- The login locks the list while the notification gets its buffers. -/
theorem lockedRun_follows_login : ∃ history pool, loginAndSync.LockedRun history pool ∧
    pool.threads true = .done () ∧ ∃ history' above, loginAndSync.SectionRun history' above ∧
      SameWorld pool.shared.world above.shared ∧
      System.seen seenCoarse history' = System.seen seenFine history ∧
      ∀ thread, pool.threads thread = .done () → above.threads thread = .done () := by
  have outcome : (loginAndSync.team.fine.follow loginAndSync.team.fineStart
      (List.replicate 19 (.thread true) ++ List.replicate 3 (.thread false) ++
        List.replicate 2 (.thread true))).map (fun result => isFinished (result.2.threads true)) =
      some true := by decide +kernel
  obtain ⟨⟨history, pool⟩, followed, finished⟩ := Option.map_eq_some_iff.mp outcome
  have run := System.run_of_follow followed
  exact ⟨history, pool, run, finished_of_isFinished finished,
    lockedRun_follows_sections loginAndSync history pool run⟩

/-! ## What is locked -/

/-- A thread works on a list with its mutex locked, once, and one thread at a time. -/
theorem list_accessed_locked (crew : Crew ι)
    (history : History locked (Guarded World RegistryList ι) ι Empty)
    (pool : Pool locked (Guarded World RegistryList ι) ι) (run : crew.LockedRun history pool)
    (list : RegistryList) (thread : ι) (accesses : Accesses list (pool.threads thread)) :
    pool.shared.mutexes list = .held thread 0 ∧
      ∀ other, Accesses list (pool.threads other) → other = thread := by
  obtain ⟨history', above, held, reached, related, seen⟩ := crew.follows run
  have inside (thread : ι) (accesses : Accesses list (pool.threads thread)) : held thread = some list :=
    (related.stages thread).holds accesses
  refine ⟨related.held.mp (inside thread accesses), fun other also => ?_⟩
  exact related.sole (inside thread accesses) (inside other also)

theorem list_accessed_locked_sync : ∃ history pool, loginAndSync.LockedRun history pool ∧
    Accesses .connDevice (pool.threads false) ∧ pool.shared.mutexes .connDevice = .held false 0 ∧
      ∀ other, Accesses .connDevice (pool.threads other) → other = false := by
  have outcome : (loginAndSync.team.fine.follow loginAndSync.team.fineStart unfinishedSync).map
      (fun result => decide (Accesses .connDevice (result.2.threads false))) = some true := by
    decide +kernel
  obtain ⟨⟨history, pool⟩, followed, accesses⟩ := Option.map_eq_some_iff.mp outcome
  have run := System.run_of_follow followed
  have accesses := of_decide_eq_true accesses
  exact ⟨history, pool, run, accesses,
    list_accessed_locked loginAndSync history pool run .connDevice false accesses⟩

/-- The steps of one thread. -/
def StepsOf (thread : ι) (history : History locked (Guarded World RegistryList ι) ι Empty) : Prop :=
  ∀ step ∈ history, ∃ request reply, step.2 = .request thread request reply

omit [DecidableEq ι] in
private theorem worker_of_timer {crew : Crew ι} {thread : ι}
    (timer : (crew.team.threads thread).kind = .timer) : crew.workers thread = .statusSync := by
  change ((crew.workers thread).thread crew.config).kind = .timer at timer
  cases worker : crew.workers thread with
  | performs duty =>
    rw [worker] at timer
    cases timer
  | statusSync => rfl

omit [DecidableEq ι] in
private theorem StepsOf.cons {thread : ι} {more : History locked (Guarded World RegistryList ι) ι Empty}
    {pool : Pool locked (Guarded World RegistryList ι) ι} {request : LockedRequest} {reply : request.Reply}
    (own : StepsOf thread more) : StepsOf thread ((pool, .request thread request reply) :: more) := by
  intro step member
  rcases List.mem_cons.mp member with rfl | later
  · exact ⟨request, reply, rfl⟩
  · exact own step later

/-- Nobody keeps the owner of a mutex from a step in its section. -/
private theorem admitted_inside {mutexes : RegistryList → Mutex ι} {owner : ι} {list : RegistryList}
    {request : LockedRequest} {next : Option RegistryList} (locked : mutexes list = .held owner 0)
    (moves : Moves (some list) request next) :
    ∃ after, Guarded.permit mutexes owner (mutexUse request) = some after ∧
      (next = none ∧ after list = .free ∨ next = some list) := by
  cases request with
  | lock other => cases moves.1
  | unlock other =>
    obtain ⟨same, rfl⟩ := moves
    cases same
    exact ⟨Function.update mutexes list .free, by simp [mutexUse, Guarded.permit, locked, Mutex.unlock],
      .inl ⟨rfl, Function.update_self ..⟩⟩
  | content | matchVal | unlink | iteratorDestroy | issue => exact ⟨mutexes, rfl, .inr moves⟩

private theorem leaves {crew : Crew ι} {list : RegistryList} {owner : ι} (fine : Program locked Unit)
    {pool : Pool locked (Guarded World RegistryList ι) ι} {above : Pool edge World ι}
    {held : ι → Option RegistryList} (running : pool.threads owner = fine)
    (related : Related crew.team pool above held) (inside : held owner = some list) :
    ∃ more later, crew.team.fine.Run pool more later ∧ StepsOf owner more ∧
      (later.shared.mutexes list = .free ∨
        (later.threads owner = .done () ∧ list = .connDevice ∧ crew.workers owner = .statusSync ∧
          (crew.envs owner).malloc (.listIterator .connDevice) = false) ∨
        ∃ request rest, later.threads owner = .call request rest ∧
          serve (crew.envs owner) request later.shared.world = none) := by
  induction fine generalizing pool above held with
  | done value =>
    obtain ⟨-, stranded⟩ := (related.stages owner).finished running
    obtain ⟨same, timer, refused⟩ := stranded list inside
    exact ⟨[], pool, .start, nofun, .inr (.inl ⟨running, same, worker_of_timer timer, refused⟩)⟩
  | call request rest ih =>
    cases served : serve (crew.envs owner) request pool.shared.world with
    | none => exact ⟨[], pool, .start, nofun, .inr (.inr ⟨request, rest, running, served⟩)⟩
    | some answer =>
      obtain ⟨next, moves, -⟩ := related.moves running served
      rw [inside] at moves
      obtain ⟨mutexes, admitted, -⟩ := admitted_inside (related.held.mp inside) moves
      have answered : crew.team.fine.handler owner request pool.shared =
          some (answer.1, ⟨answer.2, mutexes⟩) := Guarded.guard_eq_some_iff.mpr ⟨admitted, served⟩
      have single := System.Run.single (.request running answered)
      obtain ⟨next, taken, above', moves, -, related', -⟩ := related.step running answered
      rw [inside] at moves
      obtain ⟨after, again, ends⟩ := admitted_inside (related.held.mp inside) moves
      cases admitted.symm.trans again
      rcases ends with ⟨-, freed⟩ | rfl
      · exact ⟨_, _, single, StepsOf.cons nofun, .inl freed⟩
      · obtain ⟨more, later, run, own, ends⟩ := ih answer.1 (Function.update_self ..) related'
          (Function.update_self ..)
        exact ⟨_, later, single.append run, own.cons, ends⟩

/-- A thread that holds a mutex gives it up by steps of its own, unless it comes to an
access without a defined outcome, or is a status notification that got no iterator. -/
theorem holder_leaves (crew : Crew ι)
    (history : History locked (Guarded World RegistryList ι) ι Empty)
    (pool : Pool locked (Guarded World RegistryList ι) ι) (run : crew.LockedRun history pool)
    (list : RegistryList) (owner : ι) (again : Nat)
    (holds : pool.shared.mutexes list = .held owner again) :
    ∃ more later, crew.team.fine.Run pool more later ∧ StepsOf owner more ∧
      (later.shared.mutexes list = .free ∨
        (later.threads owner = .done () ∧ list = .connDevice ∧ crew.workers owner = .statusSync ∧
          (crew.envs owner).malloc (.listIterator .connDevice) = false) ∨
        ∃ request rest, later.threads owner = .call request rest ∧
          serve (crew.envs owner) request later.shared.world = none) := by
  obtain ⟨history', above, held, reached, related, seen⟩ := crew.follows run
  exact leaves _ rfl related (related.inside holds)

theorem holder_leaves_sync : ∃ history pool, loginAndSync.LockedRun history pool ∧
    pool.shared.mutexes .connDevice = .held false 0 ∧
    ∃ more later, loginAndSync.team.fine.Run pool more later ∧ StepsOf false more ∧
      (later.shared.mutexes .connDevice = .free ∨
        (later.threads false = .done () ∧ RegistryList.connDevice = .connDevice ∧
          loginAndSync.workers false = .statusSync ∧
          (loginAndSync.envs false).malloc (.listIterator .connDevice) = false) ∨
        ∃ request rest, later.threads false = .call request rest ∧
          serve (loginAndSync.envs false) request later.shared.world = none) := by
  have outcome : (loginAndSync.team.fine.follow loginAndSync.team.fineStart unfinishedSync).map
      (fun result => result.2.shared.mutexes .connDevice) = some (.held false 0) := by decide +kernel
  obtain ⟨⟨history, pool⟩, followed, holds⟩ := Option.map_eq_some_iff.mp outcome
  have run := System.run_of_follow followed
  exact ⟨history, pool, run, holds,
    holder_leaves loginAndSync history pool run .connDevice false 0 holds⟩

/-- A mutex whose owner has finished stays as it is. -/
private theorem kept_forever {team : Team ι} {list : RegistryList} {owner : ι} {again : Nat}
    {pool later : Pool locked (Guarded World RegistryList ι) ι}
    {more : History locked (Guarded World RegistryList ι) ι Empty}
    (holds : pool.shared.mutexes list = .held owner again) (finished : pool.threads owner = .done ())
    (further : team.fine.Run pool more later) :
    later.shared.mutexes list = .held owner again ∧ later.threads owner = .done () ∧
      ∀ step ∈ more, ∀ thread reply, step.2 ≠ .request thread (.lock list) reply := by
  induction further with
  | start => exact ⟨holds, finished, nofun⟩
  | step further step ih =>
    obtain ⟨holds, finished, unlocked⟩ := ih
    cases step with
    | outside taken => exact Empty.elim ‹_›
    | @request thread request rest reply shared waiting answered =>
      have other : owner ≠ thread := by
        rintro rfl
        cases finished.symm.trans waiting
      obtain ⟨admitted, -⟩ := Guarded.guard_eq_some_iff.mp answered
      obtain ⟨kept, unused⟩ := Guarded.admit_of_other holds other admitted
      refine ⟨kept, (Function.update_of_ne other _ _).trans finished, fun step member locker reply => ?_⟩
      rcases List.mem_append.mp member with earlier | now
      · exact unlocked step earlier locker reply
      · rw [List.mem_singleton.mp now]
        intro same
        cases same
        exact unused rfl

/-- A status notification that got no iterator keeps the mutex: it stays locked in every
later state, and nobody locks it again. -/
theorem stranded_forever (crew : Crew ι)
    (history more : History locked (Guarded World RegistryList ι) ι Empty)
    (pool later : Pool locked (Guarded World RegistryList ι) ι) (run : crew.LockedRun history pool)
    (list : RegistryList) (owner : ι) (again : Nat)
    (holds : pool.shared.mutexes list = .held owner again) (finished : pool.threads owner = .done ())
    (further : crew.team.fine.Run pool more later) :
    (list = .connDevice ∧ crew.workers owner = .statusSync ∧
      (crew.envs owner).malloc (.listIterator .connDevice) = false) ∧
    later.shared.mutexes list = .held owner again ∧
    ∀ step ∈ more, ∀ thread reply, step.2 ≠ .request thread (.lock list) reply := by
  obtain ⟨history', above, held, reached, related, seen⟩ := crew.follows run
  have inside : held owner = some list := related.inside holds
  obtain ⟨-, stranded⟩ := (related.stages owner).finished finished
  obtain ⟨same, timer, refused⟩ := stranded list inside
  refine ⟨⟨same, worker_of_timer timer, refused⟩, ?_⟩
  have kept := kept_forever holds finished further
  exact ⟨kept.1, kept.2.2⟩

/-- The login comes to the mutex and no further. -/
theorem stranded_forever_sync : ∃ history pool more later, loginAndSync.LockedRun history pool ∧
    loginAndSync.team.fine.Run pool more later ∧ more.length = 18 ∧
    later.shared.mutexes .connDevice = .held false 0 ∧
    ∀ step ∈ more, ∀ thread reply, step.2 ≠ .request thread (.lock .connDevice) reply := by
  have outcome : (loginAndSync.team.fine.follow loginAndSync.team.fineStart
      (List.replicate 6 (.thread false))).bind (fun result =>
        (loginAndSync.team.fine.follow result.2 (List.replicate 18 (.thread true))).map fun further =>
          (isFinished (result.2.threads false), result.2.shared.mutexes .connDevice,
            further.1.length)) = some (true, .held false 0, 18) := by decide +kernel
  obtain ⟨⟨history, pool⟩, followed, continued⟩ := Option.bind_eq_some_iff.mp outcome
  obtain ⟨⟨more, later⟩, further, same⟩ := Option.map_eq_some_iff.mp continued
  simp only [Prod.mk.injEq] at same
  obtain ⟨finished, holds, length⟩ := same
  have run := System.run_of_follow followed
  have after := System.run_of_follow further
  exact ⟨history, pool, more, later, run, after, length,
    (stranded_forever loginAndSync history more pool later run .connDevice false 0 holds
      (finished_of_isFinished finished) after).2⟩

end IotstackDriver.Edge.Locking
