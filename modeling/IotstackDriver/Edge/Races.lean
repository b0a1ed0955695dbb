import IotstackDriver.Support.Interleaving
import IotstackDriver.Edge.CallbackProtocol
import IotstackDriver.Edge.BroadcastReply
import IotstackDriver.Edge.DeviceCalls
import IotstackDriver.Edge.RequestCleanup

/-! The entry a callback found under a list's lock and uses after it dropped the lock,
against the calls that remove and release entries. -/

namespace IotstackDriver.Edge

open Libc Support

/-- One thread: the handling of a message, or a call of an operation. -/
inductive Process where
  | onBroadcastMessage (msg : NatsMsg)
  | onLocalMessage (msg : NatsMsg)
  | request (call : RequestCall)
  | device (call : DeviceCall)

namespace Process

def program (config : DriverConfig) : Process → Program edge Unit
  | onBroadcastMessage msg => Edge.onBroadcastMessage config msg
  | onLocalMessage msg => Edge.onLocalMessage config msg
  | request call => call.program config
  | device call => call.program config

def isCallback : Process → Bool
  | onBroadcastMessage _ | onLocalMessage _ => true
  | request _ | device _ => false

end Process

def World.live (world : World) : RegistryList → Ref → Bool
  | .requestid => world.requests.live
  | .connDevice => world.devices.live

/-- The entry a removal step takes: the first that matches the key of the entry given. -/
def selected (env : Env) (world : World) : Request → Option (RegistryList × Ref)
  | .remove .requestid node =>
    if env.malloc (.listIterator .requestid) then do
      let own ← world.requests.value? node
      let entry ← world.requests.find? (msgParseMatch own.requestId)
      return (.requestid, entry)
    else none
  | .remove .connDevice node =>
    if env.malloc (.listIterator .connDevice) then do
      let own ← world.devices.value? node
      let entry ← world.devices.find? (subdevClientMatch own.deviceSn)
      return (.connDevice, entry)
    else none
  | _ => none

/-! ## Releases -/

variable {env : Env} {world after : World} {list : RegistryList} {node : Ref}

private theorem remove_keeps {registry : Registry α} {refs : List Ref} {test : α → Bool}
    (live : registry.live node = true) (other : registry.find? test ≠ some node) :
    ((registry.touchAll refs).remove test).live node = true := by
  simp [Registry.remove_live, live, other]

/-- Only a removal step releases an entry, and only the one it takes. -/
theorem handle_live {request : Request} {reply : request.Reply}
    (answered : respond env request world = some (reply, after))
    (live : world.live list node = true)
    (other : selected env world request ≠ some (list, node)) : after.live list node = true := by
  cases list with
  | requestid =>
    have change := handle_requests answered
    rw [World.live] at live ⊢
    generalize after.requests = requests at change ⊢
    cases change with
    | reads _ same => rwa [same.live]
    | creates =>
      have old : node ≠ world.requests.size := Nat.ne_of_lt (Registry.lt_of_live live)
      simpa [Registry.alloc_live, old] using live
    | pushes | writes => simpa using live
    | removes present iterates =>
      apply remove_keeps live
      intro taken
      exact other (by simp [selected, iterates, present, taken])
    | refuses => exact live
  | connDevice =>
    have change := handle_devices answered
    rw [World.live] at live ⊢
    generalize after.devices = devices at change ⊢
    cases change with
    | reads _ same => rwa [same.live]
    | creates =>
      have old : node ≠ world.devices.size := Nat.ne_of_lt (Registry.lt_of_live live)
      simpa [Registry.alloc_live, old] using live
    | pushes | flags => simpa using live
    | removes present iterates =>
      apply remove_keeps live
      intro taken
      exact other (by simp [selected, iterates, present, taken])
    | refuses => exact live

/-! ## The runs -/

/-- Any number of threads with the outcomes they meet, and the world they share. -/
structure Race (ι : Type) where
  config : DriverConfig
  processes : ι → Process
  envs : ι → Env
  world : World

/-- The steps taken so far, each with the pool it was taken from. -/
abbrev Raced (ι : Type) := History edge World ι Empty

variable {ι : Type}

/-- The search of a list by a thread that found this entry. -/
def FoundBy (thread : ι) (entry : RegistryList × Ref) (event : Event edge ι Empty) : Prop :=
  ∃ key : entry.1.Key, event = .request thread (.find entry.1 key) (some entry.2)

abbrev SearchesBy (thread : ι) (event : Event edge ι Empty) : Prop :=
  System.Resets (fun request : Request => request.searches = true) thread event

/-- The thread goes on to use the entry with no search before. -/
abbrev StillUses (entry : RegistryList × Ref) (program : Program edge Unit) : Prop :=
  System.Ahead (fun request : Request => request.uses = some entry)
    (fun request : Request => request.searches = true) program

namespace Race

variable (race : Race ι)

def system : System edge World ι Empty where
  handler i := handle (race.envs i)
  outside event := event.elim

def start : Pool edge World ι where
  shared := race.world
  threads i := (race.processes i).program race.config

/-- An entry a callback uses is the one its last search found, and it was not released
since. -/
def UsesUnreleased (history : Raced ι) (pool : Pool edge World ι) (event : Event edge ι Empty) : Prop :=
  ∀ thread request reply entry, event = .request thread request reply →
    (race.processes thread).isCallback = true → request.uses = some entry →
      ∃ earlier first found later, history = earlier ++ (first, found) :: later ∧
        FoundBy thread entry found ∧ (∀ step ∈ later, ¬ SearchesBy thread step.2) ∧
        (first.shared.live entry.1 entry.2 = true → pool.shared.live entry.1 entry.2 = true)

/-- A removal step takes no entry that a callback has found and has still to use. -/
def LeavesFound (pool : Pool edge World ι) (event : Event edge ι Empty) : Prop :=
  ∀ thread request reply entry, event = .request thread request reply →
    selected (race.envs thread) pool.shared request = some entry →
      ∀ callback, (race.processes callback).isCallback = true →
        ¬ StillUses entry (pool.threads callback)

/-- The thread's last search found the entry it holds. -/
def LastFound (history : Raced ι) (thread : ι) (entry : RegistryList × Ref) : Prop :=
  ∃ earlier first found later, history = earlier ++ (first, found) :: later ∧
    FoundBy thread entry found ∧ ∀ step ∈ later, ¬ SearchesBy thread step.2

/-- What the callbacks hold was found by their last searches. -/
def HoldFound (history : Raced ι) (held : ι → Option (RegistryList × Ref)) (_ : World) : Prop :=
  ∀ thread, (race.processes thread).isCallback = true →
    ∀ entry, held thread = some entry → LastFound history thread entry

/-- A callback keeps to its protocol; nothing is asked of the other threads. -/
def protocol (thread : ι) : Program.Protocol edge (Option (RegistryList × Ref)) :=
  if (race.processes thread).isCallback then callbackProtocol else
    { allowed := fun _ _ => True
      step := fun held _ _ next => next = held }

variable {race} {history : Raced ι} {pool next : Pool edge World ι} {event : Event edge ι Empty}
  {thread : ι} {entry : RegistryList × Ref}

private theorem LastFound.later (held : LastFound history thread entry)
    (passes : ¬ SearchesBy thread event) : LastFound (history ++ [(pool, event)]) thread entry := by
  obtain ⟨earlier, first, found, later, split, hit, quiet⟩ := held
  refine ⟨earlier, first, found, later ++ [(pool, event)], by rw [split]; simp, hit, ?_⟩
  intro step member
  rcases List.mem_append.mp member with old | new
  · exact quiet step old
  · rw [List.mem_singleton.mp new]
    exact passes

private theorem LastFound.now (hit : FoundBy thread entry event) :
    LastFound (history ++ [(pool, event)]) thread entry :=
  ⟨history, pool, event, [], rfl, hit, fun step member => by cases member⟩

/-- What a thread holds after its own step. -/
private theorem lastFound_step {request : Request} {reply : request.Reply}
    {held : Option (RegistryList × Ref)}
    (before : ∀ entry, held = some entry → LastFound history thread entry)
    (now : heldAfter held request reply = some entry) :
    LastFound (history ++ [(pool, .request thread request reply)]) thread entry := by
  cases searches : request.searches with
  | true =>
    cases request
    case find list key =>
      obtain ⟨node, found, rfl⟩ := Option.map_eq_some_iff.mp now
      have hit : reply = some node := found
      subst hit
      exact .now ⟨key, rfl⟩
    all_goals cases searches
  | false =>
    have kept : heldAfter held request reply = held := by
      cases request
      case find => cases searches
      all_goals rfl
    apply (before entry (kept.symm.trans now)).later
    rintro ⟨other, _, same, search⟩
    cases same
    cases searches.symm.trans search

variable [DecidableEq ι]

private theorem held_of_run (run : race.system.Run race.start history pool) :
    ∃ held, race.HoldFound history held pool.shared ∧
      ∀ thread, Program.Meets (race.protocol thread) (pool.threads thread) (fun _ _ => True)
        (held thread) := by
  have begun : ∀ thread, Program.Meets (race.protocol thread) (race.start.threads thread)
      (fun _ _ => True) none := by
    intro thread
    simp only [protocol, start]
    cases race.processes thread with
    | onBroadcastMessage msg => exact onBroadcastMessage_usesFound race.config msg none
    | onLocalMessage msg => exact onLocalMessage_usesFound race.config msg none
    | request call => exact .of_permissive (fun _ _ => trivial) _ _
    | device call => exact .of_permissive (fun _ _ => trivial) _ _
  refine System.Run.invariant begun ?_ ?_ ?_ run
  · intro thread _ entry held
    cases held
  · intro history pool held thread request reply after found allowed answered
    cases callback : (race.processes thread).isCallback with
    | true =>
      refine ⟨heldAfter (held thread) request reply, by simp [protocol, callback, callbackProtocol], ?_⟩
      intro other isCallback entry now
      by_cases same : other = thread
      · subst same
        rw [Function.update_self] at now
        exact lastFound_step (found other isCallback) now
      · rw [Function.update_of_ne same] at now
        apply (found other isCallback entry now).later
        rintro ⟨_, _, taken, -⟩
        cases taken
        exact same rfl
    | false =>
      refine ⟨held thread, by simp [protocol, callback], ?_⟩
      rw [Function.update_eq_self]
      intro other isCallback entry now
      apply (found other isCallback entry now).later
      rintro ⟨_, _, taken, -⟩
      cases taken
      cases callback.symm.trans isCallback
  · intro history pool held event
    exact event.elim

private theorem step_live (step : race.system.Step pool event next)
    (live : pool.shared.live entry.1 entry.2 = true)
    (other : ∀ thread request reply, event = .request thread request reply →
      selected (race.envs thread) pool.shared request ≠ some entry) :
    next.shared.live entry.1 entry.2 = true := by
  cases step with
  | @request thread request rest reply shared waiting answered =>
    exact handle_live (respond_of_handle answered) live (other thread request reply rfl)
  | @outside event shared taken => exact event.elim

end Race

/-- In a run in which no removal step takes an entry that a callback has found and has
still to use, every entry a callback uses was found by its last search and not
released since. -/
theorem callbacks_use_unreleased [DecidableEq ι] (race : Race ι) (history : Raced ι)
    (pool next : Pool edge World ι) (event : Event edge ι Empty)
    (run : race.system.Run race.start history pool)
    (leaves : ∀ step ∈ history, race.LeavesFound step.1 step.2)
    (step : race.system.Step pool event next) : race.UsesUnreleased history pool event := by
  intro thread request reply entry taken isCallback uses
  obtain ⟨held, found, meets⟩ := Race.held_of_run run
  subst taken
  cases step with
  | @request _ _ rest _ shared waiting answered =>
    have protocol := meets thread
    rw [waiting] at protocol
    have allowed := protocol.1
    simp only [Race.protocol, isCallback, ↓reduceIte] at allowed
    obtain ⟨earlier, first, search, later, split, hit, quiet⟩ :=
      found thread isCallback entry (allowed entry uses)
    refine ⟨earlier, first, search, later, split, hit, quiet, fun live => ?_⟩
    have ahead : StillUses entry (pool.threads thread) := by
      rw [waiting]
      exact .here uses
    refine run.lasts (fun world => world.live entry.1 entry.2 = true) split ?_ ?_ quiet ahead
    · intro after began
      obtain ⟨key, rfl⟩ := hit
      apply Race.step_live began live
      intro other asked answer same
      cases same
      exact fun none => by cases none
    · intro later member after still stepped alive
      refine Race.step_live stepped alive fun other asked answer same taken => ?_
      have inHistory : later ∈ history := by
        rw [split]
        exact List.mem_append_right _ (List.mem_cons_of_mem _ member)
      exact leaves later inHistory other asked answer entry same taken thread isCallback still

/-- A call that adds a topology and gets no answer in time, and a reply to it. -/
private def lateReply : Race Bool where
  config := .answering
  processes
    | false => .request (.addTopo (some 0) 1000)
    | true => .onBroadcastMessage .answer
  envs _ := .calm
  world :=
    { requests := .empty
      devices := Registry.empty.alloc
        ((SubdevClient.constructed (.literal "p1") (.literal "dev1") 1 none).withOnline true) }

/-- The call publishes, and then the reply is looked up. -/
private def untilFound : List (System.Choice Bool Empty) :=
  List.replicate 21 (.thread false) ++ List.replicate 8 (.thread true)

/-- The thread that uses an entry in a step, and the entry. -/
private def usedIn : Event edge Bool Empty → Option (Bool × RegistryList × Ref)
  | .request thread request _ => request.uses.map fun entry => (thread, entry)
  | .outside event => event.elim

private def removesIn : Event edge Bool Empty → Bool
  | .request _ (.remove _ _) _ => true
  | _ => false

private theorem leavesFound_of_quiet {race : Race Bool} {pool : Pool edge World Bool}
    {event : Event edge Bool Empty} (quiet : removesIn event = false) :
    race.LeavesFound pool event := by
  rintro thread request reply entry rfl taken
  cases request
  case remove => cases quiet
  all_goals cases taken

theorem callbacks_use_unreleased_inTime : ∃ history pool event next,
    lateReply.system.Step pool event next ∧ lateReply.UsesUnreleased history pool event := by
  have outcome : ((lateReply.system.follow lateReply.start untilFound).bind fun result =>
      (lateReply.system.advance result.2 (.thread true)).map fun _ =>
        result.1.all fun step => !removesIn step.2) = some true := by decide +kernel
  obtain ⟨⟨history, pool⟩, followed, continued⟩ := Option.bind_eq_some_iff.mp outcome
  obtain ⟨⟨event, next⟩, advanced, quiet⟩ := Option.map_eq_some_iff.mp continued
  have run := System.run_of_follow followed
  have step := System.step_of_advance advanced
  refine ⟨history, pool, event, next, step, ?_⟩
  refine callbacks_use_unreleased lateReply history pool next event run (fun taken member => ?_) step
  have noRemoval := List.all_eq_true.mp quiet taken member
  exact leavesFound_of_quiet (by simpa using noRemoval)

private def searchedLive (step : Pool edge World Bool × Event edge Bool Empty) : Bool :=
  match step.2 with
  | .request _ (.find _ _) _ => step.1.shared.live .requestid 0
  | _ => true

/-- The call times out and releases its entry after the reply has found it, and the
reply is then copied into the released entry. -/
theorem broadcast_uses_released : ¬ ∀ (race : Race Bool) (history : Raced Bool)
    (pool next : Pool edge World Bool) (event : Event edge Bool Empty),
    race.system.Run race.start history pool → race.system.Step pool event next →
      race.UsesUnreleased history pool event := by
  intro always
  have outcome : ((lateReply.system.follow lateReply.start
      (untilFound ++ List.replicate 23 (.thread false))).bind fun result =>
        (lateReply.system.advance result.2 (.thread true)).map fun step =>
          (usedIn step.1, result.2.shared.live .requestid 0, result.1.all searchedLive)) =
      some (some (true, .requestid, 0), false, true) := by decide +kernel
  obtain ⟨⟨history, pool⟩, followed, continued⟩ := Option.bind_eq_some_iff.mp outcome
  obtain ⟨⟨event, next⟩, advanced, same⟩ := Option.map_eq_some_iff.mp continued
  simp only [Prod.mk.injEq] at same
  obtain ⟨used, released, searched⟩ := same
  have step := System.step_of_advance advanced
  have unreleased := always lateReply history pool next event (System.run_of_follow followed) step
  cases step with
  | @request thread request rest reply shared waiting answered =>
    obtain ⟨entry, uses, same⟩ := Option.map_eq_some_iff.mp used
    cases same
    obtain ⟨earlier, first, found, later, split, ⟨key, rfl⟩, -, kept⟩ :=
      unreleased true request reply (.requestid, 0) rfl rfl uses
    have atSearch := List.all_eq_true.mp searched (first, .request true (.find .requestid key) (some 0))
      (by rw [split]; simp)
    exact Bool.false_ne_true (released.symm.trans (kept atSearch))
  | @outside event shared taken => exact event.elim

end IotstackDriver.Edge
