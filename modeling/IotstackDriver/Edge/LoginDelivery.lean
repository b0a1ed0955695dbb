import IotstackDriver.Edge.LocalProtocol
import IotstackDriver.Edge.Races
import IotstackDriver.Edge.Removal

/-! Local messages for a client against the login that lists it: which of them reach the
client's handler. -/

namespace IotstackDriver.Edge

open Libc Support Program

section Steps

variable {env : Env} {world after : World} {client : Ref} {own : SubdevClient} {request : Request}
  {reply : request.Reply}

/-- No request changes a client but for its session flag. -/
theorem handle_client (answered : respond env request world = some (reply, after))
    (present : world.devices.value? client = some own) :
    ∃ flag, after.devices.value? client = some (own.withOnline flag) := by
  have current : world.devices.value? client = some (own.withOnline own.natsOnline) := present
  have change := handle_devices answered
  generalize after.devices = devices at change ⊢
  cases change with
  | reads _ same =>
    refine ⟨own.natsOnline, ?_⟩
    rw [Registry.value?, same.cells]
    exact present
  | creates =>
    have older : client ≠ world.devices.size :=
      Nat.ne_of_lt (Registry.value?_isSome.mp (by simp [present]))
    exact ⟨own.natsOnline, by simpa [Registry.alloc_value?, older] using current⟩
  | pushes => exact ⟨own.natsOnline, by simpa using current⟩
  | removes => exact ⟨own.natsOnline, by simpa [extractFromList] using current⟩
  | refuses => exact ⟨own.natsOnline, present⟩
  | @flags target flag =>
    rw [Registry.modify_value?, Registry.touch_value?, present]
    split
    · exact ⟨flag, rfl⟩
    · exact ⟨own.natsOnline, rfl⟩

/-- A client is listed by its insertion, and stays listed until a removal takes it. -/
theorem handle_listed (answered : respond env request world = some (reply, after))
    (kept : selected env world request ≠ some (.connDevice, client)) :
    client ∈ after.devices.entries ↔
      client ∈ world.devices.entries ∨ request = .push .connDevice client := by
  have change := handle_devices answered
  generalize after.devices = devices at change ⊢
  cases change with
  | reads quiet same =>
    have other : request ≠ .push .connDevice client := by
      rintro rfl
      cases quiet
    simp [same.entries, other]
  | creates | flags => simp
  | pushes allocated => simp [Registry.push_entries allocated, eq_comm]
  | @removes node other present iterates =>
    have missed : world.devices.find? (subdevClientMatch other.deviceSn) ≠ some client := by
      intro taken
      exact kept (by simp [selected, iterates, present, taken])
    rw [extractFromList, Registry.mem_remove_of_missed (by simpa using missed)]
    simp
  | refuses => simp

end Steps

/-! ## The handling of one message in a run -/

section Records

variable {ι : Type} [DecidableEq ι]

/-- The search of `conn_device_list` by a thread, with what it found. -/
def lookupBy (thread : ι) : Pool edge World ι × Event edge ι Empty → Option (Option Ref)
  | (_, .request other (.find .connDevice _) found) => if other = thread then some found else none
  | _ => none

/-- The handler a thread calls in a step. -/
def callBy (thread : ι) : Pool edge World ι × Event edge ι Empty → Option HandlerCall
  | (_, .request other (.invoke made) _) => if other = thread then some made else none
  | _ => none

/-- The thread has called one handler, the one the topic chooses among the client's. -/
def Delivered (history : Raced ι) (thread : ι) (client : Ref) (own : SubdevClient) (topic : CString) :
    Prop :=
  ∃ made, history.filterMap (callBy thread) = [made] ∧ made.Chosen client own topic

/-- The client was inserted in `conn_device_list`. -/
def Inserted (history : Raced ι) (client : Ref) : Prop :=
  ∃ step ∈ history, ∃ thread, step.2 = .request thread (.push .connDevice client) ()

end Records

namespace LocalPhase

/-- What the search found, once it is made. -/
def outcome : LocalPhase → Option (Option Ref)
  | searching => none
  | dropped => some none
  | found client => some (some client)
  | read client _ => some (some client)
  | called made => some (made.target.map Prod.fst)

def call? : LocalPhase → Option HandlerCall
  | called made => some made
  | _ => none

end LocalPhase

namespace Race

variable {ι : Type} (race : Race ι)

/-- What was read of a client agrees with what the run began with. -/
def ReadOf (client : Ref) (read : SubdevClient) : Prop :=
  ∀ own, race.world.devices.value? client = some own → ∃ flag, read = own.withOnline flag

/-- What the phase of a message's handling holds is right. -/
def Holds (topic : CString) (world : World) : LocalPhase → Prop
  | .found client => client < world.devices.size
  | .read client read => race.ReadOf client read
  | .called made => ∃ client read, made.Chosen client read topic ∧ race.ReadOf client read
  | _ => True

/-- No step so far took the client's entry from `conn_device_list`. -/
def Leaves (client : Ref) (history : Raced ι) : Prop :=
  ∀ step ∈ history, ∀ thread request reply, step.2 = .request thread request reply →
    selected (race.envs thread) step.1.shared request ≠ some (.connDevice, client)

/-- The clients are those of the start, but for their session flags. -/
def SameClients (world : World) : Prop :=
  ∀ client own, race.world.devices.value? client = some own →
    ∃ flag, world.devices.value? client = some (own.withOnline flag)

variable [DecidableEq ι]

/-- The thread has no step left, whether its program has come to its end or not. -/
def Settled (pool : Pool edge World ι) (thread : ι) : Prop :=
  ∀ request reply next, ¬ race.system.Step pool (.request thread request reply) next

/-- The steps of a message's handling are those its phase tells of. -/
structure Follows (receiver : ι) (fits : Prop) (topic : CString) (history : Raced ι)
    (phases : ι → LocalPhase) (world : World) : Prop where
  lookups : history.filterMap (lookupBy receiver) = (phases receiver).outcome.toList
  calls : history.filterMap (callBy receiver) = (phases receiver).call?.toList
  holds : race.Holds topic world (phases receiver)
  clients : race.SameClients world
  fit : phases receiver ≠ .searching → fits

/-- The receiver keeps to its protocol; nothing is asked of the other threads. -/
def localProtocols (receiver : ι) (fits : Prop) (deviceSn topic : CString) (thread : ι) :
    Protocol edge LocalPhase :=
  if thread = receiver then localProtocol (race.envs receiver) fits deviceSn topic else
    { allowed := fun _ _ => True
      step := fun phase _ _ next => next = phase }

variable {race} {history : Raced ι} {phases : ι → LocalPhase} {pool : Pool edge World ι}
  {receiver thread : ι} {fits : Prop} {deviceSn topic : CString} {request : Request} {reply : request.Reply}
  {world after : World}

omit [DecidableEq ι] in
private theorem SameClients.step {env : Env} (clients : race.SameClients world)
    (answered : respond env request world = some (reply, after)) : race.SameClients after := by
  intro client own present
  obtain ⟨flag, now⟩ := clients client own present
  obtain ⟨later, kept⟩ := handle_client answered now
  exact ⟨later, kept⟩

omit [DecidableEq ι] in
private theorem Holds.step {env : Env} {phase : LocalPhase} (holds : race.Holds topic world phase)
    (answered : respond env request world = some (reply, after)) : race.Holds topic after phase := by
  cases phase with
  | found client =>
    obtain ⟨own, present⟩ := Option.isSome_iff_exists.mp (Registry.value?_isSome.mpr holds)
    obtain ⟨flag, now⟩ := handle_client answered present
    exact Registry.value?_isSome.mp (by simp [now])
  | searching | dropped | read | called => exact holds

private theorem Follows.quiet {env : Env} (follows : race.Follows receiver fits topic history phases world)
    (answered : respond env request world = some (reply, after))
    (noLookup : lookupBy receiver (pool, .request thread request reply) = none)
    (noCall : callBy receiver (pool, .request thread request reply) = none) :
    race.Follows receiver fits topic (history ++ [(pool, .request thread request reply)]) phases after where
  lookups := by simp [noLookup, follows.lookups]
  calls := by simp [noCall, follows.calls]
  holds := Holds.step follows.holds answered
  clients := SameClients.step follows.clients answered
  fit := follows.fit

private theorem unrecorded (other : thread ≠ receiver) :
    lookupBy receiver (pool, .request thread request reply) = none ∧
      callBy receiver (pool, .request thread request reply) = none := by
  constructor
  · cases request
    case find list key =>
      cases list
      · rfl
      · exact if_neg other
    all_goals rfl
  · cases request
    case invoke => exact if_neg other
    all_goals rfl

private theorem filterMap_last {σ ω : Type} (record : σ → Option ω) (steps : List σ) (step : σ) :
    (steps ++ [step]).filterMap record = steps.filterMap record ++ (record step).toList := by
  rw [List.filterMap_append]
  cases recorded : record step <;> simp [recorded]

/-- The receiver goes on to a phase that tells of one more step. -/
private theorem Follows.advance {env : Env} {phase : LocalPhase}
    (follows : race.Follows receiver fits topic history phases world)
    (answered : respond env request world = some (reply, after))
    (lookups : phase.outcome.toList = (phases receiver).outcome.toList ++
      (lookupBy receiver (pool, .request receiver request reply)).toList)
    (calls : phase.call?.toList = (phases receiver).call?.toList ++
      (callBy receiver (pool, .request receiver request reply)).toList)
    (holds : race.Holds topic after phase) (fit : fits) :
    race.Follows receiver fits topic (history ++ [(pool, .request receiver request reply)])
      (Function.update phases receiver phase) after where
  lookups := by
    rw [filterMap_last, follows.lookups, Function.update_self, lookups]
  calls := by
    rw [filterMap_last, follows.calls, Function.update_self, calls]
  holds := by
    rw [Function.update_self]
    exact holds
  clients := SameClients.step follows.clients answered
  fit _ := fit

private theorem Follows.searched {env : Env} (allocates : ∀ site, env.malloc site = true) (fit : fits)
    (follows : race.Follows receiver fits topic history phases world)
    (searching : phases receiver = .searching) {found : Option Ref}
    (answered : respond env (.find .connDevice (some deviceSn)) world = some (found, after)) :
    race.Follows receiver fits topic
      (history ++ [(pool, .request receiver (.find .connDevice (some deviceSn)) found)])
      (Function.update phases receiver (.searched found)) after := by
  refine follows.advance answered ?_ ?_ ?_ fit
  · rw [searching]
    cases found <;> simp [lookupBy, LocalPhase.outcome, LocalPhase.searched]
  · rw [searching]
    cases found <;> rfl
  · cases found with
    | none => trivial
    | some client =>
      simp only [respond, allocates, ↓reduceIte, searchList, Option.some.injEq, Prod.mk.injEq] at answered
      obtain ⟨hit, rfl⟩ := answered
      simpa [Holds, LocalPhase.searched] using
        world.devices.entriesAllocated client (Registry.find?_mem hit)

private theorem Follows.reads {env : Env} {client : Ref} {own : SubdevClient}
    (follows : race.Follows receiver fits topic history phases world)
    (found : phases receiver = .found client)
    (answered : respond env (.readClient client) world = some (own, after)) :
    race.Follows receiver fits topic (history ++ [(pool, .request receiver (.readClient client) own)])
      (Function.update phases receiver (.read client own)) after := by
  refine follows.advance answered ?_ ?_ ?_ (follows.fit (by simp [found]))
  · rw [found]
    rfl
  · rw [found]
    rfl
  · simp only [respond, Option.bind_eq_bind, Option.bind_eq_some_iff] at answered
    obtain ⟨now, present, same⟩ := answered
    cases same
    intro start begun
    obtain ⟨flag, kept⟩ := follows.clients client start begun
    exact ⟨flag, Option.some.inj (present.symm.trans kept)⟩

private theorem Follows.invokes {env : Env} {client : Ref} {own : SubdevClient} {made : HandlerCall}
    (follows : race.Follows receiver fits topic history phases world)
    (read : phases receiver = .read client own) (chosen : made.Chosen client own topic)
    (answered : respond env (.invoke made) world = some ((), after)) :
    race.Follows receiver fits topic (history ++ [(pool, .request receiver (.invoke made) ())])
      (Function.update phases receiver (.called made)) after := by
  have held := follows.holds
  rw [read] at held
  obtain ⟨handler, target, same⟩ := chosen
  refine follows.advance answered ?_ ?_ ?_ (follows.fit (by simp [read]))
  · rw [read]
    simp [LocalPhase.outcome, target, lookupBy]
  · rw [read]
    simp [LocalPhase.call?, callBy]
  · exact ⟨client, own, ⟨handler, target, same⟩, held⟩

/-- One step of the receiver takes its phase on. -/
private theorem Follows.own_step {env : Env} (allocates : ∀ site, env.malloc site = true)
    (follows : race.Follows receiver fits topic history phases world)
    (allowed : (localProtocol env fits deviceSn topic).allowed (phases receiver) request)
    (handled : handle env request world = some (reply, after)) : ∃ phase,
      (localProtocol env fits deviceSn topic).step (phases receiver) request reply phase ∧
        race.Follows receiver fits topic (history ++ [(pool, .request receiver request reply)])
          (Function.update phases receiver phase) after := by
  obtain ⟨passed, answered⟩ := Handler.of_guarded handled
  have stays
      (step : (localProtocol env fits deviceSn topic).step (phases receiver) request reply (phases receiver))
      (noLookup : lookupBy receiver (pool, .request receiver request reply) = none)
      (noCall : callBy receiver (pool, .request receiver request reply) = none) : ∃ phase,
        (localProtocol env fits deviceSn topic).step (phases receiver) request reply phase ∧
          race.Follows receiver fits topic (history ++ [(pool, .request receiver request reply)])
            (Function.update phases receiver phase) after :=
    ⟨phases receiver, step, by
      rw [Function.update_eq_self]
      exact follows.quiet answered noLookup noCall⟩
  cases request
  case malloc site =>
    cases answered
    refine stays ?_ rfl rfl
    cases phases receiver <;> exact ⟨allocates site, rfl⟩
  case logWrite => exact stays (by cases phases receiver <;> exact ⟨passed, rfl⟩) rfl rfl
  case free => exact stays (by cases phases receiver <;> rfl) rfl rfl
  case find list key =>
    cases phase : phases receiver <;> rw [phase] at allowed <;> cases list <;> cases allowed
    rename_i fit key
    cases key
    exact ⟨.searched reply, rfl, follows.searched allocates fit phase answered⟩
  case readClient client =>
    cases phase : phases receiver <;> rw [phase] at allowed <;> cases allowed
    exact ⟨.read client reply, rfl, follows.reads phase answered⟩
  case invoke made =>
    cases phase : phases receiver with
    | read client own =>
      rw [phase] at allowed
      exact ⟨.called made, rfl, follows.invokes phase allowed answered⟩
    | searching | dropped | found | called =>
      rw [phase] at allowed
      cases allowed
  case fault => cases answered
  all_goals
    cases phase : phases receiver <;> rw [phase] at allowed <;> cases allowed

variable {msg : NatsMsg} {payload : CString} {client : Ref} {own : SubdevClient}

/-- A thread's protocol ends with its message handled. -/
private def ending (receiver : ι) (thread : ι) (_ : Unit) (phase : LocalPhase) : Prop :=
  thread = receiver → phase.finished

private theorem follows_of_run (run : race.system.Run race.start history pool)
    (receives : race.processes receiver = .onLocalMessage msg)
    (message : LocalMessage race.config msg topic deviceSn payload)
    (allocates : ∀ site, (race.envs receiver).malloc site = true)
    (known : fits = LocalFits race.config (race.envs receiver) msg topic deviceSn payload) :
    ∃ phases, race.Follows receiver fits topic history phases pool.shared ∧
      ∀ thread, Meets (race.localProtocols receiver fits deviceSn topic thread) (pool.threads thread)
        (ending receiver thread) (phases thread) := by
  have begun : ∀ thread, Meets (race.localProtocols receiver fits deviceSn topic thread)
      (race.start.threads thread) (ending receiver thread) .searching := by
    intro thread
    by_cases same : thread = receiver
    · subst same known
      simp only [localProtocols, ↓reduceIte, start, receives]
      exact (onLocalMessage_follows message).weaken fun _ _ finished _ => finished
    · simp only [localProtocols, same, ↓reduceIte]
      exact Meets.weaken (.of_permissive (fun _ _ => trivial) _ _) fun _ _ _ equal => absurd equal same
  refine System.Run.invariant_ending begun ?_ ?_ ?_ run
  · exact ⟨rfl, rfl, trivial, fun client own present => ⟨own.natsOnline, present⟩,
      fun other => absurd rfl other⟩
  · intro history pool phases thread request reply after follows allowed answered
    by_cases same : thread = receiver
    · subst same
      simp only [localProtocols, ↓reduceIte] at allowed ⊢
      exact follows.own_step allocates allowed answered
    · refine ⟨phases thread, by simp [localProtocols, same], ?_⟩
      rw [Function.update_eq_self]
      obtain ⟨noLookup, noCall⟩ := unrecorded same
      exact follows.quiet (respond_of_handle answered) noLookup noCall
  · intro _ _ _ event
    exact event.elim

/-- The receiver alone, at any moment of a run. -/
private theorem own_of_run (run : race.system.Run race.start history pool)
    (receives : race.processes receiver = .onLocalMessage msg)
    (message : LocalMessage race.config msg topic deviceSn payload)
    (allocates : ∀ site, (race.envs receiver).malloc site = true)
    (known : fits = LocalFits race.config (race.envs receiver) msg topic deviceSn payload) :
    ∃ phases, race.Follows receiver fits topic history phases pool.shared ∧
      Meets (localProtocol (race.envs receiver) fits deviceSn topic) (pool.threads receiver)
        (fun _ phase => phase.finished) (phases receiver) := by
  obtain ⟨phases, follows, meets⟩ := follows_of_run run receives message allocates known
  have own := meets receiver
  simp only [localProtocols, ↓reduceIte] at own
  exact ⟨phases, follows, own.weaken fun _ _ finished => finished rfl⟩

/-- Before a removal takes the client, it is listed if it was at the start or has been
inserted since. -/
private theorem listed_iff (run : race.system.Run race.start history pool)
    (leaves : race.Leaves client history) : client ∈ pool.shared.devices.entries ↔
      client ∈ race.world.devices.entries ∨ Inserted history client := by
  induction run with
  | start => simp [Inserted, start]
  | @step history pool next event run step ih =>
    have before := ih fun step member => leaves step (by simp [member])
    cases step with
    | @request thread request rest reply shared waiting answered =>
      have kept := leaves (pool, .request thread request reply) (by simp) thread request reply rfl
      rw [handle_listed (respond_of_handle answered) kept, before, or_assoc]
      apply or_congr_right
      constructor
      · rintro (⟨step, member, inserted⟩ | rfl)
        · exact ⟨step, by simp [member], inserted⟩
        · exact ⟨_, List.mem_append_right _ (List.mem_singleton.mpr rfl), thread, rfl⟩
      · rintro ⟨step, member, other, inserted⟩
        rcases List.mem_append.mp member with old | new
        · exact .inl ⟨step, old, other, inserted⟩
        · rw [List.mem_singleton.mp new] at inserted
          cases inserted
          exact .inr rfl
    | @outside event shared taken => exact event.elim

private theorem logFits_of_unanswered {env : Env} {world : World} {level : LogLevel} {text : String}
    {args : List Arg} (unanswered : handle env (.logWrite level text args) world = none) :
    env.logFits text args = false := by
  refine Bool.eq_false_iff.mpr fun inside => ?_
  have passed : env.fits (.logWrite level text args) = true := inside
  rw [handle, Program.Handler.guarded_of_passes passed] at unanswered
  cases unanswered

/-- A handling that has come to its end, or that is stopped by what does not fit. -/
private theorem settled_cases (follows : race.Follows receiver fits topic history phases pool.shared)
    (allocates : ∀ site, (race.envs receiver).malloc site = true) {post : Unit → LocalPhase → Prop}
    (meets : Meets (localProtocol (race.envs receiver) fits deviceSn topic) (pool.threads receiver) post
      (phases receiver)) (settled : race.Settled pool receiver) :
    pool.threads receiver = .done () ∨ phases receiver = .searching ∧ ¬ fits ∨
      phases receiver = .dropped ∧ (race.envs receiver).logFits "cannot find conn device[%s]"
        [.str deviceSn.bytes] = false := by
  cases waiting : pool.threads receiver with
  | done value => exact .inl rfl
  | call request rest =>
    have unanswered : handle (race.envs receiver) request pool.shared = none := by
      cases answered : handle (race.envs receiver) request pool.shared with
      | none => rfl
      | some answer => exact absurd (System.Step.request waiting answered) (settled request answer.1 _)
    rw [waiting] at meets
    have allowed := meets.1
    have held := follows.holds
    cases request
    case malloc | free | invoke => cases unanswered
    case logWrite level text args =>
      have long := logFits_of_unanswered unanswered
      cases phase : phases receiver <;> rw [phase] at allowed
      case searching =>
        refine .inr (.inl ⟨rfl, fun fit => ?_⟩)
        rw [allowed fit] at long
        cases long
      case dropped =>
        obtain ⟨rfl, rfl⟩ := allowed
        exact .inr (.inr ⟨rfl, long⟩)
      all_goals cases allowed
    case find list key =>
      cases phase : phases receiver <;> rw [phase] at allowed <;> cases list <;> cases allowed
      rename_i fit key
      cases key
      rw [handle_other rfl] at unanswered
      simp [respond, allocates] at unanswered
    case readClient other =>
      cases phase : phases receiver <;> rw [phase] at allowed held <;> cases allowed
      obtain ⟨own, present⟩ := Option.isSome_iff_exists.mp (Registry.value?_isSome.mpr held)
      rw [handle_other rfl] at unanswered
      simp [respond, present] at unanswered
    case fault =>
      cases phase : phases receiver <;> rw [phase] at allowed
      case searching => exact .inr (.inl ⟨rfl, allowed⟩)
      all_goals cases allowed
    all_goals cases phase : phases receiver <;> rw [phase] at allowed <;> cases allowed

section Settled

variable (follows : race.Follows receiver fits topic history phases pool.shared)
  (allocates : ∀ site, (race.envs receiver).malloc site = true)
  (meets : Meets (localProtocol (race.envs receiver) fits deviceSn topic) (pool.threads receiver)
    (fun _ phase => phase.finished) (phases receiver))

include follows

/-- A message that does not fit gets no further than to its search. -/
private theorem uncalled (unfit : ¬ fits) : history.filterMap (callBy receiver) = [] := by
  have searching : phases receiver = .searching := by
    by_contra other
    exact unfit (follows.fit other)
  rw [follows.calls, searching]
  rfl

include allocates meets

private theorem progress (fit : fits) (inside : (race.envs receiver).logFits
      "cannot find conn device[%s]" [.str deviceSn.bytes] = true) :
    pool.threads receiver = .done () ∨ ∃ request reply next,
      race.system.Step pool (.request receiver request reply) next := by
  by_contra stuck
  rw [not_or] at stuck
  have settled : race.Settled pool receiver :=
    fun request reply next step => stuck.2 ⟨request, reply, next, step⟩
  rcases settled_cases follows allocates meets settled with handled | ⟨-, unfit⟩ | ⟨-, long⟩
  · exact stuck.1 handled
  · exact unfit fit
  · cases inside.symm.trans long

/-- A handling with no step left that has made its search is as far as it gets. -/
private theorem settled_finished (settled : race.Settled pool receiver)
    (searched : phases receiver ≠ .searching) : (phases receiver).finished := by
  rcases settled_cases follows allocates meets settled with handled | ⟨searching, -⟩ | ⟨dropped, -⟩
  · rw [handled] at meets
    exact meets
  · exact absurd searching searched
  · rw [dropped]
    trivial

/-- A message that fits has been looked up when its handling has no step left. -/
private theorem settled_searched (settled : race.Settled pool receiver) (fit : fits) :
    ∃ earlier step later, history = earlier ++ step :: later ∧
      (lookupBy receiver step).isSome = true := by
  obtain ⟨found, outcome⟩ : ∃ found, (phases receiver).outcome = some found := by
    cases phase : phases receiver with
    | searching =>
      rcases settled_cases follows allocates meets settled with handled | ⟨-, unfit⟩ | ⟨dropped, -⟩
      · rw [handled, phase] at meets
        exact meets.elim
      · exact absurd fit unfit
      · cases phase.symm.trans dropped
    | dropped | found | read | called => exact ⟨_, rfl⟩
  have looked : found ∈ history.filterMap (lookupBy receiver) := by
    rw [follows.lookups, outcome]
    exact List.mem_singleton.mpr rfl
  obtain ⟨step, member, lookup⟩ := List.mem_filterMap.mp looked
  obtain ⟨earlier, later, split⟩ := List.append_of_mem member
  exact ⟨earlier, step, later, split, by simp [lookup]⟩

end Settled

omit [DecidableEq ι] in
private theorem searching_of_allowed {env : Env} {phase : LocalPhase} {key : Option CString}
    (allowed : (localProtocol env fits deviceSn topic).allowed phase (.find .connDevice key)) :
    key = some deviceSn := by
  cases phase with
  | searching => exact allowed.2
  | dropped | found | read | called => cases allowed

/-- When the receiver's search finds the client. -/
private theorem lookup_iff {earlier later : Raced ι} {searched : Pool edge World ι}
    {event : Event edge ι Empty} {found : Option Ref}
    (run : race.system.Run race.start history pool)
    (receives : race.processes receiver = .onLocalMessage msg)
    (message : LocalMessage race.config msg topic own.deviceSn payload)
    (allocates : ∀ site, (race.envs receiver).malloc site = true)
    (known : race.world.devices.value? client = some own)
    (split : history = earlier ++ (searched, event) :: later)
    (lookup : lookupBy receiver (searched, event) = some found)
    (leaves : race.Leaves client earlier) : found = some client ↔
      (client ∈ race.world.devices.entries ∨ Inserted earlier client) ∧
        NoEarlierMatch client searched.shared.devices := by
  obtain ⟨prefixRun, next, step⟩ := run.before split
  obtain ⟨phases, follows, meets⟩ := follows_of_run prefixRun receives message allocates rfl
  obtain ⟨flag, present⟩ := follows.clients client own known
  have serialOf : serial searched.shared.devices client = some own.deviceSn := by
    simp [serial, present, SubdevClient.withOnline]
  cases step with
  | @request thread request rest reply shared waiting answered =>
    cases request
    case find list key =>
      cases list
      · cases lookup
      · simp only [lookupBy, Option.ite_none_right_eq_some, Option.some.injEq] at lookup
        obtain ⟨rfl, rfl⟩ := lookup
        have protocol := meets thread
        simp only [localProtocols, ↓reduceIte, waiting] at protocol
        cases searching_of_allowed protocol.1
        have answer : respond (race.envs thread) (.find .connDevice (some own.deviceSn)) searched.shared =
          some (reply, shared) := respond_of_handle answered
        simp only [respond, allocates, ↓reduceIte, searchList, Option.some.injEq, Prod.mk.injEq] at answer
        rw [← answer.1, Registry.find?_eq_some_iff_before, listed_iff prefixRun leaves,
          noEarlierMatch_iff serialOf]
        simp [own_matches serialOf]
    all_goals cases lookup
  | @outside event shared taken => exact event.elim

private theorem chosen_of_read {made : HandlerCall} {read : SubdevClient} {flag : Bool}
    (same : read = own.withOnline flag) :
    made.Chosen client read topic ↔ made.Chosen client own topic := by
  subst same
  rfl

/-- A handling that has come to an end has called the handler of the client it found. -/
private theorem delivered_iff (follows : race.Follows receiver fits topic history phases world)
    (known : race.world.devices.value? client = some own) (finished : (phases receiver).finished)
    {found : Option Ref} (outcome : (phases receiver).outcome = some found) :
    Delivered history receiver client own topic ↔ found = some client := by
  have calls := follows.calls
  cases phase : phases receiver with
  | dropped =>
    rw [phase] at outcome calls
    cases outcome
    constructor
    · rintro ⟨made, one, -⟩
      cases calls.symm.trans one
    · intro none
      cases none
  | called made =>
    have held := follows.holds
    rw [phase] at outcome calls held
    obtain ⟨hit, read, ⟨handler, target, chosen⟩, reads⟩ := held
    simp only [LocalPhase.outcome, target, Option.map_some, Option.some.injEq] at outcome
    subst outcome
    constructor
    · rintro ⟨other, one, otherHandler, otherTarget, -⟩
      cases calls.symm.trans one
      rw [target] at otherTarget
      simp only [Option.some.injEq, Prod.mk.injEq] at otherTarget
      rw [otherTarget.1]
    · intro same
      cases same
      obtain ⟨flag, same⟩ := reads own known
      exact ⟨made, calls, (chosen_of_read same).mp ⟨handler, target, chosen⟩⟩
  | searching | found | read =>
    rw [phase] at finished
    cases finished

end Race

/-- A local message for a client calls no handler if its logs and its text do not fit. If they
do, its handling goes on to its search and to its end, and once it has no step left it has
reached the client's chosen handler exactly when, at its search, the client had been inserted
and no client before it in the list has a serial number that begins with its own. -/
theorem localMessage_delivered_iff {ι : Type} [DecidableEq ι] (race : Race ι) (history : Raced ι)
    (pool : Pool edge World ι) (receiver : ι) (msg : NatsMsg) (topic payload : CString) (client : Ref)
    (own : SubdevClient) (run : race.system.Run race.start history pool)
    (receives : race.processes receiver = .onLocalMessage msg)
    (message : LocalMessage race.config msg topic own.deviceSn payload)
    (allocates : ∀ site, (race.envs receiver).malloc site = true)
    (known : race.world.devices.value? client = some own) :
    (¬ LocalFits race.config (race.envs receiver) msg topic own.deviceSn payload →
      history.filterMap (callBy receiver) = []) ∧
    (LocalFits race.config (race.envs receiver) msg topic own.deviceSn payload →
      ((race.envs receiver).logFits "cannot find conn device[%s]" [.str own.deviceSn.bytes] = true →
        pool.threads receiver = .done () ∨ ∃ request reply next,
          race.system.Step pool (.request receiver request reply) next) ∧
      (race.Settled pool receiver → ∃ earlier step later, history = earlier ++ step :: later ∧
        (lookupBy receiver step).isSome = true)) ∧
    ∀ earlier step later, history = earlier ++ step :: later →
      (lookupBy receiver step).isSome = true → race.Leaves client earlier →
        race.Settled pool receiver →
          (Delivered history receiver client own topic ↔
            (client ∈ race.world.devices.entries ∨ Inserted earlier client) ∧
              NoEarlierMatch client step.1.shared.devices) := by
  obtain ⟨phases, follows, meets⟩ := Race.own_of_run run receives message allocates rfl
  refine ⟨Race.uncalled follows, fun fit => ⟨Race.progress follows allocates meets fit, fun settled =>
    Race.settled_searched follows allocates meets settled fit⟩, ?_⟩
  intro earlier step later split searches leaves settled
  obtain ⟨found, lookup⟩ := Option.isSome_iff_exists.mp searches
  rw [← Race.lookup_iff run receives message allocates known split lookup leaves]
  have outcome : (phases receiver).outcome = some found := by
    apply Option.mem_toList.mp
    rw [← follows.lookups, split]
    simp [lookup]
  have searched : phases receiver ≠ .searching := by
    intro searching
    rw [searching] at outcome
    cases outcome
  exact Race.delivered_iff follows known
    (Race.settled_finished follows allocates meets settled searched) outcome

/-- A client that logs in, and a message for it. -/
private def loginAndMessage : Race Bool where
  config := helloConfig
  processes
    | false => .device (.loginAsync 0)
    | true => .onLocalMessage helloMsg
  envs _ := .calm
  world := constructed

private def removes : Pool edge World Bool × Event edge Bool Empty → Bool
  | (_, .request _ (.remove _ _) _) => true
  | _ => false

private def publishes : Pool edge World Bool × Event edge Bool Empty → Bool
  | (_, .request false (.publishString _ _) _) => true
  | _ => false

private theorem leaves_of_quiet {race : Race Bool} {history : Raced Bool} {client : Ref}
    (quiet : history.all (fun step => !removes step) = true) : race.Leaves client history := by
  rintro ⟨pool, event⟩ member thread request reply rfl taken
  have other := List.all_eq_true.mp quiet _ member
  cases request
  case remove => cases other
  all_goals cases taken

private def inserts : Pool edge World Bool × Event edge Bool Empty → Bool
  | (_, .request _ (.push .connDevice client) _) => client == 0
  | _ => false

private theorem inserted_of_any {history : Raced Bool} (inserted : history.any inserts = true) :
    Inserted history 0 := by
  obtain ⟨⟨pool, event⟩, member, inserting⟩ := List.any_eq_true.mp inserted
  cases event with
  | outside event => exact event.elim
  | request thread request reply =>
    cases request
    case push list client =>
      cases list
      · cases inserting
      · cases beq_iff_eq.mp inserting
        exact ⟨_, member, thread, rfl⟩
    all_goals cases inserting

private theorem split_of_lookup {history : Raced Bool} {index : Nat} {found : Option Ref}
    (lookup : (history.drop index).head?.bind (lookupBy true) = some found) : ∃ step later,
      history = history.take index ++ step :: later ∧ (history.drop index).head? = some step ∧
        lookupBy true step = some found := by
  obtain ⟨step, first, looks⟩ := Option.bind_eq_some_iff.mp lookup
  obtain ⟨later, rest⟩ := List.head?_eq_some_iff.mp first
  exact ⟨step, later, by rw [← rest, List.take_append_drop], first, looks⟩

/-- The login is taken so many steps, and then the message is handled with as many. -/
private def messageAfter (login message : Nat) : List (System.Choice Bool Empty) :=
  List.replicate login (.thread false) ++ List.replicate message (.thread true)

private def isDone : Program edge Unit → Bool
  | .done _ => true
  | .call _ _ => false

private theorem done_of_isDone {program : Program edge Unit} (done : isDone program = true) :
    program = .done () := by
  cases program with
  | done => rfl
  | call => cases done

private theorem settled_of_done {race : Race Bool} {pool : Pool edge World Bool} {thread : Bool}
    (done : pool.threads thread = .done ()) : race.Settled pool thread := by
  rintro request reply next ⟨waiting, -⟩
  cases done.symm.trans waiting

private def constructedClient : SubdevClient := .constructed (.literal "p1") (.literal "dev1") 1 none

theorem localMessage_delivered_iff_inserted : ∃ history pool,
    loginAndMessage.system.Run loginAndMessage.start history pool ∧
      Delivered history true 0 constructedClient (.literal "/t") := by
  have outcome : (loginAndMessage.system.follow loginAndMessage.start (messageAfter 19 12)).map
      (fun result => (((result.1.drop 25).head?.bind (lookupBy true),
        (result.1.drop 25).head?.map fun step => step.1.shared.devices.entries),
        (result.1.take 25).any inserts, (result.1.take 25).all (fun step => !removes step),
        isDone (result.2.threads true))) =
      some ((some (some 0), some [0]), true, true, true) := by decide +kernel
  obtain ⟨⟨history, pool⟩, followed, same⟩ := Option.map_eq_some_iff.mp outcome
  simp only [Prod.mk.injEq] at same
  obtain ⟨⟨lookup, entries⟩, inserted, quiet, done⟩ := same
  obtain ⟨step, later, split, first, looks⟩ := split_of_lookup lookup
  have run := System.run_of_follow followed
  have alone : step.1.shared.devices.entries = [0] := by simpa [first] using entries
  refine ⟨history, pool, run, ?_⟩
  refine ((localMessage_delivered_iff loginAndMessage history pool true helloMsg (.literal "/t")
    (.literal "aGk=") 0 constructedClient run rfl hello_message (fun _ => rfl) rfl).2.2 _ step later split
    (by simp [looks]) (leaves_of_quiet quiet) (settled_of_done (done_of_isDone done))).mpr ?_
  refine ⟨.inr (inserted_of_any inserted), fun own _ ref member => ?_⟩
  rw [alone] at member
  cases member

/-- The login request is out and the client not yet inserted: the message is dropped. -/
theorem localMessage_dropped : ¬ ∀ (race : Race Bool) (history : Raced Bool) (pool : Pool edge World Bool)
    (msg : NatsMsg) (topic payload : CString) (client : Ref) (own : SubdevClient),
    race.system.Run race.start history pool →
    race.processes false = .device (.loginAsync client) → race.processes true = .onLocalMessage msg →
    LocalMessage race.config msg topic own.deviceSn payload →
    (base64Decode race.config.charSign (some payload.bytes) payload.strlen).isSome = true →
    (∀ thread, race.envs thread = .calm) → race.world.devices.value? client = some own →
    ∀ earlier step later, history = earlier ++ step :: later → (lookupBy true step).isSome = true →
      earlier.any publishes = true → race.Leaves client earlier → pool.threads true = .done () →
        Delivered history true client own topic := by
  intro always
  have outcome : (loginAndMessage.system.follow loginAndMessage.start (messageAfter 11 11)).map
      (fun result => ((result.1.drop 17).head?.bind (lookupBy true), (result.1.take 17).any publishes,
        (result.1.take 17).all (fun step => !removes step), isDone (result.2.threads true),
        (result.1.filterMap (callBy true)).length)) =
      some (some none, true, true, true, 0) := by decide +kernel
  obtain ⟨⟨history, pool⟩, followed, same⟩ := Option.map_eq_some_iff.mp outcome
  simp only [Prod.mk.injEq] at same
  obtain ⟨lookup, published, quiet, done, uncalled⟩ := same
  obtain ⟨step, later, split, -, looks⟩ := split_of_lookup lookup
  obtain ⟨made, calls, -⟩ := always loginAndMessage history pool helloMsg (.literal "/t")
    (.literal "aGk=") 0 constructedClient (System.run_of_follow followed) rfl rfl hello_message
    (by decide +kernel) (fun _ => rfl) rfl _ step later split (by simp [looks]) published
    (leaves_of_quiet quiet) (done_of_isDone done)
  rw [calls] at uncalled
  cases uncalled

end IotstackDriver.Edge
