import IotstackDriver.Support.Interleaving
import IotstackDriver.Edge.RequestEntries

/-! Replies and the calls that wait for them, over every interleaving of the calls'
steps with the handling of broadcasts. -/

namespace IotstackDriver.Edge

open Libc Support

/-- Any number of request/reply calls, each with the outcomes it meets, in a world that
may hold entries of earlier calls. Every allocation succeeds, a call sees in its
buffer what the buffer holds, and the ids drawn are new. -/
structure Exchange (ι : Type) where
  config : DriverConfig
  calls : ι → RequestCall
  envs : ι → Env
  receiver : Env
  world : World
  allocates : ∀ i site, (envs i).malloc site = true
  receives : ∀ site, receiver.malloc site = true
  looks : ∀ i look stored, (envs i).look look stored = stored
  distinct : ∀ i j, (envs i).requestId = (envs j).requestId → i = j
  fresh : ∀ node ∈ world.requests.entries, ∀ entry, world.requests.value? node = some entry →
    ∀ i, entry.requestId ≠ (envs i).requestId

variable {ι : Type}

namespace Exchange

def id (exchange : Exchange ι) (i : ι) : UInt32 := (exchange.envs i).requestId

/-- The calls take one request at a time; a broadcast is handled in one step. -/
def system (exchange : Exchange ι) : System edge World ι NatsMsg where
  handler i := handle (exchange.envs i)
  outside msg world :=
    ((onBroadcastMessage exchange.config msg).run (handle exchange.receiver) world).map Prod.snd

def start (exchange : Exchange ι) : Pool edge World ι where
  shared := exchange.world
  threads i := (exchange.calls i).program exchange.config

end Exchange

/-- The calls' steps and the broadcasts handled so far. -/
abbrev Exchanged (ι : Type) := History edge World ι NatsMsg

section Records

variable (history : Exchanged ι) (i : ι)

def Created (node : Ref) : Prop :=
  ∃ pool requestId, (pool, .request i (.newMsgParse requestId) node) ∈ history

def Published : Prop :=
  ∃ pool subject text status, (pool, .request i (.publishString subject text) status) ∈ history

def Removed : Prop :=
  ∃ pool node found, (pool, .request i (.remove .requestid node) found) ∈ history

def Handled (msg : NatsMsg) : Prop := ∃ pool, (pool, .outside msg) ∈ history

end Records

/-- What a read, a removal and a reply may do after some steps of an exchange. -/
def Exchange.Correlates (exchange : Exchange ι) (history : Exchanged ι) (before : World) :
    Event edge ι NatsMsg → World → Prop
  | .request i (.readPayload node _) payload, _ => Created history i node ∧
    (payload = [] ∨ ∃ msg, Handled history msg ∧
      broadcastReply exchange.config msg = some (exchange.id i, payload))
  | .request i (.remove .requestid node) _, after => Created history i node ∧
    RemovesOnly node before.requests after.requests
  | .outside msg, after => ∀ i node text, Created history i node → Published history i →
    ¬ Removed history i → broadcastReply exchange.config msg = some (exchange.id i, text) →
      ∃ entry, after.requests.value? node = some entry ∧
        entry.payload.cString natsMsgMaxLen = text
  | _, _ => True

/-! ## The steps of a call -/

/-- The requests that change the entries or are looked for among a call's steps. -/
def Request.registers : Request → Bool
  | newMsgParse _ | push .requestid _ | remove .requestid _ | publishString _ _
  | writePayload _ _ => true
  | _ => false

private theorem changes_of_quiet {request : Request} (quiet : request.registers = false) :
    request.changes .requestid = false := by
  cases request
  case newMsgParse | writePayload => cases quiet
  case push list node | remove list node =>
    cases list
    · cases quiet
    · rfl
  all_goals rfl

private theorem callProtocol_quiet {env : Env} {request : Request} {world after : World}
    {reply : request.Reply} (quiet : request.registers = false) (phase : CallPhase)
    (answered : respond env request world = some (reply, after)) :
    (callProtocol env).step phase request reply phase := by
  cases request
  case newMsgParse | publishString | writePayload => cases quiet
  case push list node =>
    cases list
    · cases quiet
    · rfl
  case remove list node =>
    cases list
    · cases quiet
    · rfl
  case malloc site =>
    cases answered
    exact ⟨rfl, rfl⟩
  case rand draw =>
    cases answered
    exact ⟨rfl, rfl⟩
  all_goals rfl

/-! ## The history of the calls -/

/-- The entry a call created, if it has created one. -/
def CallPhase.node? : CallPhase → Option Ref
  | unregistered => none
  | created node | listed node | removed node => some node

/-- The phases agree with the steps taken. -/
structure Recorded (history : Exchanged ι) (phases : ι → CallPhase) : Prop where
  creates : ∀ i node, Created history i node ↔ (phases i).node? = some node
  publishes : ∀ i, Published history i → ∃ node, phases i = .listed node ∨ phases i = .removed node
  removes : ∀ i node, phases i = .removed node → Removed history i

section History

variable {history : Exchanged ι} {phases : ι → CallPhase} {pool : Pool edge World ι}
  {event : Event edge ι NatsMsg} {i : ι} {node : Ref}

private theorem created_append : Created (history ++ [(pool, event)]) i node ↔
    Created history i node ∨ ∃ requestId, event = .request i (.newMsgParse requestId) node := by
  constructor
  · rintro ⟨before, requestId, member⟩
    rcases List.mem_append.mp member with old | new
    · exact .inl ⟨before, requestId, old⟩
    · cases List.mem_singleton.mp new
      exact .inr ⟨requestId, rfl⟩
  · rintro (⟨before, requestId, old⟩ | ⟨requestId, rfl⟩)
    · exact ⟨before, requestId, List.mem_append_left _ old⟩
    · exact ⟨pool, requestId, List.mem_append_right _ (List.mem_singleton.mpr rfl)⟩

private theorem published_append (published : Published (history ++ [(pool, event)]) i) :
    Published history i ∨
      ∃ subject text status, event = .request i (.publishString subject text) status := by
  obtain ⟨before, subject, text, status, member⟩ := published
  rcases List.mem_append.mp member with old | new
  · exact .inl ⟨before, subject, text, status, old⟩
  · cases List.mem_singleton.mp new
    exact .inr ⟨subject, text, status, rfl⟩

private theorem removed_append (removed : Removed history i) :
    Removed (history ++ [(pool, event)]) i := by
  obtain ⟨before, node, found, member⟩ := removed
  exact ⟨before, node, found, List.mem_append_left _ member⟩

private theorem handled_append {msg : NatsMsg} (handled : Handled history msg) :
    Handled (history ++ [(pool, event)]) msg := by
  obtain ⟨before, member⟩ := handled
  exact ⟨before, List.mem_append_left _ member⟩

namespace Recorded

/-- A step that neither creates nor publishes. -/
private theorem keep (recorded : Recorded history phases)
    (noEntry : ∀ i requestId node, event ≠ .request i (.newMsgParse requestId) node)
    (noMessage : ∀ i subject text status, event ≠ .request i (.publishString subject text) status) :
    Recorded (history ++ [(pool, event)]) phases where
  creates i node := by
    rw [created_append, recorded.creates]
    apply or_iff_left
    rintro ⟨requestId, same⟩
    exact noEntry i requestId node same
  publishes i published := by
    rcases published_append published with old | ⟨subject, text, status, same⟩
    · exact recorded.publishes i old
    · exact absurd same (noMessage i subject text status)
  removes i node phase := removed_append (recorded.removes i node phase)

private theorem publish (recorded : Recorded history phases) (listed : phases i = .listed node)
    (subject text : Bytes) (status : EdgeStatus) :
    Recorded (history ++ [(pool, .request i (.publishString subject text) status)]) phases where
  creates j other := by
    rw [created_append, recorded.creates]
    apply or_iff_left
    rintro ⟨_, same⟩
    cases same
  publishes j published := by
    rcases published_append published with old | ⟨_, _, _, same⟩
    · exact recorded.publishes j old
    · cases same
      exact ⟨node, .inl listed⟩
  removes j other gone := removed_append (recorded.removes j other gone)

variable [DecidableEq ι]

/-- The next phase of a call with the same entry. -/
private theorem advance (recorded : Recorded history phases) {phase : CallPhase}
    (same : phase.node? = (phases i).node?)
    (published : ∀ node, phases i = .listed node ∨ phases i = .removed node →
      phase = .listed node ∨ phase = .removed node)
    (removed : ∀ node, phase = .removed node → Removed history i) :
    Recorded history (Function.update phases i phase) where
  creates j node := by
    rw [recorded.creates]
    by_cases equal : j = i
    · subst equal
      rw [Function.update_self, same]
    · rw [Function.update_of_ne equal]
  publishes j before := by
    obtain ⟨node, was⟩ := recorded.publishes j before
    by_cases equal : j = i
    · subst equal
      exact ⟨node, by rw [Function.update_self]; exact published node was⟩
    · exact ⟨node, by rw [Function.update_of_ne equal]; exact was⟩
  removes j node gone := by
    by_cases equal : j = i
    · subst equal
      rw [Function.update_self] at gone
      exact removed node gone
    · rw [Function.update_of_ne equal] at gone
      exact recorded.removes j node gone

private theorem create (recorded : Recorded history phases) (free : phases i = .unregistered)
    (requestId : UInt32) : Recorded (history ++ [(pool, .request i (.newMsgParse requestId) node)])
      (Function.update phases i (.created node)) where
  creates j other := by
    rw [created_append, recorded.creates]
    by_cases equal : j = i
    · subst equal
      rw [Function.update_self, free]
      constructor
      · rintro (absent | ⟨_, same⟩)
        · cases absent
        · cases same
          rfl
      · intro same
        cases same
        exact .inr ⟨requestId, rfl⟩
    · rw [Function.update_of_ne equal]
      apply or_iff_left
      rintro ⟨_, same⟩
      cases same
      exact equal rfl
  publishes j published := by
    rcases published_append published with old | ⟨_, _, _, same⟩
    · obtain ⟨other, was⟩ := recorded.publishes j old
      have different : j ≠ i := by
        rintro rfl
        rcases was with was | was <;> cases free.symm.trans was
      exact ⟨other, by rwa [Function.update_of_ne different]⟩
    · cases same
  removes j other gone := by
    obtain ⟨-, gone⟩ := phase_of_update gone nofun
    exact removed_append (recorded.removes j other gone)

end Recorded

end History

/-! ## The runs -/

namespace Exchange

variable (exchange : Exchange ι)

/-- A broadcast handled so far was a reply with this id and text. -/
def Replied (history : Exchanged ι) (id : UInt32) (text : Bytes) : Prop :=
  ∃ msg, Handled history msg ∧ broadcastReply exchange.config msg = some (id, text)

structure Sound (history : Exchanged ι) (phases : ι → CallPhase) (world : World) : Prop where
  entries : EntriesHold exchange.id (exchange.Replied history) phases world.requests
  recorded : Recorded history phases

variable {exchange} {history : Exchanged ι} {phases : ι → CallPhase}
  {pool next : Pool edge World ι} {world after : World}

private theorem Sound.later (sound : exchange.Sound history phases world)
    (pool : Pool edge World ι) (event : Event edge ι NatsMsg) :
    EntriesHold exchange.id (exchange.Replied (history ++ [(pool, event)])) phases world.requests := by
  refine sound.entries.mono fun id text replied => ?_
  obtain ⟨msg, handled, reply⟩ := replied
  exact ⟨msg, handled_append handled, reply⟩

private theorem removal_sameContent {requests before after : Registry MsgParse} {node : Ref}
    (same : SameContent before requests) (removal : RemovesOnly node requests after) :
    RemovesOnly node before after where
  once := same.entries ▸ removal.once
  entries := same.entries ▸ removal.entries
  released := removal.released
  others other different := by
    obtain ⟨value, live⟩ := removal.others other different
    rw [value, live, Registry.value?, Registry.live, same.cells]
    exact ⟨rfl, rfl⟩

/-- What the removal request does once the call's own entry is found under its id. -/
private theorem handle_remove {i : ι} {node : Ref} {found : Bool}
    (holds : EntriesHold exchange.id (exchange.Replied history) phases world.requests)
    (listed : phases i = .listed node)
    (answered : respond (exchange.envs i) (.remove .requestid node) world = some (found, after)) :
    ∃ requests, SameContent world.requests requests ∧
      after.requests = requests.remove (msgParseMatch (exchange.id i)) := by
  obtain ⟨-, entry, present, same, -⟩ := holds.listed i node listed
  simp only [respond, present, Option.bind_eq_bind, Option.bind_some, exchange.allocates, ↓reduceIte,
    same] at answered
  cases answered
  exact ⟨_, ⟨by simp, by simp, by simp⟩, rfl⟩

private theorem outside_stores {msg : NatsMsg}
    (taken : exchange.system.outside msg world = some after) :
    Stores (broadcastReply exchange.config msg) world.requests after.requests := by
  obtain ⟨⟨_, final⟩, ran, same⟩ := Option.map_eq_some_iff.mp taken
  cases same
  exact (onBroadcastMessage_ends exchange.config msg exchange.receives).of_run (run_respond ran)

private theorem sound_outside {msg : NatsMsg} (sound : exchange.Sound history phases pool.shared)
    (taken : exchange.system.outside msg pool.shared = some after) :
    exchange.Sound (history ++ [(pool, .outside msg)]) phases after := by
  have entries := sound.later pool (.outside msg)
  have stores := outside_stores taken
  refine ⟨?_, sound.recorded.keep (fun _ _ _ same => by cases same) (fun _ _ _ _ same => by cases same)⟩
  cases reply : broadcastReply exchange.config msg with
  | none =>
    rw [reply] at stores
    exact entries.sameContent stores
  | some replyText =>
    obtain ⟨id, text⟩ := replyText
    rw [reply] at stores
    cases found : pool.shared.requests.find? (msgParseMatch id) with
    | none =>
      simp only [Stores, Option.bind_some, found, Option.map_none] at stores
      exact entries.sameContent stores
    | some node =>
      simp only [Stores, Option.bind_some, found, Option.map_some] at stores
      refine entries.store found (broadcastReply_noNul reply) stores ⟨msg, ?_, reply⟩
      exact ⟨pool, List.mem_append_right _ (List.mem_singleton.mpr rfl)⟩

variable [DecidableEq ι]

private theorem sound_request {i : ι} {request : Request} {reply : request.Reply}
    (sound : exchange.Sound history phases pool.shared)
    (allowed : (callProtocol (exchange.envs i)).allowed (phases i) request)
    (answered : respond (exchange.envs i) request pool.shared = some (reply, after)) :
    ∃ phase, (callProtocol (exchange.envs i)).step (phases i) request reply phase ∧
      exchange.Sound (history ++ [(pool, .request i request reply)])
        (Function.update phases i phase) after := by
  have entries := sound.later pool (.request i request reply)
  cases quiet : request.registers with
  | false =>
    refine ⟨phases i, callProtocol_quiet quiet (phases i) answered, ?_, ?_⟩
    · rw [Function.update_eq_self]
      exact entries.sameContent ((handle_sameContent answered).1 (changes_of_quiet quiet))
    · rw [Function.update_eq_self]
      refine sound.recorded.keep ?_ ?_
      · rintro j requestId node same
        cases same
        cases quiet
      · rintro j subject text status same
        cases same
        cases quiet
  | true =>
    cases request
    case newMsgParse requestId =>
      obtain ⟨free, rfl⟩ := allowed
      cases answered
      exact ⟨_, rfl, entries.alloc free, sound.recorded.create free _⟩
    case publishString subject text =>
      obtain ⟨node, listed⟩ := allowed
      cases answered
      refine ⟨phases i, rfl, ?_, ?_⟩
      · rw [Function.update_eq_self]
        exact entries
      · rw [Function.update_eq_self]
        exact sound.recorded.publish listed subject text _
    case push list node =>
      cases list
      · have created : phases i = .created node := allowed
        simp only [respond] at answered
        split at answered <;> cases answered
        refine ⟨_, rfl, entries.push exchange.distinct created, ?_⟩
        refine Recorded.advance (sound.recorded.keep (fun _ _ _ same => by cases same)
          (fun _ _ _ _ same => by cases same)) (by rw [created]; rfl) ?_ ?_
        · intro other was
          rcases was with was | was <;> cases created.symm.trans was
        · intro other gone
          cases gone
      · cases quiet
    case remove list node =>
      cases list
      · have listed : phases i = .listed node := allowed
        obtain ⟨requests, same, removed⟩ := handle_remove entries listed answered
        refine ⟨_, rfl, ?_, ?_⟩
        · rw [removed]
          exact (entries.sameContent same).remove exchange.distinct listed
        · refine Recorded.advance (sound.recorded.keep (fun _ _ _ same => by cases same)
            (fun _ _ _ _ same => by cases same)) (by rw [listed]; rfl) ?_ ?_
          · intro other was
            rcases was with was | was <;> cases listed.symm.trans was
            exact .inr rfl
          · intro other gone
            exact ⟨pool, node, _, List.mem_append_right _ (List.mem_singleton.mpr rfl)⟩
      · cases quiet
    case writePayload => exact allowed.elim
    all_goals cases quiet

/-- Every state an exchange reaches. -/
theorem sound (run : exchange.system.Run exchange.start history pool) : ∃ phases,
    exchange.Sound history phases pool.shared ∧
      ∀ i, Follows (exchange.envs i) (pool.threads i) (fun _ _ => True) (phases i) := by
  have begun : ∀ i, Program.Meets (callProtocol (exchange.envs i)) (exchange.start.threads i)
      (fun _ _ => True) CallPhase.unregistered :=
    fun i => (exchange.calls i).follows exchange.config (exchange.allocates i)
  refine System.Run.invariant begun ?_ ?_ ?_ run
  · refine ⟨⟨?_, ?_, ?_⟩, ⟨?_, ?_, ?_⟩⟩
    · intro node member entry found i same
      exact absurd same (exchange.fresh node member entry found i)
    · intro i node created
      cases created
    · intro i node listed
      cases listed
    · intro i node
      constructor
      · rintro ⟨_, _, member⟩
        cases member
      · intro same
        cases same
    · rintro i ⟨_, _, _, _, member⟩
      cases member
    · intro i node removed
      cases removed
  · intro history pool phases i request reply after sound allowed answered
    exact sound_request sound allowed (respond_of_handle answered)
  · intro history pool phases msg after sound taken
    exact sound_outside sound taken

end Exchange

private theorem correlates [DecidableEq ι] {exchange : Exchange ι} {history : Exchanged ι}
    {pool next : Pool edge World ι} {event : Event edge ι NatsMsg}
    (run : exchange.system.Run exchange.start history pool)
    (step : exchange.system.Step pool event next) :
    exchange.Correlates history pool.shared event next.shared := by
  obtain ⟨phases, ⟨entries, recorded⟩, follows⟩ := exchange.sound run
  cases step with
  | @request i request rest reply after waiting answered =>
    have protocol := follows i
    rw [waiting] at protocol
    have allowed := protocol.1
    cases request
    case readPayload node look =>
      have listed : phases i = .listed node := allowed
      obtain ⟨-, entry, present, same, content⟩ := entries.listed i node listed
      have read : respond (exchange.envs i) (.readPayload node look) pool.shared = some (reply, after) :=
        answered
      simp only [respond, present, Option.bind_eq_bind, Option.bind_some, exchange.looks,
        Option.some.injEq, Prod.mk.injEq] at read
      obtain ⟨rfl, -⟩ := read
      exact ⟨(recorded.creates i node).mpr (by rw [listed]; rfl), content⟩
    case remove list node =>
      cases list
      · have listed : phases i = .listed node := allowed
        obtain ⟨requests, same, removed⟩ := Exchange.handle_remove entries listed answered
        refine ⟨(recorded.creates i node).mpr (by rw [listed]; rfl), ?_⟩
        apply Exchange.removal_sameContent same
        rw [removed]
        exact (entries.sameContent same).removesOnly listed
      · trivial
    all_goals trivial
  | @outside msg after taken =>
    intro i node text created published waiting reply
    have stores := Exchange.outside_stores taken
    obtain ⟨other, phase⟩ := recorded.publishes i published
    have own := (recorded.creates i node).mp created
    rcases phase with listed | removed
    · rw [listed] at own
      cases own
      obtain ⟨-, entry, present, -⟩ := entries.listed i node listed
      simp only [Stores, reply, Option.bind_some, entries.find?_own listed, Option.map_some] at stores
      refine ⟨entry.storeReply text, ?_, ?_⟩
      · rw [stores.value?, if_pos rfl, present, Option.map_some]
      · exact storeReply_payload entry (broadcastReply_noNul reply) stores.fits
    · exact absurd (recorded.removes i other removed) waiting

/-- Over every interleaving a call reads nothing or a reply to its own id, a reply that
is handled while a call waits is stored in its entry, and a removal takes the call's
own entry and no other. A reply that fits the buffers, and whose logs do, can be handled in
every state. -/
theorem exchange_correlates [DecidableEq ι] (exchange : Exchange ι) (history : Exchanged ι)
    (pool : Pool edge World ι) (run : exchange.system.Run exchange.start history pool) :
    (∀ event next, exchange.system.Step pool event next →
      exchange.Correlates history pool.shared event next.shared) ∧
    ∀ msg id text, broadcastReply exchange.config msg = some (id, text) →
      (∀ coded, broadcastDecoded exchange.config msg = some coded → coded.Fits) →
      LogsFit exchange.receiver (onBroadcastMessage exchange.config msg) pool.shared →
        ∃ next, exchange.system.Step pool (.outside msg) next := by
  refine ⟨fun event next step => correlates run step, fun msg id text reply fits logs => ?_⟩
  obtain ⟨after, ran⟩ := onBroadcastMessage_completes pool.shared exchange.receives reply fits logs
  have taken : exchange.system.outside msg pool.shared = some after :=
    Option.map_eq_some_iff.mpr ⟨_, ran, rfl⟩
  exact ⟨_, .outside taken⟩

private def answeredTopo : Exchange Unit where
  config := .answering
  calls _ := .getTopo 1000
  envs _ := .calm
  receiver := .calm
  world := .initial
  allocates _ _ := rfl
  receives _ := rfl
  looks _ _ _ := rfl
  distinct _ _ _ := rfl
  fresh _ member := by cases member

/-- The reply comes while the call polls its buffer. -/
theorem exchange_correlates_answeredTopo : ∃ history pool next,
    answeredTopo.system.Step pool (.outside .answer) next ∧
      answeredTopo.Correlates history pool.shared (.outside .answer) next.shared := by
  have ran : ((answeredTopo.system.follow answeredTopo.start (List.replicate 30 (.thread ()))).bind
      fun result => (answeredTopo.system.advance result.2 (.outside .answer)).map
        fun step => (result, step)).isSome = true := by decide +kernel
  obtain ⟨⟨⟨history, pool⟩, event, next⟩, taken⟩ := Option.isSome_iff_exists.mp ran
  obtain ⟨⟨_, _⟩, followed, advanced⟩ := Option.bind_eq_some_iff.mp taken
  obtain ⟨⟨_, _⟩, advanced, same⟩ := Option.map_eq_some_iff.mp advanced
  cases same
  obtain ⟨world, stepped, same⟩ := Option.map_eq_some_iff.mp advanced
  cases same
  have run := System.run_of_follow followed
  have step := System.step_of_advance advanced
  exact ⟨history, pool, _, step, (exchange_correlates answeredTopo history pool run).1 _ _ step⟩

end IotstackDriver.Edge
