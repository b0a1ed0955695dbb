import IotstackDriver.Edge.Issued
import IotstackDriver.Edge.Races
import IotstackDriver.Edge.RequestEntries
import Mathlib.Data.List.Nodup

/-! The ids in `requestid_list`: how a call comes by the entry it lists, and what the
threads' steps make of the ids listed. -/

namespace IotstackDriver.Edge

open Libc Support Program

/-- An operation creates entries under the id it draws only, and lists only an entry it
created. The state is that entry, until it is listed. -/
def listingProtocol (env : Env) : Protocol edge (Option Ref) where
  allowed held
    | .newMsgParse requestId => requestId = env.requestId
    | .push .requestid node => held = some node
    | _ => True
  step held
    | .rand draw, reply, next => reply = env.rand draw ∧ next = held
    | .newMsgParse _, reply, next => next = some reply
    | .push .requestid _, _, next => next = none
    | _, _, next => next = held

def Lists (env : Env) (program : Program edge α) (post : α → Option Ref → Prop)
    (held : Option Ref) : Prop :=
  Meets (listingProtocol env) program post held

/-- The request neither creates an entry nor lists one. -/
def Unlisting : Request → Prop
  | .newMsgParse _ | .push .requestid _ => False
  | _ => True

abbrev Passive (program : Program edge α) : Prop := Issues (I := edge) Unlisting program fun _ => True

theorem unlisting_of_reads (request : Request) (reads : Reads request) : Unlisting request := by
  cases request
  case newMsgParse => cases reads.1
  case push list node =>
    cases list
    · cases reads.1
    · cases reads.2
  all_goals trivial

private theorem unlisting_of_waits (request : Request) (waits : Waits request) : Unlisting request :=
  unlisting_of_reads request waits.reads

@[simp] theorem passive_of_readsOnly {program : Program edge α} (only : ReadsOnly program) :
    Passive program :=
  issues_of_readsOnly unlisting_of_reads only

variable {env : Env} {held : Option Ref} {config : DriverConfig} {timeOutMs : UInt32}

@[simp] theorem lists_pure {value : α} {post : α → Option Ref → Prop} :
    Lists env (pure value) post held ↔ post value held := Iff.rfl

@[simp] theorem lists_bind {program : Program edge α} {next : α → Program edge β}
    {post : β → Option Ref → Prop} : Lists env (program >>= next) post held ↔
      Lists env program (fun value held => Lists env (next value) post held) held :=
  meets_bind ..

theorem lists_of_passive {program : Program edge α} {post : α → Option Ref → Prop}
    (passive : Passive program) (continues : ∀ value, post value held) :
    Lists env program post held := by
  refine Meets.of_issues passive (fun request unlisting => ?_) fun value _ => continues value
  cases request
  case newMsgParse => cases unlisting
  case push list node =>
    cases list
    · cases unlisting
    · exact ⟨trivial, fun _ _ same => same⟩
  case rand => exact ⟨trivial, fun _ _ same => same.2⟩
  all_goals exact ⟨trivial, fun _ _ same => same⟩

theorem lists_genRequestid {post : UInt32 → Option Ref → Prop} :
    Lists env genRequestid post held ↔ post env.requestId held := by
  have draw (site : Draw) {post : Fin randBound → Option Ref → Prop} {held : Option Ref} :
      Lists env (rand site) post held ↔ post (env.rand site) held := by
    constructor
    · exact fun lists => lists.2 _ _ ⟨rfl, rfl⟩
    · rintro holds
      exact ⟨trivial, fun reply next stepped => stepped.1 ▸ stepped.2 ▸ holds⟩
  simp [genRequestid, draw, Env.requestId]

private theorem lists_msgParseStrInit {post : Option Ref → Option Ref → Prop}
    (refused : post none held) (created : ∀ node, post (some node) (some node)) :
    Lists env (msgParseStrInit env.requestId) post held := by
  rw [msgParseStrInit, lists_bind]
  refine lists_of_passive (by simp) fun first => ?_
  cases first
  · exact lists_bind.mpr (lists_of_passive (by simp) fun _ => refused)
  · refine lists_bind.mpr (lists_of_passive (by simp) fun second => ?_)
    cases second
    · exact lists_bind.mpr (lists_of_passive (by simp) fun _ => refused)
    · refine ⟨rfl, ?_⟩
      rintro node _ rfl
      exact created node

private theorem lists_addToList {node : Ref} {post : EdgeStatus → Option Ref → Prop}
    (continues : ∀ status held, post status held) :
    Lists env (addToList .requestid node) post (some node) := by
  rw [addToList, lists_bind]
  refine lists_of_passive (by simp) fun allocated => ?_
  cases allocated
  · exact continues _ _
  · exact ⟨rfl, fun _ _ _ => continues _ _⟩

/-- A new entry is listed, or stays unlisted where an allocation fails; nothing is
listed after it. -/
private theorem lists_registered {rest : Ref → Program edge α} {absent : Program edge α}
    (passive : ∀ node, Passive (rest node)) (refused : Passive absent) :
    Lists env (do
      match ← msgParseStrInit env.requestId with
      | none => absent
      | some node =>
        let _ ← addToList .requestid node
        rest node) (fun _ _ => True) held := by
  rw [lists_bind]
  refine lists_msgParseStrInit (lists_of_passive refused fun _ => trivial) fun node => ?_
  exact lists_bind.mpr (lists_addToList fun _ _ => lists_of_passive (passive node) fun _ => trivial)

/-- The frame of a call: nothing is listed after its own entry. -/
theorem lists_withRequest {body : Ref → UInt32 → Program edge EdgeStatus}
    (passive : ∀ node, Passive (body node env.requestId)) :
    Lists env (withRequest body) (fun _ _ => True) held := by
  rw [withRequest, lists_bind, lists_genRequestid]
  refine lists_registered (fun node => .bind (passive node) fun status => ?_) trivial
  simp [removeFromList, Unlisting]

variable {client : Ref}

private theorem lists_loginSync :
    Lists env (edgeSubdevLoginSync config (some client) timeOutMs) (fun _ _ => True) held := by
  refine lists_withRequest fun node => .bind (by simp) fun status => ?_
  rw [issues_ite]
  split
  · simp
  · refine .bind (by simp [addToList, Unlisting]) fun _ => ?_
    refine issues_awaitRetCode unlisting_of_waits ?_ ?_ <;> simp [Unlisting]

private theorem lists_logoutSync :
    Lists env (edgeSubdevLogoutSync config (some client) timeOutMs) (fun _ _ => True) held := by
  rw [edgeSubdevLogoutSync, lists_bind]
  refine lists_of_passive (by simp) fun own => ?_
  split
  · trivial
  · refine lists_withRequest fun node => .bind (by simp) fun status => ?_
    rw [issues_ite]
    split
    · simp
    · refine .bind (by simp [removeFromList, Unlisting]) fun _ => ?_
      refine issues_awaitRetCode unlisting_of_waits ?_ ?_ <;> simp [Unlisting]

private theorem lists_topoRequest {op : TopoOperation}
    {failLog timeoutLog acceptedLog rejectedLog : String} :
    Lists env (withRequest fun node requestId => do
      let status ← topoMsgCommon config (some client) requestId op
      if status ≠ .ok then
        logWrite .error failLog []
        return status
      awaitRetCode config node timeOutMs timeoutLog
        (do
          let own ← readClient client
          logWrite .info acceptedLog [.str own.deviceSn.bytes]
          free .msgParseStrPayload
          return .ok)
        (do
          let own ← readClient client
          logWrite .error rejectedLog [.str own.deviceSn.bytes]
          return .protocolError)) (fun _ _ => True) held := by
  refine lists_withRequest fun node => .bind (by simp) fun status => ?_
  rw [issues_ite]
  split
  · simp
  · refine issues_awaitRetCode unlisting_of_waits ?_ ?_ <;> simp

private theorem lists_getTopo :
    Lists env (edgeGetTopo config timeOutMs) (fun _ _ => True) held := by
  rw [edgeGetTopo, lists_bind, lists_genRequestid]
  refine lists_registered (fun node => .bind (by simp) fun status => ?_) trivial
  rw [issues_ite]
  split
  · simp
  · refine .bind (by simp) fun status => ?_
    rw [issues_ite]
    split
    · simp
    · refine .bind (by simp) fun payload => ?_
      split
      · simp
      · simp [removeFromList, Unlisting]

private theorem lists_dynamicAuth {productSecret : CString} :
    Lists env (edgeSubdevDynamicAuth config (some client) (some productSecret) timeOutMs)
      (fun _ _ => True) held := by
  rw [edgeSubdevDynamicAuth, lists_bind, lists_genRequestid]
  refine lists_registered (fun node => .bind (by simp) fun published => ?_) trivial
  split
  · trivial
  · refine .bind ?_ fun status => by simp [removeFromList, Unlisting]
    rw [dynRegReply, issues_ite]
    split
    · simp
    · refine issues_awaitRetCode unlisting_of_waits ?_ ?_ <;> simp [Unlisting]

private theorem passive_loginAsync : Passive (edgeSubdevLoginAsync config (some client)) := by
  refine .bind (by simp) fun requestId => .bind (by simp) fun status => ?_
  rw [issues_ite]
  split
  · simp
  · simp [addToList, Unlisting]

private theorem passive_logoutAsync : Passive (edgeSubdevLogoutAsync config (some client)) := by
  refine .bind (by simp) fun own => ?_
  split
  · trivial
  · refine .bind (by simp) fun requestId => .bind (by simp) fun status => ?_
    rw [issues_ite]
    split
    · simp
    · simp [removeFromList, Unlisting]

private theorem passive_construct {productSn deviceSn : Option CString}
    {normalMsgHandle rrpcMsgHandle : Option HandlerPtr} :
    Passive (edgeSubdevConstruct productSn deviceSn normalMsgHandle rrpcMsgHandle) := by
  rw [edgeSubdevConstruct.eq_def]
  split
  · simp [Unlisting]
  · trivial

private theorem lists_discard {program : Program edge α}
    (lists : Lists env program (fun _ _ => True) held) :
    Lists env (do let _ ← program) (fun _ _ => True) held := by
  rw [lists_bind]
  exact lists

private theorem lists_requestCall (call : RequestCall) :
    Lists env (call.program config) (fun _ _ => True) held := by
  cases call with
  | dynamicAuth client productSecret timeOutMs =>
    cases client with
    | none => exact lists_discard trivial
    | some client =>
      cases productSecret with
      | none => exact lists_discard trivial
      | some productSecret => exact lists_discard lists_dynamicAuth
  | loginSync client timeOutMs =>
    cases client with
    | none => exact lists_discard trivial
    | some client => exact lists_discard lists_loginSync
  | logoutSync client timeOutMs =>
    cases client with
    | none => exact lists_discard trivial
    | some client => exact lists_discard lists_logoutSync
  | getTopo timeOutMs => exact lists_discard lists_getTopo
  | addTopo client timeOutMs =>
    cases client with
    | none => exact lists_discard trivial
    | some client => exact lists_discard lists_topoRequest
  | deleteTopo client timeOutMs =>
    cases client with
    | none => exact lists_discard trivial
    | some client => exact lists_discard lists_topoRequest

private theorem lists_deviceCall (call : DeviceCall) :
    Lists env (call.program config) (fun _ _ => True) held := by
  have passed {α : Type} {program : Program edge α} (passive : Passive program) :
      Lists env program (fun _ _ => True) held := lists_of_passive passive fun _ => trivial
  cases call with
  | construct => exact lists_discard (passed passive_construct)
  | loginSync => exact lists_discard lists_loginSync
  | logoutSync => exact lists_discard lists_logoutSync
  | loginAsync => exact lists_discard (passed passive_loginAsync)
  | logoutAsync => exact lists_discard (passed passive_logoutAsync)
  | dynamicAuth client productSecret timeOutMs =>
    cases productSecret with
    | none => exact lists_discard trivial
    | some productSecret => exact lists_discard lists_dynamicAuth

/-- Whatever a thread does, an entry it lists is its own, under the id it drew. -/
theorem Process.lists (process : Process) (config : DriverConfig) :
    Lists env (process.program config) (fun _ _ => True) held := by
  cases process with
  | onBroadcastMessage msg =>
    exact lists_of_passive (issues_onBroadcastMessage unlisting_of_reads fun _ _ _ => ⟨trivial, trivial⟩)
      fun _ => trivial
  | onLocalMessage msg =>
    exact lists_of_passive (passive_of_readsOnly readsOnly_onLocalMessage) fun _ => trivial
  | request call => exact lists_requestCall call
  | device call => exact lists_deviceCall call

/-! ## The ids listed -/

def entryId (requests : Registry MsgParse) (node : Ref) : Option UInt32 :=
  (requests.value? node).map MsgParse.requestId

def listedIds (requests : Registry MsgParse) : List (Option UInt32) :=
  requests.entries.map (entryId requests)

/-- No two entries have one id. -/
def DistinctIds (requests : Registry MsgParse) : Prop := (listedIds requests).Nodup

/-- Each entry is the one its id finds, and the one a removal by its id takes. -/
def Unambiguous (requests : Registry MsgParse) : Prop :=
  ∀ node ∈ requests.entries, ∀ entry, requests.value? node = some entry →
    requests.find? (msgParseMatch entry.requestId) = some node ∧
      RemovesOnly node requests (requests.remove (msgParseMatch entry.requestId))

section Ids

variable {requests before after : Registry MsgParse} {node other : Ref} {world next : World}

theorem entryId_sameContent (same : SameContent before after) : entryId after = entryId before := by
  funext node
  rw [entryId, entryId, Registry.value?, Registry.value?, same.cells]

theorem lt_of_entryId {requestId : UInt32} (known : entryId requests node = some requestId) :
    node < requests.size := by
  obtain ⟨entry, found, -⟩ := Option.map_eq_some_iff.mp known
  exact Registry.value?_isSome.mp (by simp [found])

/-- No request changes the id of an entry that exists. -/
theorem handle_entryId {request : Request} {reply : request.Reply}
    (answered : respond env request world = some (reply, next))
    (present : node < world.requests.size) : entryId next.requests node = entryId world.requests node := by
  have change := handle_requests answered
  generalize next.requests = later at change ⊢
  cases change with
  | reads _ same => rw [entryId_sameContent same]
  | creates => rw [entryId, Registry.alloc_value?, if_neg (Nat.ne_of_lt present), entryId]
  | pushes => rw [entryId, Registry.push_value?, entryId]
  | removes => simp [entryId, extractFromList]
  | refuses => rfl
  | writes =>
    rw [entryId, Registry.modify_value?]
    split
    · simp [entryId, Function.comp_def, MsgParse.storeAll]
    · simp [entryId]

/-- The entries after a request that lists none are some of those before, in order. -/
private theorem handle_entries {request : Request} {reply : request.Reply}
    (answered : respond env request world = some (reply, next))
    (noPush : ∀ node, request ≠ .push .requestid node) :
    next.requests.entries.Sublist world.requests.entries := by
  have change := handle_requests answered
  generalize next.requests = later at change ⊢
  cases change with
  | reads _ same => rw [same.entries]
  | creates | refuses => exact List.Sublist.refl _
  | pushes => exact absurd rfl (noPush _)
  | removes =>
    rw [extractFromList, Registry.remove_entries, Registry.touchAll_entries]
    exact List.eraseP_sublist
  | writes => simp

theorem handle_listedIds {request : Request} {reply : request.Reply}
    (answered : respond env request world = some (reply, next))
    (noPush : ∀ node, request ≠ .push .requestid node) :
    (listedIds next.requests).Sublist (listedIds world.requests) := by
  have fewer := handle_entries answered noPush
  have same : next.requests.entries.map (entryId next.requests) =
      next.requests.entries.map (entryId world.requests) := by
    refine List.map_congr_left fun node member => ?_
    exact handle_entryId answered (world.requests.entriesAllocated node (fewer.subset member))
  rw [listedIds, same]
  exact fewer.map _

/-- A listed entry's id comes last. -/
theorem handle_push_listedIds {reply : Unit}
    (answered : respond env (.push .requestid node) world = some (reply, next)) :
    listedIds next.requests = listedIds world.requests ++ [entryId world.requests node] := by
  simp only [respond] at answered
  split at answered <;> cases answered
  rename_i present
  simp [listedIds, Registry.push_entries present, entryId]

theorem DistinctIds.unambiguous (distinct : DistinctIds requests) : Unambiguous requests := by
  intro node member entry found
  have once : requests.entries.count node = 1 :=
    List.count_eq_one_of_mem (List.Nodup.of_map _ distinct) member
  have hit : requests.matching (msgParseMatch entry.requestId) node = true := by
    simp [Registry.matching, found, msgParseMatch]
  have some : (requests.find? (msgParseMatch entry.requestId)).isSome = true :=
    List.find?_isSome.mpr ⟨node, member, hit⟩
  obtain ⟨first, first?⟩ := Option.isSome_iff_exists.mp some
  obtain ⟨other, present, passed⟩ :=
    (Option.any_eq_true ..).mp (Registry.find?_matching first?)
  have same : first = node := by
    apply List.inj_on_of_nodup_map distinct (Registry.find?_mem first?) member
    rw [entryId, entryId, present, found, Option.map_some, Option.map_some, beq_iff_eq.mp passed]
  subst same
  exact ⟨first?, removesOnly_of_find? once first?⟩

end Ids

/-! ## The runs -/

namespace Race

variable {ι : Type} (race : Race ι)

/-- An entry is listed only when no entry has its id, the one drawn by the thread. -/
def ListsNew (pool : Pool edge World ι) (event : Event edge ι Empty) : Prop :=
  ∀ thread node, event = .request thread (.push .requestid node) () →
    some (race.envs thread).requestId ∉ listedIds pool.shared.requests

/-- What a thread has created and not listed has the id the thread drew. -/
def HoldsOwn (_ : Raced ι) (held : ι → Option Ref) (world : World) : Prop :=
  ∀ thread node, held thread = some node →
    entryId world.requests node = some (race.envs thread).requestId

variable {race} {history : Raced ι} {pool next : Pool edge World ι} {event : Event edge ι Empty}
  [DecidableEq ι]

private theorem holdsOwn_request {thread : ι} {held : ι → Option Ref} {request : Request}
    {reply : request.Reply} {world after : World} (own : race.HoldsOwn history held world)
    (allowed : (listingProtocol (race.envs thread)).allowed (held thread) request)
    (answered : respond (race.envs thread) request world = some (reply, after)) :
    ∃ next, (listingProtocol (race.envs thread)).step (held thread) request reply next ∧
      race.HoldsOwn history (Function.update held thread next) after := by
  have kept : race.HoldsOwn history held after := by
    intro other node holds
    have known := own other node holds
    rw [handle_entryId answered (lt_of_entryId known), known]
  cases request
  case newMsgParse requestId =>
    have drawn : requestId = (race.envs thread).requestId := allowed
    refine ⟨some reply, rfl, fun other node holds => ?_⟩
    by_cases same : other = thread
    · subst same
      rw [Function.update_self] at holds
      cases holds
      cases answered
      rw [entryId, Registry.alloc_value?, if_pos rfl, drawn, Option.map_some]
    · rw [Function.update_of_ne same] at holds
      exact kept other node holds
  case push list node =>
    cases list
    · refine ⟨none, rfl, fun other listed holds => ?_⟩
      by_cases same : other = thread
      · subst same
        rw [Function.update_self] at holds
        cases holds
      · rw [Function.update_of_ne same] at holds
        exact kept other listed holds
    · exact ⟨held thread, rfl, by rwa [Function.update_eq_self]⟩
  case rand draw =>
    cases answered
    exact ⟨held thread, ⟨rfl, rfl⟩, by rwa [Function.update_eq_self]⟩
  all_goals exact ⟨held thread, rfl, by rwa [Function.update_eq_self]⟩

/-- A listed entry is the thread's own, under the id it drew. -/
private theorem push_entryId (run : race.system.Run race.start history pool) {thread : ι} {node : Ref}
    {rest : Unit → Program edge Unit}
    (waiting : pool.threads thread = .call (.push .requestid node) rest) :
    entryId pool.shared.requests node = some (race.envs thread).requestId := by
  have begun : ∀ thread, Meets (listingProtocol (race.envs thread)) (race.start.threads thread)
      (fun _ _ => True) none := fun thread => (race.processes thread).lists race.config
  have kept : ∃ held, race.HoldsOwn history held pool.shared ∧ ∀ thread,
      Meets (listingProtocol (race.envs thread)) (pool.threads thread) (fun _ _ => True) (held thread) := by
    refine System.Run.invariant begun ?_ ?_ ?_ run
    · intro thread node none
      cases none
    · intro _ pool held thread request reply after own allowed answered
      exact holdsOwn_request own allowed (respond_of_handle answered)
    · intro _ _ _ event
      exact event.elim
  obtain ⟨held, own, meets⟩ := kept
  have protocol := meets thread
  rw [waiting] at protocol
  exact own thread node protocol.1

private theorem step_distinct_iff (run : race.system.Run race.start history pool)
    (step : race.system.Step pool event next) (distinct : DistinctIds pool.shared.requests) :
    DistinctIds next.shared.requests ↔ race.ListsNew pool event := by
  cases step with
  | @outside event shared taken => exact event.elim
  | @request thread request rest reply after waiting answered =>
    by_cases lists : ∃ node, request = .push .requestid node
    · obtain ⟨node, rfl⟩ := lists
      have drawn := push_entryId run waiting
      have pushed : respond (race.envs thread) (.push .requestid node) pool.shared = some (reply, after) :=
        answered
      rw [DistinctIds, handle_push_listedIds pushed, drawn, ← List.concat_eq_append,
        List.nodup_concat]
      constructor
      · rintro ⟨fresh, -⟩ other _ same
        cases same
        exact fresh
      · exact fun fresh => ⟨fresh thread node rfl, distinct⟩
    · have fewer := handle_listedIds (respond_of_handle answered) fun node same => lists ⟨node, same⟩
      refine ⟨fun _ other node same => ?_, fun _ => distinct.sublist fewer⟩
      cases same
      exact absurd ⟨node, rfl⟩ lists

/-- The ids are distinct in every state of a run. -/
def KeepsDistinct (history : Raced ι) (pool : Pool edge World ι) : Prop :=
  (∀ step ∈ history, DistinctIds step.1.shared.requests) ∧ DistinctIds pool.shared.requests

private theorem keepsDistinct_iff (begins : DistinctIds race.world.requests)
    (run : race.system.Run race.start history pool) :
    KeepsDistinct history pool ↔ ∀ step ∈ history, race.ListsNew step.1 step.2 := by
  induction run with
  | start =>
    constructor
    · intro _ step member
      cases member
    · exact fun _ => ⟨fun step member => (by cases member), begins⟩
  | @step history pool next event run step ih =>
    constructor
    · rintro ⟨earlier, last⟩ taken member
      have before : DistinctIds pool.shared.requests := earlier (pool, event) (by simp)
      rcases List.mem_append.mp member with old | new
      · exact ih.mp ⟨fun step inside => earlier step (by simp [inside]), before⟩ taken old
      · rw [List.mem_singleton.mp new]
        exact (step_distinct_iff run step before).mp last
    · intro fresh
      obtain ⟨earlier, before⟩ := ih.mpr fun step inside => fresh step (by simp [inside])
      refine ⟨fun taken member => ?_, (step_distinct_iff run step before).mpr (fresh (pool, event) (by simp))⟩
      rcases List.mem_append.mp member with old | new
      · exact earlier taken old
      · rw [List.mem_singleton.mp new]
        exact before

end Race

/-- In a run from distinct ids the ids are distinct in every state reached exactly when
each entry is listed under an id that is new at that moment, and where they are, a
search by an entry's id and a removal by it take that entry. -/
theorem requestIds_distinct_iff {ι : Type} [DecidableEq ι] (race : Race ι) (history : Raced ι)
    (pool : Pool edge World ι) (begins : DistinctIds race.world.requests)
    (run : race.system.Run race.start history pool) :
    (Race.KeepsDistinct history pool ↔ ∀ step ∈ history, race.ListsNew step.1 step.2) ∧
      (Race.KeepsDistinct history pool → Unambiguous pool.shared.requests ∧
        ∀ step ∈ history, Unambiguous step.1.shared.requests) := by
  refine ⟨Race.keepsDistinct_iff begins run, fun distinct => ⟨distinct.2.unambiguous, ?_⟩⟩
  exact fun step member => (distinct.1 step member).unambiguous

/-- Two calls that ask for the topology. -/
private def twoTopos (envs : Bool → Env) : Race Bool where
  config := .plain
  processes _ := .request (.getTopo 1000)
  envs := envs
  world := .initial

/-- Each call draws, and lists its entry. -/
private def untilListed : List (System.Choice Bool Empty) :=
  List.replicate 7 (.thread false) ++ List.replicate 7 (.thread true)

/-- The second call draws another id. -/
private def drawsApart (thread : Bool) : Env :=
  { Env.calm with rand := fun _ => ⟨if thread then 1 else 0, by cases thread <;> decide⟩ }

private instance : DecidablePred DistinctIds := fun requests =>
  inferInstanceAs (Decidable (listedIds requests).Nodup)

theorem requestIds_distinct_iff_apart : ∃ (history : Raced Bool) (pool : Pool edge World Bool),
    (∀ step ∈ history, (twoTopos drawsApart).ListsNew step.1 step.2) ∧
      listedIds pool.shared.requests = [some 0, some 65537] ∧ Unambiguous pool.shared.requests := by
  have outcome : (((twoTopos drawsApart).system.follow (twoTopos drawsApart).start untilListed).map
      fun result => (result.1.all fun step => decide (DistinctIds step.1.shared.requests),
        listedIds result.2.shared.requests)) = some (true, [some 0, some 65537]) := by decide +kernel
  obtain ⟨⟨history, pool⟩, followed, same⟩ := Option.map_eq_some_iff.mp outcome
  obtain ⟨earlier, listed⟩ := Prod.mk.inj same
  have last : DistinctIds pool.shared.requests := by
    rw [DistinctIds, listed]
    decide
  have keeps : Race.KeepsDistinct history pool :=
    ⟨fun step member => by simpa using List.all_eq_true.mp earlier step member, last⟩
  have settled := requestIds_distinct_iff (twoTopos drawsApart) history pool List.nodup_nil
    (System.run_of_follow followed)
  exact ⟨history, pool, settled.1.mp keeps, listed, (settled.2 keeps).1⟩

/-- The two calls draw alike, and the list has one id twice: a reply finds the first
entry only. -/
theorem requestIds_collide : ¬ ∀ (race : Race Bool) (history : Raced Bool) (pool : Pool edge World Bool),
    race.world = .initial → race.system.Run race.start history pool →
      DistinctIds pool.shared.requests := by
  intro always
  have outcome : (((twoTopos fun _ => .calm).system.follow (twoTopos fun _ => .calm).start untilListed).map
      fun result => decide (DistinctIds result.2.shared.requests)) = some false := by decide +kernel
  obtain ⟨⟨history, pool⟩, followed, repeated⟩ := Option.map_eq_some_iff.mp outcome
  have distinct := always (twoTopos fun _ => .calm) history pool rfl
    (System.run_of_follow followed)
  exact of_decide_eq_false repeated distinct

end IotstackDriver.Edge
