import IotstackDriver.Edge.Calls
import Mathlib.Logic.Relation

/-! The entries of `requestid_list` across whole calls of the six operations that
wait for a reply. -/

namespace IotstackDriver.Edge

open Libc Support

/-- One call of a request/reply operation. -/
inductive RequestCall where
  | dynamicAuth (client : Option Ref) (productSecret : Option CString) (timeOutMs : UInt32)
  | loginSync (client : Option Ref) (timeOutMs : UInt32)
  | logoutSync (client : Option Ref) (timeOutMs : UInt32)
  | getTopo (timeOutMs : UInt32)
  | addTopo (client : Option Ref) (timeOutMs : UInt32)
  | deleteTopo (client : Option Ref) (timeOutMs : UInt32)

namespace RequestCall

def program (config : DriverConfig) : RequestCall → Program edge Unit
  | dynamicAuth client productSecret timeOutMs => do
    let _ ← edgeSubdevDynamicAuth config client productSecret timeOutMs
  | loginSync client timeOutMs => do let _ ← edgeSubdevLoginSync config client timeOutMs
  | logoutSync client timeOutMs => do let _ ← edgeSubdevLogoutSync config client timeOutMs
  | getTopo timeOutMs => do let _ ← edgeGetTopo config timeOutMs
  | addTopo client timeOutMs => do let _ ← edgeAddTopo config client timeOutMs
  | deleteTopo client timeOutMs => do let _ ← edgeDeleteTopo config client timeOutMs

/-- The call gets past the checks of its arguments, and of the session for a logout. -/
def starts (world : World) : RequestCall → Bool
  | dynamicAuth client productSecret _ => client.isSome && productSecret.isSome
  | loginSync client _ => client.isSome
  | logoutSync client _ =>
    client.any fun client => (world.devices.value? client).any SubdevClient.natsOnline
  | getTopo _ => true
  | addTopo client _ => client.isSome
  | deleteTopo client _ => client.isSome

/-- A registered call comes to its removal step. -/
def reachesRemoval (config : DriverConfig) (env : Env) : RequestCall → Bool
  | dynamicAuth .. => env.allocated Env.dynRegBuffers
  | getTopo _ => env.topoSent && (env.reply?.bind config.cJsonParse).isSome
  | _ => true

/-- The request registry a completed call leaves. -/
def requestsAfter (config : DriverConfig) (env : Env) (world : World) (call : RequestCall) :
    Registry MsgParse :=
  if call.starts world && env.entryAllocated then
    if call.reachesRemoval config env then
      env.unregistered (env.registered world.requests) world.requests.size
    else env.registered world.requests
  else world.requests

end RequestCall

variable {config : DriverConfig} {env : Env} {world final : World}

/-- The shared tail leaves the registry of a call alone when both its ends do. -/
private theorem awaitRetCode_requests {timeOutMs : UInt32} {timeoutLog : String}
    {accepted rejected : Program edge EdgeStatus} {requests : Registry MsgParse}
    (same : world.requests = env.registered requests)
    (keepsAccepted : Ends env False accepted (fun _ final => final.requests = world.requests) world)
    (keepsRejected : Ends env False rejected (fun _ final => final.requests = world.requests) world) :
    Ends env False (awaitRetCode config requests.size timeOutMs timeoutLog accepted rejected)
      (fun _ final => final.requests = world.requests) world := by
  exact awaitRetCode_registered same (fun _ _ _ => rfl) (fun _ => keepsAccepted)
    fun _ _ _ => keepsRejected

/-- A call in the shared frame whose body keeps the registry. -/
private theorem withRequest_requests {body : Ref → UInt32 → Program edge EdgeStatus}
    (keeps : Ends env False (body world.requests.size env.requestId)
      (fun _ final => final.requests = env.registered world.requests)
      ⟨env.registered world.requests, world.devices⟩) :
    Ends env False (withRequest body) (fun _ final => final.requests =
      if env.entryAllocated then
        env.unregistered (env.registered world.requests) world.requests.size
      else world.requests) world := by
  refine withRequest_ends (fun refused => by simp [refused]) fun allocated => ?_
  exact keeps.weaken fun status final same => ⟨same, by simp [allocated]⟩

private theorem loginSync_requests (client : Ref) (timeOutMs : UInt32) :
    Ends env False (edgeSubdevLoginSync config (some client) timeOutMs)
      (fun _ final => final.requests =
        if env.entryAllocated then
          env.unregistered (env.registered world.requests) world.requests.size
        else world.requests) world := by
  apply withRequest_requests
  rw [ends_bind]
  refine logInOut_ends False.elim fun status devices _ _ => ?_
  rw [ends_ite]
  split
  · simp
  · rw [ends_bind]
    refine addToList_connDevice_ends fun _ _ => ?_
    refine awaitRetCode_requests (by rfl) ?_ ?_ <;> simp

private theorem logoutSync_requests (client : Ref) (timeOutMs : UInt32) :
    Ends env False (edgeSubdevLogoutSync config (some client) timeOutMs)
      (fun _ final => final.requests =
        if (RequestCall.logoutSync (some client) timeOutMs).starts world && env.entryAllocated then
          env.unregistered (env.registered world.requests) world.requests.size
        else world.requests) world := by
  simp only [edgeSubdevLogoutSync, ends_bind, ends_readClient]
  refine fun own found => ⟨False.elim, ?_⟩
  cases online : own.natsOnline with
  | false => simp [RequestCall.starts, found, online]
  | true =>
    have starts : (RequestCall.logoutSync (some client) timeOutMs).starts world = true := by
      simp [RequestCall.starts, found, online]
    simp only [starts, Bool.true_and, Bool.true_eq_false, ↓reduceIte]
    apply withRequest_requests
    rw [ends_bind]
    refine logInOut_ends False.elim fun status devices _ _ => ?_
    rw [ends_ite]
    split
    · simp
    · rw [ends_bind]
      refine removeFromList_connDevice_ends fun _ _ _ _ => ⟨False.elim, ?_⟩
      refine awaitRetCode_requests (by rfl) ?_ ?_ <;> simp

private theorem topoRequest_requests {client : Ref} {op : TopoOperation} {timeOutMs : UInt32}
    {failLog timeoutLog acceptedLog rejectedLog : String} :
    Ends env False (withRequest fun node requestId => do
      let status ← topoMsgCommon config (some client) requestId op
      if status ≠ .ok then
        logWrite .error failLog []
        return status
      awaitRetCode config node timeOutMs timeoutLog
        (do
          let own ← readClient client
          logWrite .info acceptedLog [.str own.deviceSn.bytes]
          free .msgParseStrPayload
          return .ok)
        (do
          let own ← readClient client
          logWrite .error rejectedLog [.str own.deviceSn.bytes]
          return .protocolError))
      (fun _ final => final.requests =
        if env.entryAllocated then
          env.unregistered (env.registered world.requests) world.requests.size
        else world.requests) world := by
  apply withRequest_requests
  rw [ends_bind]
  refine topoMsgCommon_ends (fun _ _ => False.elim) fun status devices _ _ => ?_
  rw [ends_ite]
  split
  · simp
  · refine awaitRetCode_requests (by rfl) ?_ ?_ <;> simp

private theorem dynamicAuth_requests (client : Ref) (productSecret : CString)
    (timeOutMs : UInt32) :
    Ends env False (edgeSubdevDynamicAuth config (some client) (some productSecret) timeOutMs)
      (fun _ final => final.requests =
        if env.entryAllocated then
          if env.allocated Env.dynRegBuffers then
            env.unregistered (env.registered world.requests) world.requests.size
          else env.registered world.requests
        else world.requests) world := by
  simp only [edgeSubdevDynamicAuth, ends_bind, genRequestid_ends, msgParseStrInit_ends]
  cases created : env.entryAllocated with
  | false => simp
  | true =>
    simp only [↓reduceIte]
    refine addToList_requestid_ends fun _ => ?_
    change Ends env False _ _ ⟨env.registered world.requests, world.devices⟩
    refine dynRegPublish_ends False.elim (fun refused devices _ => ?_) (fun allocated status devices _ _ => ?_)
    · simp [refused]
    · simp only [allocated, ↓reduceIte, ends_bind]
      have replied : Ends env False (dynRegReply config client world.requests.size status timeOutMs)
          (fun _ final => final.requests = env.registered world.requests)
          ⟨env.registered world.requests, devices⟩ := by
        rw [dynRegReply, ends_ite]
        split
        · simp
        · refine awaitRetCode_requests (by rfl) ?_ ?_ <;> simp
      refine replied.weaken fun _ final same => ?_
      refine removeFromList_requestid_ends (by simp [same, registered_value?]) fun _ => ?_
      simp [same]

private theorem getTopo_requests (timeOutMs : UInt32) :
    Ends env False (edgeGetTopo config timeOutMs)
      (fun _ final => final.requests =
        if env.entryAllocated then
          if (RequestCall.getTopo timeOutMs).reachesRemoval config env then
            env.unregistered (env.registered world.requests) world.requests.size
          else env.registered world.requests
        else world.requests) world := by
  simp only [edgeGetTopo, ends_bind, genRequestid_ends, msgParseStrInit_ends]
  cases created : env.entryAllocated with
  | false => simp
  | true =>
    simp only [↓reduceIte]
    refine addToList_requestid_ends fun _ => ?_
    change Ends env False _ _ ⟨env.registered world.requests, world.devices⟩
    refine topoMsgCommon_ends (fun _ _ => False.elim) fun status devices sent _ => ?_
    rw [ends_ite]
    split
    · rename_i failed
      have unsent : env.topoSent = false := by simpa [failed] using sent
      simp [RequestCall.reachesRemoval, unsent]
    · rename_i fine
      have topoSent : env.topoSent = true := sent.mp (by simpa using fine)
      obtain ⟨entry, found, empty⟩ := registered_quiet env world.requests
      rw [ends_bind]
      apply waitPayloadIsTimeout_ends found empty (registered_live _)
      cases late : env.timedOut with
      | true => simp [RequestCall.reachesRemoval, Env.reply?, late]
      | false =>
        have onTime : ¬ EdgeStatus.ok = EdgeStatus.invalidTimeout := by decide
        simp only [Bool.false_eq_true, ↓reduceIte, onTime, ends_bind, ends_readPayload]
        intro own same
        cases found.symm.trans same
        rw [Registry.touch_of_live (registered_live _), empty]
        cases parsed : config.cJsonParse (env.look .parse []) with
        | none => simp [RequestCall.reachesRemoval, Env.reply?, late, parsed]
        | some document =>
          simp only [ends_bind]
          refine removeFromList_requestid_ends (by simp [registered_value?]) fun _ => ?_
          simp [RequestCall.reachesRemoval, topoSent, Env.reply?, late, parsed]

/-- The registry every completed call leaves, by the outcomes it met. -/
theorem requestCall_requests (call : RequestCall) :
    Ends env False (call.program config)
      (fun _ final => final.requests = call.requestsAfter config env world) world := by
  unfold RequestCall.requestsAfter
  cases call with
  | dynamicAuth client productSecret timeOutMs =>
    rw [RequestCall.program, ends_bind]
    cases client with
    | none => simp [edgeSubdevDynamicAuth, RequestCall.starts]
    | some client =>
      cases productSecret with
      | none => simp [edgeSubdevDynamicAuth, RequestCall.starts]
      | some productSecret => exact dynamicAuth_requests client productSecret timeOutMs
  | loginSync client timeOutMs =>
    rw [RequestCall.program, ends_bind]
    cases client with
    | none => simp [edgeSubdevLoginSync, RequestCall.starts]
    | some client => exact loginSync_requests client timeOutMs
  | logoutSync client timeOutMs =>
    rw [RequestCall.program, ends_bind]
    cases client with
    | none => simp [edgeSubdevLogoutSync, RequestCall.starts]
    | some client => exact logoutSync_requests client timeOutMs
  | getTopo timeOutMs =>
    rw [RequestCall.program, ends_bind]
    exact getTopo_requests timeOutMs
  | addTopo client timeOutMs =>
    rw [RequestCall.program, ends_bind]
    cases client with
    | none => simp [edgeAddTopo, RequestCall.starts]
    | some client => exact topoRequest_requests
  | deleteTopo client timeOutMs =>
    rw [RequestCall.program, ends_bind]
    cases client with
    | none => simp [edgeDeleteTopo, RequestCall.starts]
    | some client => exact topoRequest_requests

/-- No listed request has the id the call is about to draw. -/
def FreshId (env : Env) (requests : Registry MsgParse) : Prop :=
  ∀ ref ∈ requests.entries, ∀ entry, requests.value? ref = some entry →
    entry.requestId ≠ env.requestId

private theorem registered_matching {requests : Registry MsgParse} (fresh : FreshId env requests) :
    ∀ ref ∈ requests.entries,
      ¬ (env.registered requests).matching (msgParseMatch env.requestId) ref = true := by
  intro ref member matched
  have older : ref ≠ requests.size := Nat.ne_of_lt (requests.entriesAllocated ref member)
  rw [Registry.matching, registered_value?_of_ne requests older] at matched
  obtain ⟨entry, found, same⟩ := (Option.any_eq_true ..).mp matched
  exact fresh ref member entry found (beq_iff_eq.mp same).symm

/-- With a fresh id the removal step undoes the registration, listed or not. -/
private theorem unregistered_entries {requests : Registry MsgParse} (fresh : FreshId env requests)
    (allocated : env.malloc (.listIterator .requestid) = true) :
    (env.unregistered (env.registered requests) requests.size).entries = requests.entries := by
  have earlier := registered_matching fresh
  have own : (env.registered requests).matching (msgParseMatch env.requestId) requests.size = true := by
    simp [Registry.matching_of_value? (registered_value? requests), msgParseMatch]
  simp only [Env.unregistered, allocated, ↓reduceIte, extractFromList, Registry.remove_entries,
    Registry.touchAll_entries, Registry.touchAll_matching, registered_entries]
  split
  · rw [List.eraseP_append_right _ earlier, List.eraseP_cons_of_pos own, List.append_nil]
  · exact List.eraseP_of_forall_not earlier

private theorem registered_ne (listed : env.malloc (.listNode .requestid) = true)
    (requests : Registry MsgParse) : (env.registered requests).entries ≠ requests.entries := by
  rw [registered_entries, if_pos listed]
  intro same
  simpa using congrArg List.length same

/-- The call lists an entry for itself. -/
def RequestCall.lists (env : Env) (world : World) (call : RequestCall) : Bool :=
  call.starts world && env.entryAllocated && env.malloc (.listNode .requestid)

/-- A call that lists an entry comes to its removal step, and the search gets its iterator. -/
def RequestCall.cleansUp (config : DriverConfig) (env : Env) (world : World) (call : RequestCall) :
    Bool :=
  !call.lists env world ||
    (call.reachesRemoval config env && env.malloc (.listIterator .requestid))

private theorem requestsAfter_entries_iff (call : RequestCall)
    (fresh : FreshId env world.requests) :
    (call.requestsAfter config env world).entries = world.requests.entries ↔
      call.cleansUp config env world = true := by
  unfold RequestCall.requestsAfter RequestCall.cleansUp RequestCall.lists
  cases started : call.starts world && env.entryAllocated with
  | false => simp
  | true =>
    cases reached : call.reachesRemoval config env with
    | false =>
      cases listed : env.malloc (.listNode .requestid) with
      | false => simp [registered_entries, listed]
      | true => simpa using registered_ne listed world.requests
    | true =>
      cases allocated : env.malloc (.listIterator .requestid) with
      | true => simpa using unregistered_entries fresh allocated
      | false =>
        have kept : env.unregistered (env.registered world.requests) world.requests.size =
            env.registered world.requests := by simp [Env.unregistered, allocated]
        cases listed : env.malloc (.listNode .requestid) with
        | false => simp [kept, registered_entries, listed]
        | true => simpa [kept] using registered_ne listed world.requests

/-- One completed call that cleans up after itself. -/
def CleanCall (config : DriverConfig) (world final : World) : Prop :=
  ∃ env call, RequestCall.cleansUp config env world call = true ∧
    (call.program config).run (handle env) world = some ((), final)

/-- A completed call with a fresh id leaves `requestid_list` as it was exactly when it
lists no entry or removes it, and a run of such calls leaves the list empty. -/
theorem requestCall_entries_iff (config : DriverConfig) :
    (∀ env world final (call : RequestCall), FreshId env world.requests →
      (call.program config).run (handle env) world = some ((), final) →
      (final.requests.entries = world.requests.entries ↔
        call.cleansUp config env world = true)) ∧
    (∀ world final, world.requests.entries = [] →
      Relation.ReflTransGen (CleanCall config) world final → final.requests.entries = []) := by
  have single : ∀ env world final (call : RequestCall), FreshId env world.requests →
      (call.program config).run (handle env) world = some ((), final) →
      (final.requests.entries = world.requests.entries ↔
        call.cleansUp config env world = true) := by
    intro env world final call fresh ran
    rw [(requestCall_requests call).of_run (run_respond ran)]
    exact requestsAfter_entries_iff call fresh
  refine ⟨single, fun world final empty run => ?_⟩
  induction run with
  | refl => exact empty
  | @tail before after _ last ih =>
    obtain ⟨env, call, clean, ran⟩ := last
    have fresh : FreshId env before.requests := by
      intro ref member
      rw [ih] at member
      exact absurd member List.not_mem_nil
    rw [(single env before after call fresh ran).mpr clean, ih]

private theorem initial_fresh : FreshId env World.initial.requests :=
  fun _ member => absurd member List.not_mem_nil

/-- A `TOPO_GET` that times out leaves its entry listed. -/
private theorem getTopo_timeout :
    (((RequestCall.getTopo 1000).program .plain).run (handle .calm) .initial).map
      (fun result => result.2.requests.entries) = some [0] := by
  decide +kernel

theorem requestCall_entries_iff_getTopo : ∃ final,
    ((RequestCall.getTopo 1000).program .plain).run (handle .calm) .initial = some ((), final) ∧
      (final.requests.entries = World.initial.requests.entries ↔
        (RequestCall.getTopo 1000).cleansUp .plain .calm .initial = true) := by
  obtain ⟨⟨_, final⟩, ran, _⟩ := Option.map_eq_some_iff.mp getTopo_timeout
  exact ⟨final, ran, (requestCall_entries_iff .plain).1 .calm .initial final (.getTopo 1000)
    initial_fresh ran⟩

theorem edgeGetTopo_timeout_leavesEntry :
    ¬ ∀ config env world final (call : RequestCall), FreshId env world.requests →
      (call.program config).run (handle env) world = some ((), final) →
      final.requests.entries = world.requests.entries := by
  intro restores
  obtain ⟨⟨_, final⟩, ran, left⟩ := Option.map_eq_some_iff.mp getTopo_timeout
  have same := restores .plain .calm .initial final (.getTopo 1000) initial_fresh ran
  exact absurd (left.symm.trans same) (by decide)

end IotstackDriver.Edge
