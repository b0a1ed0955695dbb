import IotstackDriver.Edge.LockedThreads
import IotstackDriver.Edge.Races

/-! The threads of a driver: message callbacks, calls of the operations and status
notifications, each with its locks. -/

namespace IotstackDriver.Edge.Locking

open Libc Support Program

variable {known : RegistryList → Nat} {config : DriverConfig}

/-! ## Programs that remove what they know of -/

/-- A request that takes nothing out of a list. -/
def Spares : Request → Prop
  | .remove _ _ => False
  | _ => True

theorem Sound.of_spares {program : Program edge α}
    (spares : Issues (I := edge) Spares program fun _ => True) : Sound known program := by
  induction program generalizing known with
  | done value => trivial
  | call request rest ih =>
    refine ⟨?_, fun reply next _ => ih reply (spares.2 reply)⟩
    cases request
    case remove => exact spares.1.elim
    all_goals trivial

private theorem spares_of_reads {request : Request} (reads : Reads request) : Spares request := by
  cases request
  case remove list node => cases list <;> [cases reads.1; cases reads.2]
  all_goals trivial

theorem Sound.of_reads {program : Program edge α} (only : ReadsOnly program) : Sound known program :=
  .of_spares (issues_of_readsOnly (fun _ => spares_of_reads) only)

/-- Knowledge only grows. -/
private theorem grows {request : Request} {reply : request.Reply} {next : RegistryList → Nat}
    (stepped : allocProtocol.step known request reply next) (list : RegistryList) :
    known list ≤ next list := by
  cases request
  case newMsgParse | readClient | newSubdevClient =>
    cases stepped
    cases list <;> simp only [Function.update_self, ne_eq, reduceCtorEq, not_false_eq_true,
      Function.update_of_ne] <;> omega
  all_goals cases stepped; exact Nat.le_refl _

theorem Sound.bind {program : Program edge α} {next : α → Program edge β}
    (first : Sound known program) (rest : ∀ value, Sound known (next value)) :
    Sound known (program >>= next) := by
  induction program generalizing known with
  | done value => exact rest value
  | call request more ih =>
    refine ⟨first.1, fun reply after stepped => ih reply (first.2 reply after stepped) fun value => ?_⟩
    exact (rest value).later (grows stepped)

theorem Sound.ite {condition : Prop} [Decidable condition] {left right : Program edge α}
    (holds : Sound known left) (fails : Sound known right) :
    Sound known (if condition then left else right) := by
  split <;> assumption

/-- A client that was read exists. -/
theorem Sound.readClient {client : Ref} {next : SubdevClient → Program edge α}
    (rest : ∀ known own, client < known .connDevice → Sound known (next own)) :
    Sound known (readClient client >>= next) := by
  refine ⟨trivial, fun own after stepped => ?_⟩
  cases stepped
  refine rest _ own ?_
  rw [Function.update_self]
  exact Nat.le_max_right _ (client + 1)

/-- An entry a call created exists. -/
theorem Sound.msgParseStrInit {requestId : UInt32} {next : Option Ref → Program edge α}
    (refused : Sound known (next none))
    (created : ∀ more node, (∀ list, known list ≤ more list) → node < more .requestid →
      Sound more (next (some node))) :
    Sound known (msgParseStrInit requestId >>= next) := by
  refine ⟨trivial, fun first after stepped => ?_⟩
  cases stepped
  cases first with
  | false => exact ⟨trivial, fun _ _ stepped => by cases stepped; exact refused⟩
  | true =>
    refine ⟨trivial, fun second after stepped => ?_⟩
    cases stepped
    cases second with
    | false => exact ⟨trivial, fun _ _ stepped => by cases stepped; exact refused⟩
    | true =>
      refine ⟨trivial, fun node after stepped => created after node (grows stepped) ?_⟩
      cases stepped
      rw [Function.update_self]
      exact Nat.le_max_right _ (node + 1)

theorem Sound.remove {list : RegistryList} {node : Ref} (present : node < known list) :
    Sound known (Edge.removeFromList list node) :=
  ⟨present, fun found after _ => by cases found <;> trivial⟩

theorem Sound.add {list : RegistryList} {node : Ref} : Sound known (Edge.addToList list node) :=
  .of_spares (by simp [Edge.addToList, Spares])

theorem Sound.setOnline {client : Ref} {online : Bool} : Sound known (setOnline client online) :=
  ⟨trivial, fun _ _ _ => trivial⟩

/-! ## The operations -/

variable {node client : Ref} {timeOutMs : UInt32}

theorem Sound.awaitRetCode {timeoutLog : String} {accepted rejected : Program edge EdgeStatus}
    (accepts : Issues (I := edge) Spares accepted fun _ => True)
    (rejects : Issues (I := edge) Spares rejected fun _ => True) :
    Sound known (awaitRetCode config node timeOutMs timeoutLog accepted rejected) :=
  .of_spares (issues_awaitRetCode (fun request waits => by
    cases request
    case remove => cases waits
    all_goals trivial) accepts rejects)

/-- The body may go by what the call knew before its frame. -/
theorem Sound.withRequest {body : Ref → UInt32 → Program edge EdgeStatus}
    (bodies : ∀ node requestId, Sound known (body node requestId)) :
    Sound known (withRequest body) := by
  refine .bind (.of_reads readsOnly_genRequestid) fun requestId => ?_
  refine .msgParseStrInit trivial fun more node grown present => ?_
  refine .bind .add fun _ => .bind ((bodies node requestId).later grown) fun _ => ?_
  exact .bind (.remove present) fun _ => trivial

theorem edgeSubdevDynamicAuth_sound (client : Option Ref) (productSecret : Option CString) :
    Sound known (edgeSubdevDynamicAuth config client productSecret timeOutMs) := by
  cases client with
  | none => trivial
  | some client =>
    cases productSecret with
    | none => trivial
    | some productSecret =>
      refine .bind (.of_reads readsOnly_genRequestid) fun requestId => ?_
      refine .msgParseStrInit trivial fun _ node _ present => ?_
      refine .bind .add fun _ => .bind (.of_reads readsOnly_dynRegPublish) fun published => ?_
      cases published with
      | none => trivial
      | some status =>
        refine .bind ?_ fun _ => .bind (.remove present) fun _ => .of_spares ?_
        · refine .ite (.of_reads (by simp)) (.awaitRetCode ?_ ?_)
          · simp [Spares]
          · simp [Spares]
        · simp [Spares]

theorem edgeSubdevLoginSync_sound (client : Option Ref) :
    Sound known (edgeSubdevLoginSync config client timeOutMs) := by
  cases client with
  | none => trivial
  | some client =>
    refine .withRequest fun node requestId => .bind (.of_reads readsOnly_logInOut) fun status => ?_
    refine .ite (.of_reads (by simp)) (.bind .add fun _ => .awaitRetCode ?_ ?_)
    · simp [Spares]
    · simp [Spares]

theorem edgeSubdevLogoutSync_sound (client : Option Ref) :
    Sound known (edgeSubdevLogoutSync config client timeOutMs) := by
  cases client with
  | none => trivial
  | some client =>
    refine .readClient fun known own present => .ite trivial (.withRequest fun node requestId => ?_)
    refine .bind (.of_reads readsOnly_logInOut) fun status => .ite (.of_reads (by simp)) ?_
    refine .bind (.remove present) fun _ => .awaitRetCode ?_ ?_
    · simp [Spares]
    · simp [Spares]

theorem edgeSubdevLoginAsync_sound (client : Option Ref) :
    Sound known (edgeSubdevLoginAsync config client) := by
  cases client with
  | none => trivial
  | some client =>
    refine .bind (.of_reads readsOnly_genRequestid) fun requestId => ?_
    refine .bind (.of_reads readsOnly_logInOut) fun status => .ite (.of_reads (by simp)) ?_
    refine .bind .setOnline fun _ => .readClient fun known own _ => ?_
    exact .bind (.of_reads (by simp)) fun _ => .add

theorem edgeSubdevLogoutAsync_sound (client : Option Ref) :
    Sound known (edgeSubdevLogoutAsync config client) := by
  cases client with
  | none => trivial
  | some client =>
    refine .readClient fun known own present => .ite trivial ?_
    refine .bind (.of_reads readsOnly_genRequestid) fun requestId => ?_
    refine .bind (.of_reads readsOnly_logInOut) fun status => .ite (.of_reads (by simp)) ?_
    refine .bind .setOnline fun _ => .readClient fun known own present => ?_
    exact .bind (.of_reads (by simp)) fun _ => .remove present

theorem edgeGetTopo_sound : Sound known (edgeGetTopo config timeOutMs) := by
  refine .bind (.of_reads readsOnly_genRequestid) fun requestId => ?_
  refine .msgParseStrInit trivial fun _ node _ present => ?_
  refine .bind .add fun _ => .bind (.of_reads readsOnly_topoMsgCommon) fun status => ?_
  refine .ite (.of_reads (by simp)) (.bind (.of_reads readsOnly_waitPayloadIsTimeout) fun status => ?_)
  refine .ite (.of_reads (by simp)) (.bind (.of_reads (by simp)) fun payload => ?_)
  split
  · exact .of_reads (by simp)
  · exact .bind (.remove present) fun _ => trivial

theorem edgeAddTopo_sound (client : Option Ref) :
    Sound known (edgeAddTopo config client timeOutMs) := by
  cases client with
  | none => trivial
  | some client =>
    refine .withRequest fun node requestId => .bind (.of_reads readsOnly_topoMsgCommon) fun status => ?_
    refine .ite (.of_reads (by simp)) (.awaitRetCode ?_ ?_)
    · simp [Spares]
    · simp [Spares]

theorem edgeDeleteTopo_sound (client : Option Ref) :
    Sound known (edgeDeleteTopo config client timeOutMs) := by
  cases client with
  | none => trivial
  | some client =>
    refine .withRequest fun node requestId => .bind (.of_reads readsOnly_topoMsgCommon) fun status => ?_
    refine .ite (.of_reads (by simp)) (.awaitRetCode ?_ ?_)
    · simp [Spares]
    · simp [Spares]

theorem onEdgeStateMessage_sound {msg : NatsMsg} : Sound known (onEdgeStateMessage config msg) := by
  refine .bind (.of_reads (by simp)) fun _ => ?_
  split
  · exact .of_reads (by simp)
  · split
    · exact .of_reads (by simp)
    · refine .bind (.of_reads (by simp)) fun printable => ?_
      refine .of_spares (.bind ⟨trivial, fun _ => trivial⟩ fun _ => ?_)
      cases printable
      · exact ⟨trivial, nofun⟩
      · exact ⟨trivial, fun _ => ⟨trivial, fun _ => ⟨trivial, fun _ => trivial⟩⟩⟩

theorem edgePublish_readsOnly {topic : Option CString} {data : Option Memory} {dataLen : Int} :
    ReadsOnly (edgePublish config topic data dataLen) := by
  rw [edgePublish.eq_def]
  split <;> simp

theorem natsPublish_readsOnly {subject : CString} {data : Option Memory} {dataLen : Int} :
    ReadsOnly (Edge.natsPublish config subject data dataLen) := by
  rw [Edge.natsPublish.eq_def]
  cases encodedMsg config data dataLen <;> simp

/-! ## The threads of a driver -/

/-- What a thread of the driver does at a time: it handles a message, or it calls an
operation. -/
inductive Duty where
  | handle (process : Process)
  | onEdgeStateMessage (msg : NatsMsg)
  | onNatsMessage (msg : NatsMsg)
  | publish (topic : Option CString) (data : Option Memory) (dataLen : Int)
  | natsPublish (subject : CString) (data : Option Memory) (dataLen : Int)

namespace Duty

def program (config : DriverConfig) : Duty → Program edge Unit
  | handle process => process.program config
  | onEdgeStateMessage msg => Edge.onEdgeStateMessage config msg
  | onNatsMessage msg => Edge.onNatsMessage config msg
  | publish topic data dataLen => do let _ ← edgePublish config topic data dataLen
  | natsPublish subject data dataLen => do let _ ← Edge.natsPublish config subject data dataLen

theorem sound (duty : Duty) : Sound known (duty.program config) := by
  have ends {program : Program edge EdgeStatus} (sound : Sound known program) :
      Sound known (program >>= fun _ => pure ()) := .bind sound fun _ => trivial
  cases duty with
  | handle process =>
    cases process with
    | onBroadcastMessage msg =>
      exact .of_spares (issues_onBroadcastMessage (fun _ => spares_of_reads) fun _ _ _ =>
        ⟨trivial, trivial⟩)
    | onLocalMessage msg => exact .of_reads readsOnly_onLocalMessage
    | request call =>
      cases call with
      | dynamicAuth => exact ends (edgeSubdevDynamicAuth_sound _ _)
      | loginSync => exact ends (edgeSubdevLoginSync_sound _)
      | logoutSync => exact ends (edgeSubdevLogoutSync_sound _)
      | getTopo => exact .bind edgeGetTopo_sound fun _ => trivial
      | addTopo => exact ends (edgeAddTopo_sound _)
      | deleteTopo => exact ends (edgeDeleteTopo_sound _)
    | device call =>
      cases call with
      | construct =>
        refine .bind (.of_spares ?_) fun _ => trivial
        rw [edgeSubdevConstruct.eq_def]
        split <;> simp [Spares]
      | loginSync => exact ends (edgeSubdevLoginSync_sound _)
      | logoutSync => exact ends (edgeSubdevLogoutSync_sound _)
      | loginAsync => exact ends (edgeSubdevLoginAsync_sound _)
      | logoutAsync => exact ends (edgeSubdevLogoutAsync_sound _)
      | dynamicAuth => exact ends (edgeSubdevDynamicAuth_sound _ _)
  | onEdgeStateMessage msg => exact onEdgeStateMessage_sound
  | onNatsMessage msg => exact .of_reads readsOnly_onNatsMessage
  | publish topic data dataLen => exact ends (.of_reads edgePublish_readsOnly)
  | natsPublish subject data dataLen => exact ends (.of_reads natsPublish_readsOnly)

end Duty

end IotstackDriver.Edge.Locking
