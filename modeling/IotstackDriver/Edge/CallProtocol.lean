import IotstackDriver.Edge.Calls
import IotstackDriver.Edge.RequestCleanup

/-! The order of the steps a request/reply operation takes on its own entry. It holds
whatever the other threads make of the shared state in the meantime. -/

namespace IotstackDriver.Edge

open Libc Support

/-- How far an operation is with its entry. -/
inductive CallPhase where
  | unregistered
  | created (node : Ref)
  | listed (node : Ref)
  | removed (node : Ref)

/-- An operation creates one entry under its own id, lists it, publishes and reads
only then, and reads no more once it has removed it. -/
def callProtocol (env : Env) : Program.Protocol edge CallPhase where
  allowed phase
    | .newMsgParse requestId => phase = .unregistered ∧ requestId = env.requestId
    | .push .requestid node => phase = .created node
    | .publishString _ _ => ∃ node, phase = .listed node
    | .readPayload node _ => phase = .listed node
    | .remove .requestid node => phase = .listed node
    | .writePayload _ _ => False
    | _ => True
  step phase
    | .malloc site, reply, next => reply = env.malloc site ∧ next = phase
    | .rand draw, reply, next => reply = env.rand draw ∧ next = phase
    | .newMsgParse _, reply, next => next = .created reply
    | .push .requestid node, _, next => next = .listed node
    | .remove .requestid node, _, next => next = .removed node
    | _, _, next => next = phase

def Follows (env : Env) (program : Program edge α) (post : α → CallPhase → Prop)
    (phase : CallPhase) : Prop :=
  Program.Meets (callProtocol env) program post phase

variable {env : Env} {phase : CallPhase}

@[simp] theorem follows_pure {value : α} {post : α → CallPhase → Prop} :
    Follows env (pure value) post phase ↔ post value phase := Iff.rfl

@[simp] theorem follows_bind {program : Program edge α} {next : α → Program edge β}
    {post : β → CallPhase → Prop} : Follows env (program >>= next) post phase ↔
      Follows env program (fun value phase => Follows env (next value) post phase) phase :=
  Program.meets_bind ..

@[simp] theorem follows_ite {condition : Prop} [Decidable condition] {left right : Program edge α}
    {post : α → CallPhase → Prop} : Follows env (if condition then left else right) post phase ↔
      if condition then Follows env left post phase else Follows env right post phase := by
  split <;> rfl

section Requests

private theorem follows_request {request : Request} {post : request.Reply → CallPhase → Prop} :
    Follows env (.call request .done) post phase ↔ (callProtocol env).allowed phase request ∧
      ∀ reply next, (callProtocol env).step phase request reply next → post reply next := Iff.rfl

@[simp] theorem follows_malloc {site : AllocSite} {post : Bool → CallPhase → Prop} :
    Follows env (malloc site) post phase ↔ post (env.malloc site) phase :=
  follows_request.trans (by simp [callProtocol])

@[simp] theorem follows_rand {draw : Draw} {post : Fin randBound → CallPhase → Prop} :
    Follows env (rand draw) post phase ↔ post (env.rand draw) phase :=
  follows_request.trans (by simp [callProtocol])

@[simp] theorem follows_publishString {subject text : Bytes} {post : EdgeStatus → CallPhase → Prop} :
    Follows env (publishString subject text) post phase ↔
      (∃ node, phase = .listed node) ∧ ∀ status, post status phase :=
  follows_request.trans (by simp [callProtocol])

@[simp] theorem follows_flush {post : EdgeStatus → CallPhase → Prop} :
    Follows env flush post phase ↔ ∀ status, post status phase :=
  Program.meets_quiet trivial fun _ _ => Iff.rfl

@[simp] theorem follows_sleep {ms : UInt32} {post : Unit → CallPhase → Prop} :
    Follows env (sleep ms) post phase ↔ post () phase :=
  Program.meets_silent trivial (fun _ _ => Iff.rfl) fun _ => rfl

@[simp] theorem follows_logWrite {level : LogLevel} {format : String} {args : List Arg}
    {post : Unit → CallPhase → Prop} :
    Follows env (logWrite level format args) post phase ↔ post () phase :=
  Program.meets_silent trivial (fun _ _ => Iff.rfl) fun _ => rfl

@[simp] theorem follows_free {resource : Resource} {post : Unit → CallPhase → Prop} :
    Follows env (free resource) post phase ↔ post () phase :=
  Program.meets_silent trivial (fun _ _ => Iff.rfl) fun _ => rfl

@[simp] theorem follows_fault {post : α → CallPhase → Prop} : Follows env fault post phase :=
  ⟨trivial, fun reply => reply.elim⟩

@[simp] theorem follows_newMsgParse {requestId : UInt32} {post : Ref → CallPhase → Prop} :
    Follows env (newMsgParse requestId) post phase ↔
      (phase = .unregistered ∧ requestId = env.requestId) ∧ ∀ node, post node (.created node) :=
  follows_request.trans (by simp [callProtocol])

@[simp] theorem follows_push_requestid {node : Ref} {post : Unit → CallPhase → Prop} :
    Follows env (push .requestid node) post phase ↔
      phase = .created node ∧ post () (.listed node) := by
  refine follows_request.trans (and_congr_right fun _ => ?_)
  constructor
  · exact fun continues => continues () _ rfl
  · rintro continues ⟨⟩ next rfl
    exact continues

@[simp] theorem follows_push_connDevice {client : Ref} {post : Unit → CallPhase → Prop} :
    Follows env (push .connDevice client) post phase ↔ post () phase :=
  Program.meets_silent trivial (fun _ _ => Iff.rfl) fun _ => rfl

@[simp] theorem follows_remove_requestid {node : Ref} {post : Bool → CallPhase → Prop} :
    Follows env (remove .requestid node) post phase ↔
      phase = .listed node ∧ ∀ found, post found (.removed node) :=
  follows_request.trans (by simp [callProtocol])

@[simp] theorem follows_remove_connDevice {client : Ref} {post : Bool → CallPhase → Prop} :
    Follows env (remove .connDevice client) post phase ↔ ∀ found, post found phase :=
  Program.meets_quiet trivial fun _ _ => Iff.rfl

@[simp] theorem follows_readPayload {node : Ref} {look : Look} {post : Bytes → CallPhase → Prop} :
    Follows env (readPayload node look) post phase ↔
      phase = .listed node ∧ ∀ payload, post payload phase :=
  follows_request.trans (by simp [callProtocol])

@[simp] theorem follows_readClient {client : Ref} {post : SubdevClient → CallPhase → Prop} :
    Follows env (readClient client) post phase ↔ ∀ own, post own phase :=
  Program.meets_quiet trivial fun _ _ => Iff.rfl

@[simp] theorem follows_setOnline {client : Ref} {online : Bool} {post : Unit → CallPhase → Prop} :
    Follows env (setOnline client online) post phase ↔ post () phase :=
  Program.meets_silent trivial (fun _ _ => Iff.rfl) fun _ => rfl

end Requests

/-! ## The shared procedures -/

variable {config : DriverConfig} {node : Ref} {post : EdgeStatus → CallPhase → Prop}

theorem follows_genRequestid {post : UInt32 → CallPhase → Prop} :
    Follows env genRequestid post phase ↔ post env.requestId phase := by
  simp [genRequestid, Env.requestId]

theorem follows_base64Text {data : Memory} {dataLen : Int} {post : Bytes → CallPhase → Prop}
    (continues : ∀ text, post text phase) :
    Follows env (base64Text config data dataLen) post phase := by
  rw [base64Text]
  split
  · exact continues _
  · exact follows_fault

theorem follows_publishAndFlush {subj str : Bytes} (continues : ∀ status, post status (.listed node)) :
    Follows env (publishAndFlush subj str) post (.listed node) := by
  simp [publishAndFlush, continues]

theorem follows_logInOut {client : Ref} {logOp : SubdevLogInOut} {requestId : UInt32}
    (allocates : ∀ site, env.malloc site = true) (continues : ∀ status, post status (.listed node)) :
    Follows env (logInOut config client logOp requestId) post (.listed node) := by
  simp only [logInOut, follows_bind, follows_malloc, allocates, Bool.not_true, Bool.false_eq_true,
    ↓reduceIte, follows_readClient, follows_logWrite]
  intro own
  refine follows_base64Text fun text own => follows_publishAndFlush fun status => ?_
  by_cases refused : status = .ok <;> simp [refused, continues]

theorem follows_topoMsg {client : Option Ref} {requestId : UInt32} {op : TopoOperation}
    {post : Bytes → CallPhase → Prop} (continues : ∀ text, post text phase) :
    Follows env (topoMsg config client requestId op) post phase := by
  rw [topoMsg.eq_def]
  split
  · simp only [follows_bind, follows_logWrite]
    exact follows_base64Text fun text => continues _
  · exact follows_fault
  · simp only [follows_bind, follows_logWrite, follows_readClient]
    exact fun own => follows_base64Text fun text own => continues _

theorem follows_topoMsgCommon {client : Option Ref} {requestId : UInt32} {op : TopoOperation}
    (allocates : ∀ site, env.malloc site = true) (continues : ∀ status, post status (.listed node)) :
    Follows env (topoMsgCommon config client requestId op) post (.listed node) := by
  simp only [topoMsgCommon, follows_bind, follows_malloc, allocates, Bool.not_true,
    Bool.false_eq_true, ↓reduceIte]
  refine follows_topoMsg fun text => follows_publishAndFlush fun status => ?_
  by_cases refused : status = .ok <;> simp [refused, continues]

theorem follows_dynRegPublish {client : Ref} {productSecret : CString} {requestId : UInt32}
    {post : Option EdgeStatus → CallPhase → Prop} (allocates : ∀ site, env.malloc site = true)
    (continues : ∀ status, post (some status) (.listed node)) :
    Follows env (dynRegPublish config client productSecret requestId) post (.listed node) := by
  simp only [dynRegPublish, follows_bind, follows_malloc, allocates, Bool.not_true,
    Bool.false_eq_true, ↓reduceIte, follows_readClient, follows_logWrite]
  intro own
  refine follows_base64Text fun text own => follows_publishAndFlush fun status => ?_
  exact continues status

private theorem follows_pollPayload {timeOutMs : UInt32} {post : Nat → CallPhase → Prop}
    (rounds : Nat) (continues : ∀ left, post left (.listed node)) :
    Follows env (pollPayload node timeOutMs rounds) post (.listed node) := by
  induction rounds with
  | zero => exact continues 0
  | succ rounds ih =>
    simp only [pollPayload, follows_bind, follows_readPayload, true_and]
    intro payload
    split
    · simpa using ih
    · exact continues _

theorem follows_waitPayloadIsTimeout {timeOutMs : UInt32}
    (continues : ∀ status, post status (.listed node)) :
    Follows env (waitPayloadIsTimeout node timeOutMs) post (.listed node) := by
  rw [waitPayloadIsTimeout, follows_bind]
  refine follows_pollPayload 10 fun left => ?_
  by_cases last : left = 0
  · simp only [last, ↓reduceIte, follows_bind, follows_readPayload, true_and]
    intro payload
    split <;> exact continues _
  · simpa [last] using continues .ok

theorem follows_awaitRetCode {timeOutMs : UInt32} {timeoutLog : String}
    {accepted rejected : Program edge EdgeStatus} (continues : ∀ status, post status (.listed node))
    (accepts : Follows env accepted post (.listed node))
    (rejects : Follows env rejected post (.listed node)) :
    Follows env (awaitRetCode config node timeOutMs timeoutLog accepted rejected) post
      (.listed node) := by
  rw [awaitRetCode, follows_bind]
  refine follows_waitPayloadIsTimeout fun status => ?_
  by_cases late : status = .invalidTimeout
  · simpa [late] using continues _
  · simp only [late, ↓reduceIte, follows_bind, follows_readPayload, true_and]
    intro payload
    split
    · simpa using continues .err
    · split
      · exact follows_fault
      · split
        · exact accepts
        · exact rejects

/-- The frame of a call: its body keeps the entry listed. -/
theorem follows_withRequest {body : Ref → UInt32 → Program edge EdgeStatus}
    (allocates : ∀ site, env.malloc site = true)
    (keeps : ∀ node, Follows env (body node env.requestId) (fun _ phase => phase = .listed node)
      (.listed node)) :
    Follows env (withRequest body) (fun _ _ => True) .unregistered := by
  simp only [withRequest, follows_bind, follows_genRequestid, msgParseStrInit, follows_malloc,
    allocates, Bool.not_true, Bool.false_eq_true, ↓reduceIte, follows_newMsgParse, follows_pure,
    addToList, follows_push_requestid, and_self, true_and]
  intro node
  refine (keeps node).weaken fun status phase same => ?_
  subst same
  simp [removeFromList]

/-! ## The operations -/

variable {timeOutMs : UInt32}

private theorem follows_loginSync {client : Ref} (allocates : ∀ site, env.malloc site = true) :
    Follows env (edgeSubdevLoginSync config (some client) timeOutMs) (fun _ _ => True)
      .unregistered := by
  refine follows_withRequest allocates fun node => ?_
  rw [follows_bind]
  refine follows_logInOut allocates fun status => ?_
  by_cases refused : status = .ok
  · simp only [refused, ne_eq, not_true_eq_false, ↓reduceIte, follows_bind, addToList,
      follows_malloc, allocates, Bool.not_true, Bool.false_eq_true, follows_push_connDevice,
      follows_pure]
    refine follows_awaitRetCode (fun _ => rfl) ?_ ?_ <;> simp
  · simp [refused]

private theorem follows_logoutSync {client : Ref} (allocates : ∀ site, env.malloc site = true) :
    Follows env (edgeSubdevLogoutSync config (some client) timeOutMs) (fun _ _ => True)
      .unregistered := by
  simp only [edgeSubdevLogoutSync, follows_bind, follows_readClient, follows_ite]
  intro own
  split
  · trivial
  · refine follows_withRequest allocates fun node => ?_
    rw [follows_bind]
    refine follows_logInOut allocates fun status => ?_
    by_cases refused : status = .ok
    · simp only [refused, ne_eq, not_true_eq_false, ↓reduceIte, follows_bind, removeFromList,
        follows_remove_connDevice]
      intro found
      cases found
      all_goals refine follows_awaitRetCode (fun _ => rfl) ?_ ?_ <;> simp
    · simp [refused]

private theorem follows_topoRequest {client : Ref} {op : TopoOperation}
    {failLog timeoutLog acceptedLog rejectedLog : String} (allocates : ∀ site, env.malloc site = true) :
    Follows env (withRequest fun node requestId => do
      let status ← topoMsgCommon config (some client) requestId op
      if status ≠ .ok then
        logWrite .error failLog []
        return status
      awaitRetCode config node timeOutMs timeoutLog
        (do
          let own ← readClient client
          logWrite .info acceptedLog [.str own.deviceSn.bytes]
          free .msgParseStrPayload
          return .ok)
        (do
          let own ← readClient client
          logWrite .error rejectedLog [.str own.deviceSn.bytes]
          return .protocolError)) (fun _ _ => True) .unregistered := by
  refine follows_withRequest allocates fun node => ?_
  rw [follows_bind]
  refine follows_topoMsgCommon allocates fun status => ?_
  by_cases refused : status = .ok
  · simp only [refused, ne_eq, not_true_eq_false, ↓reduceIte]
    refine follows_awaitRetCode (fun _ => rfl) ?_ ?_ <;> simp
  · simp [refused]

private theorem follows_getTopo (allocates : ∀ site, env.malloc site = true) :
    Follows env (edgeGetTopo config timeOutMs) (fun _ _ => True) .unregistered := by
  simp only [edgeGetTopo, follows_bind, follows_genRequestid, msgParseStrInit, follows_malloc,
    allocates, Bool.not_true, Bool.false_eq_true, ↓reduceIte, follows_newMsgParse, follows_pure,
    addToList, follows_push_requestid, and_self, true_and]
  intro node
  refine follows_topoMsgCommon allocates fun status => ?_
  by_cases refused : status = .ok
  · simp only [refused, ne_eq, not_true_eq_false, ↓reduceIte, follows_bind]
    refine follows_waitPayloadIsTimeout fun status => ?_
    by_cases late : status = .invalidTimeout
    · simp [late]
    · simp only [late, ↓reduceIte, follows_bind, follows_readPayload, true_and]
      intro payload
      split <;> simp [removeFromList]
  · simp [refused]

private theorem follows_dynamicAuth {client : Ref} {productSecret : CString}
    (allocates : ∀ site, env.malloc site = true) :
    Follows env (edgeSubdevDynamicAuth config (some client) (some productSecret) timeOutMs)
      (fun _ _ => True) .unregistered := by
  simp only [edgeSubdevDynamicAuth, follows_bind, follows_genRequestid, msgParseStrInit,
    follows_malloc, allocates, Bool.not_true, Bool.false_eq_true, ↓reduceIte, follows_newMsgParse,
    follows_pure, addToList, follows_push_requestid, and_self, true_and]
  intro node
  refine follows_dynRegPublish allocates fun status => ?_
  rw [follows_bind]
  have ends : Follows env (dynRegReply config client node status timeOutMs)
      (fun _ phase => phase = .listed node) (.listed node) := by
    rw [dynRegReply, follows_ite]
    split
    · simp
    · refine follows_awaitRetCode (fun _ => rfl) ?_ ?_ <;> simp
  refine ends.weaken fun status phase same => ?_
  subst same
  simp [removeFromList]

/-- Every operation keeps to the protocol from its first step on. -/
theorem RequestCall.follows (call : RequestCall) (config : DriverConfig)
    (allocates : ∀ site, env.malloc site = true) :
    Follows env (call.program config) (fun _ _ => True) .unregistered := by
  have ended {status : Type} {program : Program edge status}
      (follows : Follows env program (fun _ _ => True) .unregistered) :
      Follows env (do let _ ← program) (fun _ _ => True) .unregistered := by
    rw [follows_bind]
    exact follows
  cases call with
  | dynamicAuth client productSecret timeOutMs =>
    cases client with
    | none => exact ended trivial
    | some client =>
      cases productSecret with
      | none => exact ended trivial
      | some productSecret => exact ended (follows_dynamicAuth allocates)
  | loginSync client timeOutMs =>
    cases client with
    | none => exact ended trivial
    | some client => exact ended (follows_loginSync allocates)
  | logoutSync client timeOutMs =>
    cases client with
    | none => exact ended trivial
    | some client => exact ended (follows_logoutSync allocates)
  | getTopo timeOutMs => exact ended (follows_getTopo allocates)
  | addTopo client timeOutMs =>
    cases client with
    | none => exact ended trivial
    | some client => exact ended (follows_topoRequest allocates)
  | deleteTopo client timeOutMs =>
    cases client with
    | none => exact ended trivial
    | some client => exact ended (follows_topoRequest allocates)

end IotstackDriver.Edge
