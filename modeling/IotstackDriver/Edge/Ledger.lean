import IotstackDriver.Edge.Issued
import IotstackDriver.Edge.RequestCleanup
import IotstackDriver.Support.Simulation

/-! What an operation owes on every path, however its requests turn out: the scratch buffers
it holds, the time it waits and the message it sends. -/

namespace IotstackDriver.Edge

open Libc Support Program

/-- The scratch buffers held, the milliseconds slept, and the messages published and flushed. -/
structure Ledger where
  held : List Buffer
  slept : Nat
  published : Nat
  flushed : Nat

namespace Ledger

def start : Ledger := ⟨[], 0, 0, 0⟩

def acquire (ledger : Ledger) (buffer : Buffer) : Ledger := { ledger with held := buffer :: ledger.held }

def release (ledger : Ledger) (buffer : Buffer) : Ledger :=
  { ledger with held := ledger.held.erase buffer }

def wait (ledger : Ledger) (ms : Nat) : Ledger := { ledger with slept := ledger.slept + ms }

def publish (ledger : Ledger) : Ledger := { ledger with published := ledger.published + 1 }

def flush (ledger : Ledger) : Ledger := { ledger with flushed := ledger.flushed + 1 }

/-- A buffer is allocated while it is not held and freed while it is, the waiting stays within
its limit, one message is published, on one subject and with a terminator inside its buffer,
and it is flushed. No handler is called, no client created, and the state of the gateway is
not set. -/
def Allows (subject : Bytes) (limit : Nat) (ledger : Ledger) : Request → Prop
  | .malloc (.buffer buffer) => buffer ∉ ledger.held
  | .free (.buffer buffer) => buffer ∈ ledger.held
  | .sleep ms => ledger.slept + ms.toNat ≤ limit
  | .publishString target text => target = subject ∧ text.length < natsMsgMaxLen ∧ ledger.published = 0
  | .flush => ledger.flushed < ledger.published
  | .invoke _ | .newSubdevClient _ | .setEdgeState _ => False
  | _ => True

def after (ledger : Ledger) : (request : Request) → request.Reply → Ledger
  | .malloc (.buffer buffer), allocated => if allocated then ledger.acquire buffer else ledger
  | .free (.buffer buffer), _ => ledger.release buffer
  | .sleep ms, _ => ledger.wait ms.toNat
  | .publishString _ _, _ => ledger.publish
  | .flush, _ => ledger.flush
  | _, _ => ledger

end Ledger

def ledgerProtocol (subject : Bytes) (limit : Nat) : Protocol edge Ledger where
  allowed := Ledger.Allows subject limit
  step ledger request reply next := next = ledger.after request reply

variable {subject : Bytes} {limit : Nat} {ledger : Ledger} {config : DriverConfig}

section Steps

private theorem meets_request {request : Request} {post : request.Reply → Ledger → Prop} :
    Meets (ledgerProtocol subject limit) (.call request .done) post ledger ↔
      ledger.Allows subject limit request ∧ ∀ reply, post reply (ledger.after request reply) := by
  refine and_congr_right fun _ => ⟨fun all reply => all reply _ rfl, fun all reply next same => ?_⟩
  rw [show next = ledger.after request reply from same]
  exact all reply

private theorem for_reply {post : Unit → Prop} : (∀ reply, post reply) ↔ post () :=
  ⟨fun all => all (), fun one _ => one⟩

@[simp] theorem owes_buffer {buffer : Buffer} {post : Bool → Ledger → Prop} :
    Meets (ledgerProtocol subject limit) (malloc (.buffer buffer)) post ledger ↔
      buffer ∉ ledger.held ∧ post false ledger ∧ post true (ledger.acquire buffer) := by
  refine meets_request.trans (and_congr_right fun _ => ⟨fun all => ⟨all false, all true⟩, ?_⟩)
  rintro ⟨refused, given⟩ (_ | _)
  · exact refused
  · exact given

@[simp] theorem owes_free {buffer : Buffer} {post : Unit → Ledger → Prop} :
    Meets (ledgerProtocol subject limit) (free (.buffer buffer)) post ledger ↔
      buffer ∈ ledger.held ∧ post () (ledger.release buffer) := by
  exact meets_request.trans (and_congr_right fun _ => for_reply)

@[simp] theorem owes_sleep {ms : UInt32} {post : Unit → Ledger → Prop} :
    Meets (ledgerProtocol subject limit) (sleep ms) post ledger ↔
      ledger.slept + ms.toNat ≤ limit ∧ post () (ledger.wait ms.toNat) := by
  exact meets_request.trans (and_congr_right fun _ => for_reply)

@[simp] theorem owes_publishString {target text : Bytes} {post : EdgeStatus → Ledger → Prop} :
    Meets (ledgerProtocol subject limit) (publishString target text) post ledger ↔
      (target = subject ∧ text.length < natsMsgMaxLen ∧ ledger.published = 0) ∧
        ∀ status, post status ledger.publish := by
  exact meets_request

@[simp] theorem owes_flush {post : EdgeStatus → Ledger → Prop} :
    Meets (ledgerProtocol subject limit) flush post ledger ↔
      ledger.flushed < ledger.published ∧ ∀ status, post status ledger.flush := by
  exact meets_request

@[simp] theorem owes_fault {post : α → Ledger → Prop} :
    Meets (ledgerProtocol subject limit) (fault : Program edge α) post ledger := by
  exact ⟨trivial, fun reply => reply.elim⟩

@[simp] theorem owes_pure {value : α} {post : α → Ledger → Prop} :
    Meets (ledgerProtocol subject limit) (pure value) post ledger ↔ post value ledger := Iff.rfl

@[simp] theorem owes_ite {condition : Prop} [Decidable condition] {left right : Program edge α}
    {post : α → Ledger → Prop} :
    Meets (ledgerProtocol subject limit) (if condition then left else right) post ledger ↔
      if condition then Meets (ledgerProtocol subject limit) left post ledger
      else Meets (ledgerProtocol subject limit) right post ledger := by
  split <;> rfl

/-- A request the ledger has no entry for. -/
def Unbooked : Request → Prop
  | .malloc (.buffer _) | .free (.buffer _) | .sleep _ | .publishString _ _ | .flush | .invoke _
  | .newSubdevClient _ | .setEdgeState _ => False
  | _ => True

theorem meets_unbooked {program : Program edge α} {post : α → Ledger → Prop}
    (unbooked : Issues (I := edge) Unbooked program fun _ => True)
    (continues : ∀ result, post result ledger) :
    Meets (ledgerProtocol subject limit) program post ledger := by
  refine .of_issues unbooked (fun request free => ?_) fun result _ => continues result
  cases request with
  | malloc site =>
    cases site with
    | buffer => cases free
    | _ => exact ⟨trivial, fun _ _ same => same⟩
  | free resource =>
    cases resource with
    | buffer => cases free
    | _ => exact ⟨trivial, fun _ _ same => same⟩
  | sleep | publishString | flush | invoke | newSubdevClient | setEdgeState => cases free
  | _ => exact ⟨trivial, fun _ _ same => same⟩

@[simp] theorem owes_logWrite {level : LogLevel} {format : String} {args : List Arg}
    {post : Unit → Ledger → Prop} :
    Meets (ledgerProtocol subject limit) (logWrite level format args) post ledger ↔ post () ledger := by
  exact meets_silent trivial (fun _ _ => Iff.rfl) fun _ => rfl

@[simp] theorem owes_setOnline {client : Ref} {online : Bool} {post : Unit → Ledger → Prop} :
    Meets (ledgerProtocol subject limit) (setOnline client online) post ledger ↔ post () ledger := by
  exact meets_silent trivial (fun _ _ => Iff.rfl) fun _ => rfl

@[simp] theorem owes_freeDocument {post : Unit → Ledger → Prop} :
    Meets (ledgerProtocol subject limit) (free .msgParseStrPayload) post ledger ↔ post () ledger := by
  exact meets_silent trivial (fun _ _ => Iff.rfl) fun _ => rfl

@[simp] theorem owes_readClient {client : Ref} {post : SubdevClient → Ledger → Prop} :
    Meets (ledgerProtocol subject limit) (readClient client) post ledger ↔ ∀ own, post own ledger := by
  exact meets_quiet trivial fun _ _ => Iff.rfl

@[simp] theorem owes_readPayload {node : Ref} {look : Look} {post : Bytes → Ledger → Prop} :
    Meets (ledgerProtocol subject limit) (readPayload node look) post ledger ↔
      ∀ payload, post payload ledger := by
  exact meets_quiet trivial fun _ _ => Iff.rfl

@[simp] theorem owes_base64Text {data : Memory} {dataLen : Int} {post : Bytes → Ledger → Prop} :
    Meets (ledgerProtocol subject limit) (base64Text config data dataLen) post ledger ↔
      ∀ coded, encodedMsg config (some data) dataLen = some coded → post coded.text ledger := by
  unfold base64Text
  cases encodedMsg config (some data) dataLen <;> simp

end Steps

theorem snprintf_length_lt {format : String} {args : List Arg} :
    (snprintf natsMsgMaxLen format args).length < natsMsgMaxLen := by
  rw [snprintf, List.length_take, natsMsgMaxLen]
  omega

namespace Ledger

/-- One message is out. -/
def sent : Ledger := start.publish.flush

/-- Nothing is held, the waiting stayed within its limit, and what was published was flushed. -/
structure Settled (limit : Nat) (ledger : Ledger) : Prop where
  held : ledger.held = []
  slept : ledger.slept ≤ limit
  published : ledger.published ≤ 1
  flushed : ledger.flushed = ledger.published

theorem settled_start : start.Settled limit := ⟨rfl, Nat.zero_le _, Nat.zero_le _, rfl⟩

theorem settled_sent {ms : Nat} (within : ms ≤ limit) : (sent.wait ms).Settled limit :=
  ⟨rfl, by simpa [wait, sent, start, publish, flush] using within, Nat.le_refl _, rfl⟩

end Ledger

section Shared

variable {client node : Ref} {requestId : UInt32}

theorem logInOut_owes {logOp : SubdevLogInOut} :
    Meets (ledgerProtocol config.edgeRouterSubject limit) (logInOut config client logOp requestId)
      (fun _ after => after = .start ∨ after = .sent) .start := by
  simp [logInOut, publishAndFlush, Ledger.start, Ledger.sent, Ledger.acquire, Ledger.release, Ledger.publish,
    Ledger.flush, snprintf_length_lt]

theorem edgePublish_owes {topic : Option CString} {data : Option Memory} {dataLen : Int} :
    Meets (ledgerProtocol config.edgeRouterSubject limit) (edgePublish config topic data dataLen)
      (fun _ after => after = .start ∨ after = .sent) .start := by
  unfold edgePublish
  split
  · simp [publishAndFlush, Ledger.start, Ledger.sent, Ledger.acquire, Ledger.release, Ledger.publish,
      Ledger.flush, snprintf_length_lt]
  · exact .inl rfl

theorem topoMsg_owes {client : Option Ref} {op : TopoOperation} {post : Bytes → Ledger → Prop}
    (continues : ∀ text, text.length < natsMsgMaxLen → post text ledger) :
    Meets (ledgerProtocol subject limit) (topoMsg config client requestId op) post ledger := by
  unfold topoMsg
  split
  · simp [snprintf_length_lt, continues]
  · simp
  · simp [snprintf_length_lt, continues]

theorem topoMsgCommon_owes {client : Option Ref} {op : TopoOperation} :
    Meets (ledgerProtocol config.edgeRouterSubject limit) (topoMsgCommon config client requestId op)
      (fun _ after => after = .start ∨ after = .sent) .start := by
  simp [topoMsgCommon, publishAndFlush, Ledger.start, Ledger.sent, Ledger.acquire, Ledger.release,
    Ledger.publish, Ledger.flush]
  refine topoMsg_owes fun text short => ?_
  simp [short]

/-- The rounds of the waiting loop, and how long each sleeps. -/
theorem pollPayload_owes {timeOutMs : UInt32} {rounds : Nat}
    (within : ledger.slept + rounds * (timeOutMs / 10).toNat ≤ limit) :
    Meets (ledgerProtocol subject limit) (pollPayload node timeOutMs rounds)
      (fun remaining after => remaining ≤ rounds ∧
        after = ledger.wait ((rounds - remaining) * (timeOutMs / 10).toNat)) ledger := by
  induction rounds generalizing ledger with
  | zero => simp [pollPayload, Ledger.wait]
  | succ rounds ih =>
    rw [pollPayload, meets_bind, owes_readPayload]
    intro payload
    rw [owes_ite]
    split
    · rw [meets_bind, owes_sleep]
      have split : (rounds + 1) * (timeOutMs / 10).toNat =
          (timeOutMs / 10).toNat + rounds * (timeOutMs / 10).toNat := by rw [Nat.succ_mul, Nat.add_comm]
      refine ⟨by omega, (ih (by simp only [Ledger.wait]; omega)).weaken fun remaining after => ?_⟩
      rintro ⟨fewer, rfl⟩
      refine ⟨Nat.le_succ_of_le fewer, ?_⟩
      have more : rounds + 1 - remaining = rounds - remaining + 1 := by omega
      rw [more, Nat.succ_mul]
      simp only [Ledger.wait, Ledger.mk.injEq, true_and, and_true]
      omega
    · rw [owes_pure]
      exact ⟨Nat.le_refl _, by simp [Ledger.wait]⟩

private theorem tenth_le (timeOutMs : UInt32) : 10 * (timeOutMs / 10).toNat ≤ timeOutMs.toNat := by
  rw [UInt32.toNat_div]
  exact Nat.mul_div_le ..

theorem waitPayloadIsTimeout_owes {timeOutMs : UInt32} (rested : ledger.slept = 0) :
    Meets (ledgerProtocol subject timeOutMs.toNat) (waitPayloadIsTimeout node timeOutMs)
      (fun _ after => ∃ ms ≤ timeOutMs.toNat, after = ledger.wait ms) ledger := by
  have enough := tenth_le timeOutMs
  rw [waitPayloadIsTimeout, meets_bind]
  refine (pollPayload_owes (by rwa [rested, Nat.zero_add])).weaken fun remaining after => ?_
  rintro ⟨fewer, rfl⟩
  have within : (10 - remaining) * (timeOutMs / 10).toNat ≤ timeOutMs.toNat :=
    (Nat.mul_le_mul_right _ (Nat.sub_le ..)).trans enough
  have ends {status : EdgeStatus} : Meets (ledgerProtocol subject timeOutMs.toNat) (pure status)
      (fun _ after => ∃ ms ≤ timeOutMs.toNat, after = ledger.wait ms)
      (ledger.wait ((10 - remaining) * (timeOutMs / 10).toNat)) := ⟨_, within, rfl⟩
  rw [owes_ite]
  split
  · rw [meets_bind, owes_readPayload]
    intro payload
    rw [owes_ite]
    split <;> exact ends
  · exact ends

theorem awaitRetCode_owes {timeOutMs : UInt32} {timeoutLog : String}
    {accepted rejected : Program edge EdgeStatus} (rested : ledger.slept = 0)
    (accepts : Issues (I := edge) Unbooked accepted fun _ => True)
    (rejects : Issues (I := edge) Unbooked rejected fun _ => True) :
    Meets (ledgerProtocol subject timeOutMs.toNat)
      (awaitRetCode config node timeOutMs timeoutLog accepted rejected)
      (fun _ after => ∃ ms ≤ timeOutMs.toNat, after = ledger.wait ms) ledger := by
  rw [awaitRetCode, meets_bind]
  refine (waitPayloadIsTimeout_owes rested).weaken fun status after waited => ?_
  rw [owes_ite]
  split
  · simpa using waited
  · rw [meets_bind, owes_readPayload]
    intro payload
    split
    · simpa using waited
    · split
      · exact owes_fault
      · rw [owes_ite]
        split
        · exact meets_unbooked accepts fun _ => waited
        · exact meets_unbooked rejects fun _ => waited

theorem addToList_unbooked {list : RegistryList} : Issues (I := edge) Unbooked (addToList list node)
    fun _ => True := by
  simp [addToList, Unbooked]

theorem removeFromList_unbooked {list : RegistryList} :
    Issues (I := edge) Unbooked (removeFromList list node) fun _ => True := by
  simp [removeFromList, Unbooked]

theorem genRequestid_unbooked : Issues (I := edge) Unbooked genRequestid fun _ => True := by
  simp [genRequestid, Unbooked]

theorem msgParseStrInit_unbooked :
    Issues (I := edge) Unbooked (msgParseStrInit requestId) fun _ => True := by
  simp [msgParseStrInit, Unbooked]

/-- The frame of the operations with one cleanup label owes what its body does. -/
theorem withRequest_owes {body : Ref → UInt32 → Program edge EdgeStatus}
    (owes : ∀ node requestId, Meets (ledgerProtocol subject limit) (body node requestId)
      (fun _ after => after.Settled limit) .start) :
    Meets (ledgerProtocol subject limit) (withRequest body) (fun _ after => after.Settled limit) .start := by
  rw [withRequest, meets_bind]
  refine meets_unbooked genRequestid_unbooked fun requestId => ?_
  rw [meets_bind]
  refine meets_unbooked msgParseStrInit_unbooked fun made => ?_
  cases made with
  | none => exact Ledger.settled_start
  | some node =>
    rw [meets_bind]
    refine meets_unbooked addToList_unbooked fun _ => ?_
    rw [meets_bind]
    refine (owes node requestId).weaken fun status after settled => ?_
    rw [meets_bind]
    exact meets_unbooked removeFromList_unbooked fun _ => settled

end Shared

theorem Ledger.settled_either (either : ledger = .start ∨ ledger = .sent) : ledger.Settled limit := by
  rcases either with rfl | rfl
  · exact settled_start
  · exact settled_sent (Nat.zero_le _)

/-- A message that went out or did not, and what follows it if the publish succeeded. -/
private theorem asked {publish rest : Program edge EdgeStatus} {text : String}
    (publishes : Meets (ledgerProtocol subject limit) publish
      (fun _ after => after = .start ∨ after = .sent) .start)
    (continues : ∀ after, after = .start ∨ after = .sent →
      Meets (ledgerProtocol subject limit) rest (fun _ after => after.Settled limit) after) :
    Meets (ledgerProtocol subject limit) (publish >>= fun status =>
        if status ≠ .ok then do
          logWrite .error text []
          return status
        else rest) (fun _ after => after.Settled limit) .start := by
  rw [meets_bind]
  refine publishes.weaken fun status after either => ?_
  rw [owes_ite]
  split
  · simpa using Ledger.settled_either either
  · exact continues after either

/-- The wait for a reply, from a ledger with no wait in it. -/
private theorem awaited {timeOutMs : UInt32} {program : Program edge α}
    (either : ledger = .start ∨ ledger = .sent)
    (waits : ledger.slept = 0 → Meets (ledgerProtocol subject timeOutMs.toNat) program
      (fun _ after => ∃ ms ≤ timeOutMs.toNat, after = ledger.wait ms) ledger) :
    Meets (ledgerProtocol subject timeOutMs.toNat) program
      (fun _ after => after.Settled timeOutMs.toNat) ledger := by
  have rested : ledger.slept = 0 := by rcases either with rfl | rfl <;> rfl
  refine (waits rested).weaken fun status after => ?_
  rintro ⟨ms, within, rfl⟩
  rcases either with rfl | rfl
  · exact ⟨rfl, by simpa [Ledger.wait, Ledger.start] using within, Nat.zero_le _, rfl⟩
  · exact Ledger.settled_sent within

section Operations

variable {client : Option Ref} {timeOutMs : UInt32}

theorem edgeSubdevLoginSync_owes : Meets (ledgerProtocol config.edgeRouterSubject timeOutMs.toNat)
    (edgeSubdevLoginSync config client timeOutMs) (fun _ after => after.Settled timeOutMs.toNat) .start := by
  unfold edgeSubdevLoginSync
  cases client with
  | none => exact Ledger.settled_start
  | some client =>
    refine withRequest_owes fun node requestId => asked logInOut_owes fun after either => ?_
    rw [meets_bind]
    exact meets_unbooked addToList_unbooked fun _ => awaited either fun rested =>
      awaitRetCode_owes rested (by simp [Unbooked]) (by simp [Unbooked])

theorem edgeSubdevLogoutSync_owes : Meets (ledgerProtocol config.edgeRouterSubject timeOutMs.toNat)
    (edgeSubdevLogoutSync config client timeOutMs) (fun _ after => after.Settled timeOutMs.toNat) .start := by
  unfold edgeSubdevLogoutSync
  cases client with
  | none => exact Ledger.settled_start
  | some client =>
    rw [meets_bind, owes_readClient]
    intro own
    rw [owes_ite]
    split
    · exact Ledger.settled_start
    · refine withRequest_owes fun node requestId => asked logInOut_owes fun after either => ?_
      rw [meets_bind]
      exact meets_unbooked removeFromList_unbooked fun _ => awaited either fun rested =>
        awaitRetCode_owes rested (by simp [Unbooked]) (by simp [Unbooked])

theorem edgeSubdevLoginAsync_owes : Meets (ledgerProtocol config.edgeRouterSubject limit)
    (edgeSubdevLoginAsync config client) (fun _ after => after.Settled limit) .start := by
  unfold edgeSubdevLoginAsync
  cases client with
  | none => exact Ledger.settled_start
  | some client =>
    rw [meets_bind]
    refine meets_unbooked genRequestid_unbooked fun requestId =>
      asked logInOut_owes fun after either => ?_
    simp only [meets_bind, owes_setOnline, owes_readClient, owes_logWrite]
    exact fun own => meets_unbooked addToList_unbooked fun _ => Ledger.settled_either either

theorem edgeSubdevLogoutAsync_owes : Meets (ledgerProtocol config.edgeRouterSubject limit)
    (edgeSubdevLogoutAsync config client) (fun _ after => after.Settled limit) .start := by
  unfold edgeSubdevLogoutAsync
  cases client with
  | none => exact Ledger.settled_start
  | some client =>
    rw [meets_bind, owes_readClient]
    intro own
    rw [owes_ite]
    split
    · exact Ledger.settled_start
    · rw [meets_bind]
      refine meets_unbooked genRequestid_unbooked fun requestId =>
        asked logInOut_owes fun after either => ?_
      simp only [meets_bind, owes_setOnline, owes_readClient, owes_logWrite]
      exact fun own => meets_unbooked removeFromList_unbooked fun _ => Ledger.settled_either either

theorem edgeAddTopo_owes : Meets (ledgerProtocol config.edgeRouterSubject timeOutMs.toNat)
    (edgeAddTopo config client timeOutMs) (fun _ after => after.Settled timeOutMs.toNat) .start := by
  unfold edgeAddTopo
  cases client with
  | none => exact Ledger.settled_start
  | some client =>
    refine withRequest_owes fun node requestId => asked topoMsgCommon_owes fun after either => ?_
    exact awaited either fun rested =>
      awaitRetCode_owes rested (by simp [Unbooked]) (by simp [Unbooked])

theorem edgeDeleteTopo_owes : Meets (ledgerProtocol config.edgeRouterSubject timeOutMs.toNat)
    (edgeDeleteTopo config client timeOutMs) (fun _ after => after.Settled timeOutMs.toNat) .start := by
  unfold edgeDeleteTopo
  cases client with
  | none => exact Ledger.settled_start
  | some client =>
    refine withRequest_owes fun node requestId => asked topoMsgCommon_owes fun after either => ?_
    exact awaited either fun rested =>
      awaitRetCode_owes rested (by simp [Unbooked]) (by simp [Unbooked])

/-- The exits after a failed publish, a timeout and an unreadable reply leave the entry in
`requestid_list`, but nothing else. -/
theorem edgeGetTopo_owes : Meets (ledgerProtocol config.edgeRouterSubject timeOutMs.toNat)
    (edgeGetTopo config timeOutMs) (fun _ after => after.Settled timeOutMs.toNat) .start := by
  rw [edgeGetTopo, meets_bind]
  refine meets_unbooked genRequestid_unbooked fun requestId => ?_
  rw [meets_bind]
  refine meets_unbooked msgParseStrInit_unbooked fun made => ?_
  cases made with
  | none => exact Ledger.settled_start
  | some node =>
    rw [meets_bind]
    refine meets_unbooked addToList_unbooked fun _ => ?_
    rw [meets_bind]
    refine topoMsgCommon_owes.weaken fun status after either => ?_
    rw [owes_ite]
    split
    · simpa using Ledger.settled_either either
    · rw [meets_bind]
      refine (awaited either waitPayloadIsTimeout_owes).weaken fun status after settled => ?_
      rw [owes_ite]
      split
      · simpa using settled
      · rw [meets_bind, owes_readPayload]
        intro payload
        split
        · simpa using settled
        · rw [meets_bind]
          exact meets_unbooked removeFromList_unbooked fun _ => settled

/-- What a registration holds while it waits for the reply. -/
private def Ledger.registering : Ledger :=
  ((Ledger.sent.acquire .dynRegPayload).acquire .dynRegPayloadBase64).acquire .dynRegMsg

/-- The registration request is out and its three buffers are still held, or nothing was done. -/
theorem dynRegPublish_owes {client : Ref} {productSecret : CString} {requestId : UInt32} :
    Meets (ledgerProtocol config.edgeRouterSubject limit)
      (dynRegPublish config client productSecret requestId)
      (fun status after => match status with
        | none => after = .start
        | some _ => after = Ledger.registering) .start := by
  simp [dynRegPublish, publishAndFlush, Ledger.registering, Ledger.start, Ledger.sent, Ledger.acquire,
    Ledger.release, Ledger.publish, Ledger.flush, snprintf_length_lt]

theorem dynRegReply_owes {client node : Ref} {status : EdgeStatus} :
    Meets (ledgerProtocol subject timeOutMs.toNat) (dynRegReply config client node status timeOutMs)
      (fun _ after => ∃ ms ≤ timeOutMs.toNat, after = Ledger.registering.wait ms)
      Ledger.registering := by
  rw [dynRegReply, owes_ite]
  split
  · simp only [meets_bind, owes_logWrite, owes_pure]
    exact ⟨0, Nat.zero_le _, rfl⟩
  · exact awaitRetCode_owes rfl (by simp [Unbooked]) (by simp [Unbooked])

theorem edgeSubdevDynamicAuth_owes {productSecret : Option CString} :
    Meets (ledgerProtocol config.edgeRouterSubject timeOutMs.toNat)
      (edgeSubdevDynamicAuth config client productSecret timeOutMs)
      (fun _ after => after.Settled timeOutMs.toNat) .start := by
  unfold edgeSubdevDynamicAuth
  split
  · rename_i client productSecret
    rw [meets_bind]
    refine meets_unbooked genRequestid_unbooked fun requestId => ?_
    rw [meets_bind]
    refine meets_unbooked msgParseStrInit_unbooked fun made => ?_
    cases made with
    | none => exact Ledger.settled_start
    | some node =>
      rw [meets_bind]
      refine meets_unbooked addToList_unbooked fun _ => ?_
      rw [meets_bind]
      refine dynRegPublish_owes.weaken fun status after published => ?_
      cases status with
      | none =>
        subst published
        exact Ledger.settled_start
      | some status =>
        subst published
        rw [meets_bind]
        refine dynRegReply_owes.weaken fun status after => ?_
        rintro ⟨ms, within, rfl⟩
        rw [meets_bind]
        refine meets_unbooked removeFromList_unbooked fun _ => ?_
        simp [Ledger.registering, Ledger.wait, Ledger.acquire, Ledger.release, Ledger.sent, Ledger.start,
          Ledger.publish, Ledger.flush]
        exact ⟨rfl, within, Nat.le_refl _, rfl⟩
  · exact Ledger.settled_start

end Operations

/-- One call of an operation that has a message for the router. -/
inductive Operation where
  | request (inner : RequestCall)
  | loginAsync (client : Option Ref)
  | logoutAsync (client : Option Ref)
  | publish (topic : Option CString) (data : Option Memory) (dataLen : Int)

namespace Operation

def program (config : DriverConfig) : Operation → Program edge Unit
  | request inner => inner.program config
  | loginAsync client => do let _ ← edgeSubdevLoginAsync config client
  | logoutAsync client => do let _ ← edgeSubdevLogoutAsync config client
  | publish topic data dataLen => do let _ ← edgePublish config topic data dataLen

/-- The time the caller gives the operation. -/
def timeOutMs : Operation → UInt32
  | request (.dynamicAuth _ _ timeOutMs) => timeOutMs
  | request (.loginSync _ timeOutMs) => timeOutMs
  | request (.logoutSync _ timeOutMs) => timeOutMs
  | request (.getTopo timeOutMs) => timeOutMs
  | request (.addTopo _ timeOutMs) => timeOutMs
  | request (.deleteTopo _ timeOutMs) => timeOutMs
  | _ => 0

theorem owes (operation : Operation) :
    Meets (ledgerProtocol config.edgeRouterSubject operation.timeOutMs.toNat) (operation.program config)
      (fun _ after => after.Settled operation.timeOutMs.toNat) .start := by
  have ends {α : Type} {limit : Nat} {program : Program edge α} (settles : Meets
      (ledgerProtocol config.edgeRouterSubject limit) program (fun _ after => after.Settled limit) .start) :
      Meets (ledgerProtocol config.edgeRouterSubject limit) (program >>= fun _ => pure ())
        (fun _ after => after.Settled limit) .start := by
    rw [meets_bind]
    exact settles
  cases operation with
  | request inner =>
    cases inner with
    | dynamicAuth => exact ends edgeSubdevDynamicAuth_owes
    | loginSync => exact ends edgeSubdevLoginSync_owes
    | logoutSync => exact ends edgeSubdevLogoutSync_owes
    | getTopo => exact ends edgeGetTopo_owes
    | addTopo => exact ends edgeAddTopo_owes
    | deleteTopo => exact ends edgeDeleteTopo_owes
  | loginAsync => exact ends edgeSubdevLoginAsync_owes
  | logoutAsync => exact ends edgeSubdevLogoutAsync_owes
  | publish topic data dataLen =>
    exact ends (edgePublish_owes.weaken fun _ _ either => Ledger.settled_either either)

end Operation

section Interleaved

variable {σ ι ε : Type} [DecidableEq ι]

/-- What the steps of a thread come to. -/
def Ledger.ofThread (thread : ι) (history : History edge σ ι ε) : Ledger :=
  System.tally Ledger.after thread .start history

/-- However the threads of a run take turns, and whatever they are told, an operation frees each
buffer it allocated, once and only while it holds it, waits no longer than it was given, and
sends the router at most one message, which it flushes. It calls no handler. -/
theorem operation_settles {system : System edge σ ι ε} {start pool : Pool edge σ ι}
    {history : History edge σ ι ε} {thread : ι} (operation : Operation)
    (begins : start.threads thread = operation.program config) (run : system.Run start history pool) :
    (∀ earlier first request reply later,
      history = earlier ++ (first, .request thread request reply) :: later →
        (Ledger.ofThread thread earlier).Allows config.edgeRouterSubject operation.timeOutMs.toNat
          request) ∧
    (pool.threads thread = .done () →
      (Ledger.ofThread thread history).Settled operation.timeOutMs.toNat) := by
  obtain ⟨allowed, keeps⟩ := run.tallied (begins ▸ @Operation.owes config operation)
  refine ⟨allowed, fun finished => ?_⟩
  rw [finished] at keeps
  exact keeps

/-- A driver that asks for its topology in vain while a message is published. -/
private def askAndPublish : System edge World Bool Empty where
  handler _ := handle .calm
  outside event := event.elim

private def asking : Pool edge World Bool where
  shared := .initial
  threads
    | false => (Operation.publish (some (.literal "t")) (some .zero) 1).program .plain
    | true => (Operation.request (.getTopo 1000)).program .plain

private def isOver : Program edge Unit → Bool
  | .done _ => true
  | .call _ _ => false

/-- A message goes out while a request waits, for all of its second, until it gives up. -/
theorem operation_settles_timeout : ∃ history pool, askAndPublish.Run asking history pool ∧
    (Ledger.ofThread true history).slept = 1000 ∧ (Ledger.ofThread true history).Settled 1000 ∧
    (Ledger.ofThread false history).Settled 0 := by
  have outcome : (askAndPublish.follow asking (List.replicate 10 (.thread true) ++
      List.replicate 8 (.thread false) ++ List.replicate 31 (.thread true))).map (fun result =>
        (isOver (result.2.threads true), isOver (result.2.threads false),
          (Ledger.ofThread true result.1).slept)) = some (true, true, 1000) := by decide +kernel
  obtain ⟨⟨history, pool⟩, followed, same⟩ := Option.map_eq_some_iff.mp outcome
  have run := System.run_of_follow followed
  have finished {thread : Bool} (ends : isOver (pool.threads thread) = true) :
      pool.threads thread = .done () := by
    cases left : pool.threads thread with
    | done value => rfl
    | call request rest => simp [left, isOver] at ends
  simp only [Prod.mk.injEq] at same
  exact ⟨history, pool, run, same.2.2,
    (operation_settles (.request (.getTopo 1000)) rfl run).2 (finished same.1),
    (operation_settles (.publish (some (.literal "t")) (some .zero) 1) rfl run).2 (finished same.2.1)⟩

end Interleaved

end IotstackDriver.Edge
