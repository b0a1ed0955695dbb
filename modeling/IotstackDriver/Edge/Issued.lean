import IotstackDriver.Edge.Callbacks
import IotstackDriver.Edge.Effects

/-! The requests a program may issue, on any path and whatever the replies are. -/

namespace IotstackDriver.Edge

open Libc Support Program

/-- A request that changes neither list, nor what the objects of its kind hold. -/
def Reads (request : Request) : Prop :=
  request.changes .requestid = false ∧ request.changes .connDevice = false

section Requests

variable {allowed : Request → Prop}

@[simp] theorem issues_malloc {site : AllocSite} {post : Bool → Prop} :
    Issues (I := edge) allowed (malloc site) post ↔
      allowed (.malloc site) ∧ ∀ reply, post reply := Iff.rfl

@[simp] theorem issues_rand {draw : Draw} {post : Fin randBound → Prop} :
    Issues (I := edge) allowed (rand draw) post ↔ allowed (.rand draw) ∧ ∀ reply, post reply := Iff.rfl

@[simp] theorem issues_publishString {subject text : Bytes} {post : EdgeStatus → Prop} :
    Issues (I := edge) allowed (publishString subject text) post ↔
      allowed (.publishString subject text) ∧ ∀ reply, post reply := Iff.rfl

@[simp] theorem issues_flush {post : EdgeStatus → Prop} :
    Issues (I := edge) allowed flush post ↔ allowed .flush ∧ ∀ reply, post reply := Iff.rfl

private theorem forall_unit {post : Unit → Prop} : (∀ reply, post reply) ↔ post () :=
  ⟨fun all => all (), fun one _ => one⟩

@[simp] theorem issues_sleep {ms : UInt32} {post : Unit → Prop} :
    Issues (I := edge) allowed (sleep ms) post ↔ allowed (.sleep ms) ∧ post () :=
  and_congr_right fun _ => forall_unit

@[simp] theorem issues_logWrite {level : LogLevel} {format : String} {args : List Arg}
    {post : Unit → Prop} : Issues (I := edge) allowed (logWrite level format args) post ↔
      allowed (.logWrite level format args) ∧ post () :=
  and_congr_right fun _ => forall_unit

@[simp] theorem issues_newMsgParse {requestId : UInt32} {post : Ref → Prop} :
    Issues (I := edge) allowed (newMsgParse requestId) post ↔
      allowed (.newMsgParse requestId) ∧ ∀ reply, post reply := Iff.rfl

@[simp] theorem issues_newSubdevClient {client : SubdevClient} {post : Ref → Prop} :
    Issues (I := edge) allowed (newSubdevClient client) post ↔
      allowed (.newSubdevClient client) ∧ ∀ reply, post reply := Iff.rfl

@[simp] theorem issues_push {list : RegistryList} {node : Ref} {post : Unit → Prop} :
    Issues (I := edge) allowed (push list node) post ↔ allowed (.push list node) ∧ post () :=
  and_congr_right fun _ => forall_unit

@[simp] theorem issues_findInList {list : RegistryList} {key : list.Key} {post : Option Ref → Prop} :
    Issues (I := edge) allowed (findInList list key) post ↔
      allowed (.find list key) ∧ ∀ reply, post reply := Iff.rfl

@[simp] theorem issues_remove {list : RegistryList} {node : Ref} {post : Bool → Prop} :
    Issues (I := edge) allowed (remove list node) post ↔
      allowed (.remove list node) ∧ ∀ reply, post reply := Iff.rfl

@[simp] theorem issues_readPayload {node : Ref} {look : Look} {post : Bytes → Prop} :
    Issues (I := edge) allowed (readPayload node look) post ↔
      allowed (.readPayload node look) ∧ ∀ reply, post reply := Iff.rfl

@[simp] theorem issues_writePayload {node : Ref} {stores : List (Nat × UInt8)} {post : Unit → Prop} :
    Issues (I := edge) allowed (writePayload node stores) post ↔
      allowed (.writePayload node stores) ∧ post () :=
  and_congr_right fun _ => forall_unit

@[simp] theorem issues_readClient {client : Ref} {post : SubdevClient → Prop} :
    Issues (I := edge) allowed (readClient client) post ↔
      allowed (.readClient client) ∧ ∀ reply, post reply := Iff.rfl

@[simp] theorem issues_setOnline {client : Ref} {online : Bool} {post : Unit → Prop} :
    Issues (I := edge) allowed (setOnline client online) post ↔
      allowed (.setOnline client online) ∧ post () :=
  and_congr_right fun _ => forall_unit

@[simp] theorem issues_invoke {call : HandlerCall} {post : Unit → Prop} :
    Issues (I := edge) allowed (invoke call) post ↔ allowed (.invoke call) ∧ post () :=
  and_congr_right fun _ => forall_unit

@[simp] theorem issues_free {resource : Resource} {post : Unit → Prop} :
    Issues (I := edge) allowed (free resource) post ↔ allowed (.free resource) ∧ post () :=
  and_congr_right fun _ => forall_unit

@[simp] theorem issues_fault {post : α → Prop} :
    Issues (I := edge) allowed (fault : Program edge α) post ↔ allowed .fault :=
  ⟨fun issues => issues.1, fun admitted => ⟨admitted, fun reply => reply.elim⟩⟩

end Requests

/-! ## The shared procedures -/

section Reads

variable {list : RegistryList} {node client : Ref}

@[simp] theorem reads_malloc {site : AllocSite} : Reads (.malloc site) := ⟨rfl, rfl⟩
@[simp] theorem reads_rand {draw : Draw} : Reads (.rand draw) := ⟨rfl, rfl⟩
@[simp] theorem reads_publishString {subject text : Bytes} : Reads (.publishString subject text) :=
  ⟨rfl, rfl⟩
@[simp] theorem reads_flush : Reads .flush := ⟨rfl, rfl⟩
@[simp] theorem reads_sleep {ms : UInt32} : Reads (.sleep ms) := ⟨rfl, rfl⟩
@[simp] theorem reads_logWrite {level : LogLevel} {format : String} {args : List Arg} :
    Reads (.logWrite level format args) := ⟨rfl, rfl⟩
@[simp] theorem reads_find {key : list.Key} : Reads (.find list key) := ⟨rfl, rfl⟩
@[simp] theorem reads_readPayload {look : Look} : Reads (.readPayload node look) := ⟨rfl, rfl⟩
@[simp] theorem reads_readClient : Reads (.readClient client) := ⟨rfl, rfl⟩
@[simp] theorem reads_invoke {call : HandlerCall} : Reads (.invoke call) := ⟨rfl, rfl⟩
@[simp] theorem reads_free {resource : Resource} : Reads (.free resource) := ⟨rfl, rfl⟩
@[simp] theorem reads_fault : Reads .fault := ⟨rfl, rfl⟩

end Reads

/-- The program only reads, whatever it returns. -/
abbrev ReadsOnly (program : Program edge α) : Prop := Issues (I := edge) Reads program fun _ => True

variable {config : DriverConfig} {node client : Ref} {requestId : UInt32}

@[simp] theorem readsOnly_genRequestid : ReadsOnly genRequestid := by
  simp [genRequestid]

@[simp] theorem readsOnly_base64Text {data : Memory} {dataLen : Int} :
    ReadsOnly (base64Text config data dataLen) := by
  unfold base64Text
  split <;> simp

@[simp] theorem readsOnly_publishAndFlush {subj str : Bytes} : ReadsOnly (publishAndFlush subj str) := by
  simp [publishAndFlush]

@[simp] theorem readsOnly_logInOut {logOp : SubdevLogInOut} :
    ReadsOnly (logInOut config client logOp requestId) := by
  simp [logInOut]

@[simp] theorem readsOnly_dynRegPublish {productSecret : CString} :
    ReadsOnly (dynRegPublish config client productSecret requestId) := by
  simp [dynRegPublish]

@[simp] theorem readsOnly_topoMsg {client : Option Ref} {op : TopoOperation} :
    ReadsOnly (topoMsg config client requestId op) := by
  rw [topoMsg.eq_def]
  split <;> simp

@[simp] theorem readsOnly_topoMsgCommon {client : Option Ref} {op : TopoOperation} :
    ReadsOnly (topoMsgCommon config client requestId op) := by
  simp [topoMsgCommon]

/-- What waiting for a reply and reading it takes. -/
def Waits : Request → Prop
  | .readPayload _ _ | .sleep _ | .logWrite _ _ _ | .fault => True
  | _ => False

theorem Waits.reads {request : Request} (waits : Waits request) : Reads request := by
  cases request <;> first | exact ⟨rfl, rfl⟩ | cases waits

theorem issues_waitPayloadIsTimeout {allowed : Request → Prop} {timeOutMs : UInt32}
    (polls : ∀ round, allowed (.readPayload node (.poll round))) (sleeps : ∀ ms, allowed (.sleep ms)) :
    Issues (I := edge) allowed (waitPayloadIsTimeout node timeOutMs) fun _ => True := by
  have rounds (rounds : Nat) :
      Issues (I := edge) allowed (pollPayload node timeOutMs rounds) fun _ => True := by
    induction rounds with
    | zero => trivial
    | succ rounds ih => simp [pollPayload, polls, sleeps, ih]
  rw [waitPayloadIsTimeout]
  exact .bind (rounds 10) fun remaining => by simp [polls]

@[simp] theorem readsOnly_waitPayloadIsTimeout {timeOutMs : UInt32} :
    ReadsOnly (waitPayloadIsTimeout node timeOutMs) :=
  issues_waitPayloadIsTimeout (fun _ => reads_readPayload) fun _ => reads_sleep

/-- A program that only reads issues nothing else. -/
theorem issues_of_readsOnly {allowed : Request → Prop} {program : Program edge α}
    (reads : ∀ request, Reads request → allowed request) (only : ReadsOnly program) :
    Issues (I := edge) allowed program fun _ => True :=
  only.weaken reads fun _ _ => trivial

/-- The shared tail issues what its two ends do, and waits. -/
theorem issues_awaitRetCode {allowed : Request → Prop} {timeOutMs : UInt32} {timeoutLog : String}
    {accepted rejected : Program edge EdgeStatus} (waits : ∀ request, Waits request → allowed request)
    (accepts : Issues (I := edge) allowed accepted fun _ => True)
    (rejects : Issues (I := edge) allowed rejected fun _ => True) :
    Issues (I := edge) allowed (awaitRetCode config node timeOutMs timeoutLog accepted rejected)
      fun _ => True := by
  rw [awaitRetCode]
  refine .bind (issues_waitPayloadIsTimeout (fun _ => waits _ trivial) fun _ => waits _ trivial)
    fun status => ?_
  have logs {level : LogLevel} {format : String} {args : List Arg} :
      allowed (.logWrite level format args) := waits _ trivial
  rw [issues_ite]
  split
  · simp [logs]
  · rw [issues_bind, issues_readPayload]
    refine ⟨waits _ trivial, fun payload => ?_⟩
    split
    · simp [logs]
    · split
      · exact issues_fault.mpr (waits _ trivial)
      · split <;> assumption

/-! ## The callbacks -/

theorem issues_decode {item : CJson} :
    Issues (I := edge) Reads (base64DecodeString config item.valuestring)
      fun coded => decodedItem config item = some coded := by
  rw [decodedItem]
  cases item.valuestring with
  | none => simp [base64DecodeString]
  | some text =>
    rw [base64DecodeString, base64DecodeMsg]
    split
    · rename_i coded decoded
      rw [issues_ite]
      split
      · exact decoded
      · simp
    · simp

theorem readsOnly_decode {item : CJson} :
    ReadsOnly (base64DecodeString config item.valuestring) :=
  issues_decode.weaken (fun _ reads => reads) fun _ _ => trivial

theorem readsOnly_decodeMsg {text : Bytes} {inlen : Int} :
    ReadsOnly (base64DecodeMsg config text inlen) := by
  rw [base64DecodeMsg]
  split
  · rw [ReadsOnly, issues_ite]
    split <;> simp
  · simp

theorem issues_dispatchLocal {allowed : Request → Prop} {topic : Option CString} {payload : Memory}
    {payloadLen : Int} (reads : allowed (.readClient client)) (faults : allowed .fault)
    (invokes : ∀ call, allowed (.invoke call)) :
    Issues (I := edge) allowed (dispatchLocal client topic payload payloadLen) fun _ => True := by
  rw [dispatchLocal.eq_def]
  refine .bind (by simp [reads]) fun own => ?_
  cases own.rrpcMsgHandle with
  | none => cases own.normalMsgHandle <;> simp [invokes]
  | some handler =>
    cases topic with
    | none => simp [faults]
    | some name =>
      by_cases named : edgeRrpcCheck name.bytes = .ok
      · simp [named, invokes]
      · cases own.normalMsgHandle <;> simp [named, invokes]

theorem readsOnly_dispatchLocal {topic : Option CString} {payload : Memory} {payloadLen : Int} :
    ReadsOnly (dispatchLocal client topic payload payloadLen) :=
  issues_dispatchLocal reads_readClient reads_fault fun _ => reads_invoke

theorem readsOnly_onLocalMessage {msg : NatsMsg} : ReadsOnly (onLocalMessage config msg) := by
  refine .bind (by simp) fun _ => ?_
  split
  · simp
  · split
    · simp
    · refine .bind (by simp) fun _ => ?_
      split
      · simp
      · refine .bind (by simp) fun _ => ?_
        split
        · simp
        · refine .bind (by simp) fun _ => .bind (by simp) fun allocated => ?_
          rw [issues_ite]
          split
          · simp
          · refine .bind readsOnly_decode fun coded => .bind (by simp) fun _ => .bind ?_ fun _ => by simp
            refine .bind (by simp) fun found => ?_
            split
            · simp
            · exact readsOnly_dispatchLocal

theorem readsOnly_onNatsMessage {msg : NatsMsg} : ReadsOnly (onNatsMessage config msg) := by
  refine .bind (by simp) fun _ => .bind (by simp) fun allocated => ?_
  rw [issues_ite]
  split
  · simp
  · refine .bind readsOnly_decodeMsg fun coded => .bind (by simp) fun _ => ?_
    cases config.edgeNatsMsgHandle <;> simp

section Broadcast

variable {allowed : Request → Prop}

/-- The two writes that copy a decoded reply may be issued. -/
def CopyAllowed (allowed : Request → Prop) (decoded : Bytes) : Prop :=
  ∀ node, allowed (.writePayload node (consecutive 0 (decoded.take natsMsgMaxLen))) ∧
    allowed (.writePayload node [(decoded.length, 0)])

private theorem issues_storeReply {decoded : Bytes} (reads : ∀ request, Reads request → allowed request)
    (copies : CopyAllowed allowed decoded) :
    Issues (I := edge) allowed (storeReply config decoded) fun _ => True := by
  rw [storeReply.eq_def]
  split
  · simp [reads]
  · split
    · simp [reads]
    · rw [issues_bind, issues_logWrite]
      refine ⟨reads _ reads_logWrite, ?_⟩
      split
      · simp [reads]
      · rw [issues_bind, issues_free]
        refine ⟨reads _ reads_free, .bind (by simp [reads]) fun found => ?_⟩
        split
        · simp [reads]
        · rename_i node
          simp [reads, copies node]

private theorem issues_notice (handler : Option HandlerPtr) (call : HandlerPtr → HandlerCall)
    (reads : ∀ request, Reads request → allowed request) :
    Issues (I := edge) allowed (handler.forM fun handler => invoke (call handler)) fun _ => True := by
  cases handler with
  | none => trivial
  | some handler => exact issues_invoke.mpr ⟨reads _ reads_invoke, trivial⟩

/-- Handling a broadcast changes nothing but the buffer a decoded reply is copied to. -/
theorem issues_onBroadcastMessage {msg : NatsMsg} (reads : ∀ request, Reads request → allowed request)
    (copies : ∀ coded, broadcastDecoded config msg = some coded → CopyAllowed allowed coded.text) :
    Issues (I := edge) allowed (onBroadcastMessage config msg) fun _ => True := by
  refine .bind (by simp [reads]) fun _ => ?_
  cases parsed : config.cJsonParse msg.text with
  | none => simp [reads]
  | some msgJson =>
    cases topicItem : msgJson.getObjectItem "topic" with
    | none => simp [reads, topicItem]
    | some topic =>
      dsimp only
      rw [topicItem]
      refine .bind (by simp [reads]) fun _ => ?_
      cases payloadItem : msgJson.getObjectItem "payload" with
      | none => simp [reads]
      | some payload =>
        refine .bind (by simp [reads]) fun _ => .bind (by simp [reads]) fun allocated => ?_
        rw [issues_ite]
        split
        · simp [reads]
        · refine issues_bind.mpr (issues_decode.weaken reads fun coded decoded =>
            .bind (by simp [reads]) fun _ => ?_)
          have handed : broadcastDecoded config msg = some coded := by
            simp [broadcastDecoded, parsed, topicItem, payloadItem, decoded]
          split
          · simp [reads]
          · have ends : Issues (I := edge) allowed (do
                free .msgJson
                free (.buffer .msgBase64decode)
                free .msg) fun _ => True := by simp [reads]
            simp only [issues_ite]
            apply broadcast_branches (motive := id)
            · intro _
              refine ⟨?_, ?_, ?_, ?_⟩ <;>
                exact .bind (by simp [reads]) fun _ => .bind (issues_notice _ _ reads) fun _ => ends
            · exact fun _ => .bind (issues_storeReply reads (copies coded handed)) fun _ => ends

end Broadcast

end IotstackDriver.Edge
