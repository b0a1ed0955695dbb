import IotstackDriver.Edge.Ledger
import IotstackDriver.Edge.LockedRuns
import IotstackDriver.Edge.SetupRuns

/-! What a call has published, and what it was answered, before it lists a client, takes it
off the list or sets its session flag. -/

namespace IotstackDriver.Edge

open Libc Support Program
open scoped List

/-- What a client tells the router of its session. -/
inductive Notice where
  | login
  | logout
  | register (productSecret : CString)

namespace Notice

/-- The session is on after the notice. -/
def online : Notice → Bool
  | logout => false
  | _ => true

/-- The inner payload. -/
def payload (own : SubdevClient) (requestId : UInt32) : Notice → Bytes
  | register productSecret => snprintf natsMsgMaxLen dynRegFormatPayload
      [.uint requestId, .str own.productSn.bytes, .str own.deviceSn.bytes, .str productSecret.bytes]
  | _ => snprintf natsMsgMaxLen logInOutFormatPayload
      [.uint requestId, .str own.productSn.bytes, .str own.deviceSn.bytes]

/-- The text around an encoded payload. -/
def envelope (own : SubdevClient) (encoded : Bytes) : Notice → Bytes
  | login => snprintf natsMsgMaxLen logInOutFormat
      [.str own.productSn.bytes, .str own.deviceSn.bytes, .str (ascii "login"), .str encoded]
  | logout => snprintf natsMsgMaxLen logInOutFormat
      [.str own.productSn.bytes, .str own.deviceSn.bytes, .str (ascii "logout"), .str encoded]
  | register _ => snprintf natsMsgMaxLen dynRegFormat
      [.str own.productSn.bytes, .str own.deviceSn.bytes, .str encoded]

/-- The text of the notice under an id, from what was read of the client for the payload and
what was read for the text around it. -/
def Reads (config : DriverConfig) (inner outer : SubdevClient) (requestId : UInt32) (notice : Notice)
    (text : Bytes) : Prop :=
  ∃ coded, encodedMsg config (some (.ofBytes (notice.payload inner requestId)))
    (notice.payload inner requestId).length = some coded ∧ text = notice.envelope outer coded.text

variable {config : DriverConfig} {inner outer : SubdevClient} {requestId : UInt32} {notice : Notice}
  {text : Bytes}

/-- The text does not tell whether the client is in a session. -/
theorem reads_withOnline {first second : Bool} :
    notice.Reads config (inner.withOnline first) (outer.withOnline second) requestId text ↔
      notice.Reads config inner outer requestId text := by
  cases notice <;> exact Iff.rfl

end Notice

/-- The payload is a document whose `RetCode` counts as 0. -/
def Accepts (config : DriverConfig) (payload : Bytes) : Prop :=
  ∃ document retCode, config.cJsonParse payload = some document ∧
    document.getObjectItem "RetCode" = some retCode ∧ retCode.valueint = 0

/-- What is noted of a call: the entry it makes, what it reads of clients, what it publishes
and the reply it parses. -/
def noted : Request → Bool
  | .newMsgParse _ | .readClient _ | .publishString _ _ | .flush | .readPayload _ .parse => true
  | _ => false

/-- The steps of a notice that went out. -/
def noticeSteps (config : DriverConfig) (client : Ref) (inner outer : SubdevClient) (text : Bytes) :
    List (Answer edge) :=
  [⟨.readClient client, inner⟩, ⟨.readClient client, outer⟩,
    ⟨.publishString config.edgeRouterSubject text, EdgeStatus.ok⟩, ⟨.flush, EdgeStatus.ok⟩]

/-- The notice went out. -/
def Announced (config : DriverConfig) (client : Ref) (notice : Notice) (past : List (Answer edge)) :
    Prop :=
  ∃ requestId inner outer text, notice.Reads config inner outer requestId text ∧
    noticeSteps config client inner outer text <+ past

/-- The notice went out under the id of an entry, and the reply in that entry accepts it. -/
def Granted (config : DriverConfig) (client : Ref) (notice : Notice) (past : List (Answer edge)) : Prop :=
  ∃ requestId node inner outer text payload, notice.Reads config inner outer requestId text ∧
    Accepts config payload ∧
    ⟨.newMsgParse requestId, node⟩ :: noticeSteps config client inner outer text ++
      [⟨.readPayload node .parse, payload⟩] <+ past

/-- A client is listed after its login went out, and taken off the list after its logout did.
Its flag is set after the notice went out, and was accepted where the call waits for that. A
client is created with no session. -/
def Attested (config : DriverConfig) (waits : Bool) (past : List (Answer edge)) : Request → Prop
  | .push .connDevice client => Announced config client .login past
  | .remove .connDevice client => Announced config client .logout past
  | .setOnline client online => ∃ notice : Notice, notice.online = online ∧
      if waits then Granted config client notice past else Announced config client notice past
  | .newSubdevClient own => own.natsOnline = false
  | _ => True

def noticeProtocol (config : DriverConfig) (waits : Bool) : Protocol edge (List (Answer edge)) :=
  .recording noted (Attested config waits)

/-- A request that is neither noted nor attested. -/
def Unattested (request : Request) : Prop := request.changes .connDevice = false ∧ noted request = false

variable {config : DriverConfig} {waits : Bool} {past : List (Answer edge)}

section Steps

theorem attested_of_quiet {request : Request} (quiet : request.changes .connDevice = false) :
    Attested config waits past request := by
  cases request with
  | push list | remove list =>
    cases list with
    | requestid => trivial
    | connDevice => cases quiet
  | setOnline | newSubdevClient => cases quiet
  | _ => trivial

theorem meets_unattested {program : Program edge α} {post : α → List (Answer edge) → Prop}
    (issues : Issues (I := edge) Unattested program fun _ => True)
    (continues : ∀ value, post value past) :
    Meets (noticeProtocol config waits) program post past :=
  .unrecorded issues (fun _ free => ⟨attested_of_quiet free.1, free.2⟩) continues

/-- A program that changes neither `conn_device_list` nor the clients. -/
abbrev SparesDevices (program : Program edge α) : Prop :=
  Issues (I := edge) (fun request => request.changes .connDevice = false) program fun _ => True

theorem meets_of_spares {program : Program edge α} (spares : SparesDevices program) :
    Meets (noticeProtocol config waits) program (fun _ _ => True) past :=
  .unjudged spares fun _ _ quiet => attested_of_quiet quiet

theorem spares_of_readsOnly {program : Program edge α} (only : ReadsOnly program) :
    SparesDevices program :=
  issues_of_readsOnly (fun _ reads => reads.2) only

@[simp] theorem notes_malloc {site : AllocSite} {post : Bool → List (Answer edge) → Prop} :
    Meets (noticeProtocol config waits) (malloc site) post past ↔ ∀ allocated, post allocated past :=
  (meets_unnoted rfl).trans (and_iff_right trivial)

@[simp] theorem notes_free {resource : Resource} {post : Unit → List (Answer edge) → Prop} :
    Meets (noticeProtocol config waits) (free resource) post past ↔ post () past :=
  (meets_unnoted rfl).trans ⟨fun all => all.2 (), fun one => ⟨trivial, fun _ => one⟩⟩

@[simp] theorem notes_logWrite {level : LogLevel} {format : String} {args : List Arg}
    {post : Unit → List (Answer edge) → Prop} :
    Meets (noticeProtocol config waits) (logWrite level format args) post past ↔ post () past :=
  (meets_unnoted rfl).trans ⟨fun all => all.2 (), fun one => ⟨trivial, fun _ => one⟩⟩

@[simp] theorem notes_readClient {client : Ref} {post : SubdevClient → List (Answer edge) → Prop} :
    Meets (noticeProtocol config waits) (readClient client) post past ↔
      ∀ own, post own (past ++ [⟨.readClient client, own⟩]) :=
  (meets_noted rfl).trans (and_iff_right trivial)

@[simp] theorem notes_publishString {subject text : Bytes}
    {post : EdgeStatus → List (Answer edge) → Prop} :
    Meets (noticeProtocol config waits) (publishString subject text) post past ↔
      ∀ status, post status (past ++ [⟨.publishString subject text, status⟩]) :=
  (meets_noted rfl).trans (and_iff_right trivial)

@[simp] theorem notes_flush {post : EdgeStatus → List (Answer edge) → Prop} :
    Meets (noticeProtocol config waits) flush post past ↔
      ∀ status, post status (past ++ [⟨.flush, status⟩]) :=
  (meets_noted rfl).trans (and_iff_right trivial)

@[simp] theorem notes_newMsgParse {requestId : UInt32} {post : Ref → List (Answer edge) → Prop} :
    Meets (noticeProtocol config waits) (newMsgParse requestId) post past ↔
      ∀ node, post node (past ++ [⟨.newMsgParse requestId, node⟩]) :=
  (meets_noted rfl).trans (and_iff_right trivial)

@[simp] theorem notes_parsed {node : Ref} {post : Bytes → List (Answer edge) → Prop} :
    Meets (noticeProtocol config waits) (readPayload node .parse) post past ↔
      ∀ payload, post payload (past ++ [⟨.readPayload node .parse, payload⟩]) :=
  (meets_noted rfl).trans (and_iff_right trivial)

@[simp] theorem notes_setOnline {client : Ref} {online : Bool}
    {post : Unit → List (Answer edge) → Prop} :
    Meets (noticeProtocol config waits) (setOnline client online) post past ↔
      Attested config waits past (.setOnline client online) ∧ post () past :=
  (meets_unnoted rfl).trans (and_congr_right fun _ => ⟨fun all => all (), fun one _ => one⟩)

@[simp] theorem notes_fault {post : α → List (Answer edge) → Prop} :
    Meets (noticeProtocol config waits) (fault : Program edge α) post past :=
  ⟨trivial, fun reply => reply.elim⟩

@[simp] theorem notes_pure {value : α} {post : α → List (Answer edge) → Prop} :
    Meets (noticeProtocol config waits) (pure value) post past ↔ post value past := Iff.rfl

@[simp] theorem notes_ite {condition : Prop} [Decidable condition] {left right : Program edge α}
    {post : α → List (Answer edge) → Prop} :
    Meets (noticeProtocol config waits) (if condition then left else right) post past ↔
      if condition then Meets (noticeProtocol config waits) left post past
      else Meets (noticeProtocol config waits) right post past := by
  split <;> rfl

@[simp] theorem notes_base64Text {data : Memory} {dataLen : Int}
    {post : Bytes → List (Answer edge) → Prop} :
    Meets (noticeProtocol config waits) (base64Text config data dataLen) post past ↔
      ∀ coded, encodedMsg config (some data) dataLen = some coded → post coded.text past := by
  unfold base64Text
  cases encodedMsg config (some data) dataLen <;> simp

end Steps

section Shared

variable {client node : Ref} {requestId : UInt32}

def SubdevLogInOut.notice : SubdevLogInOut → Notice
  | login => .login
  | logout => .logout

/-- The notice went out as the last steps that are noted. -/
def JustAnnounced (config : DriverConfig) (client : Ref) (notice : Notice) (requestId : UInt32)
    (past after : List (Answer edge)) : Prop :=
  ∃ inner outer text, notice.Reads config inner outer requestId text ∧
    after = past ++ noticeSteps config client inner outer text

private theorem just_announced (config : DriverConfig) (client : Ref) (notice : Notice)
    (requestId : UInt32) (past : List (Answer edge)) :
    ∀ inner coded, encodedMsg config (some (.ofBytes (notice.payload inner requestId)))
      (notice.payload inner requestId).length = some coded → ∀ outer,
        JustAnnounced config client notice requestId past
          (past ++ noticeSteps config client inner outer (notice.envelope outer coded.text)) :=
  fun inner coded encoded outer => ⟨inner, outer, _, ⟨coded, encoded, rfl⟩, rfl⟩

theorem logInOut_notes {logOp : SubdevLogInOut} :
    Meets (noticeProtocol config waits) (logInOut config client logOp requestId)
      (fun status after => status = .ok → JustAnnounced config client logOp.notice requestId past after)
      past := by
  have announced := just_announced config client logOp.notice requestId past
  cases logOp <;>
    simpa [logInOut, publishAndFlush, Setup.or_eq_ok, noticeSteps, SubdevLogInOut.notice,
      SubdevLogInOut.topic, Notice.payload, Notice.envelope] using announced

theorem dynRegPublish_notes {productSecret : CString} :
    Meets (noticeProtocol config waits) (dynRegPublish config client productSecret requestId)
      (fun published after => published = some .ok →
        JustAnnounced config client (.register productSecret) requestId past after) past := by
  simpa [dynRegPublish, publishAndFlush, Setup.or_eq_ok, noticeSteps, Notice.payload, Notice.envelope]
    using just_announced config client (.register productSecret) requestId past

theorem waitPayloadIsTimeout_unattested {timeOutMs : UInt32} :
    Issues (I := edge) Unattested (waitPayloadIsTimeout node timeOutMs) fun _ => True :=
  issues_waitPayloadIsTimeout (fun _ => ⟨rfl, rfl⟩) fun _ => ⟨rfl, rfl⟩

theorem awaitRetCode_notes {timeOutMs : UInt32} {timeoutLog : String}
    {accepted rejected : Program edge EdgeStatus}
    (accepts : ∀ payload, Accepts config payload → Meets (noticeProtocol config waits) accepted
      (fun _ _ => True) (past ++ [⟨.readPayload node .parse, payload⟩]))
    (rejects : ∀ after, Meets (noticeProtocol config waits) rejected (fun _ _ => True) after) :
    Meets (noticeProtocol config waits)
      (awaitRetCode config node timeOutMs timeoutLog accepted rejected) (fun _ _ => True) past := by
  rw [awaitRetCode, meets_bind]
  refine meets_unattested waitPayloadIsTimeout_unattested fun status => ?_
  rw [notes_ite]
  split
  · simp
  · rw [meets_bind, notes_parsed]
    intro payload
    cases parsed : config.cJsonParse payload with
    | none => simp
    | some document =>
      cases found : document.getObjectItem "RetCode" with
      | none => simp [found]
      | some retCode =>
        dsimp only
        rw [found]
        dsimp only
        rw [notes_ite]
        split
        · rename_i zero
          exact accepts payload ⟨document, retCode, parsed, found, zero⟩
        · exact rejects _

theorem addToList_requestid_unattested :
    Issues (I := edge) Unattested (addToList .requestid node) fun _ => True := by
  simp [addToList, Unattested, Request.changes, noted]

theorem removeFromList_requestid_unattested :
    Issues (I := edge) Unattested (removeFromList .requestid node) fun _ => True := by
  simp [removeFromList, Unattested, Request.changes, noted]

theorem addToList_connDevice_notes {post : EdgeStatus → List (Answer edge) → Prop}
    (announced : Announced config client .login past) (continues : ∀ status, post status past) :
    Meets (noticeProtocol config waits) (addToList .connDevice client) post past := by
  rw [addToList, meets_bind, notes_malloc]
  intro allocated
  rw [notes_ite]
  split
  · exact continues .err
  · exact (meets_unnoted rfl).mpr ⟨announced, fun _ => continues .ok⟩

theorem removeFromList_connDevice_notes {post : EdgeStatus → List (Answer edge) → Prop}
    (announced : Announced config client .logout past) (continues : ∀ status, post status past) :
    Meets (noticeProtocol config waits) (removeFromList .connDevice client) post past := by
  rw [removeFromList, meets_bind]
  refine (meets_unnoted rfl).mpr ⟨announced, fun removed => ?_⟩
  rw [notes_ite]
  split <;> exact continues _

theorem msgParseStrInit_notes {requestId : UInt32} :
    Meets (noticeProtocol config waits) (msgParseStrInit requestId)
      (fun made after => ∀ node, made = some node → after = past ++ [⟨.newMsgParse requestId, node⟩])
      past := by
  simp [msgParseStrInit]

theorem genRequestid_unattested : Issues (I := edge) Unattested genRequestid fun _ => True := by
  simp [genRequestid, Unattested, Request.changes, noted]

theorem withRequest_notes {body : Ref → UInt32 → Program edge EdgeStatus}
    (notes : ∀ node requestId, Meets (noticeProtocol config waits) (body node requestId)
      (fun _ _ => True) (past ++ [⟨.newMsgParse requestId, node⟩])) :
    Meets (noticeProtocol config waits) (withRequest body) (fun _ _ => True) past := by
  rw [withRequest, meets_bind]
  refine meets_unattested genRequestid_unattested fun requestId => ?_
  rw [meets_bind]
  refine msgParseStrInit_notes.weaken fun made after recorded => ?_
  cases made with
  | none => trivial
  | some node =>
    rw [meets_bind]
    refine meets_unattested addToList_requestid_unattested fun _ => ?_
    rw [meets_bind, recorded node rfl]
    refine (notes node requestId).weaken fun status after _ => ?_
    rw [meets_bind]
    exact meets_unattested removeFromList_requestid_unattested fun _ => trivial

end Shared

section Operations

variable {client : Option Ref} {timeOutMs : UInt32}

/-- A notice that just went out went out. -/
theorem JustAnnounced.announced {client : Ref} {notice : Notice} {requestId : UInt32}
    {after : List (Answer edge)} (just : JustAnnounced config client notice requestId past after) :
    Announced config client notice after := by
  obtain ⟨inner, outer, text, reads, rfl⟩ := just
  exact ⟨requestId, inner, outer, text, reads, List.sublist_append_right ..⟩

/-- And it is granted by the reply in the entry made under its id. -/
theorem JustAnnounced.granted {client node : Ref} {notice : Notice} {requestId : UInt32}
    {after : List (Answer edge)} {payload : Bytes}
    (just : JustAnnounced config client notice requestId (past ++ [⟨.newMsgParse requestId, node⟩]) after)
    (accepts : Accepts config payload) :
    Granted config client notice (after ++ [⟨.readPayload node .parse, payload⟩]) := by
  obtain ⟨inner, outer, text, reads, rfl⟩ := just
  refine ⟨requestId, node, inner, outer, text, payload, reads, accepts, ?_⟩
  rw [List.append_assoc past]
  exact (List.sublist_append_right past _).append (.refl _)

theorem Announced.later {client : Ref} {notice : Notice} {more : List (Answer edge)}
    (announced : Announced config client notice past) :
    Announced config client notice (past ++ more) := by
  obtain ⟨requestId, inner, outer, text, reads, sent⟩ := announced
  exact ⟨requestId, inner, outer, text, reads, sent.trans (List.sublist_append_left ..)⟩

theorem dynRegReply_notes {client node : Ref} {requestId : UInt32} {productSecret : CString}
    {status : EdgeStatus} {after : List (Answer edge)} (announced : status = .ok → JustAnnounced config
      client (.register productSecret) requestId (past ++ [⟨.newMsgParse requestId, node⟩]) after) :
    Meets (noticeProtocol config true) (dynRegReply config client node status timeOutMs)
      (fun _ _ => True) after := by
  rw [dynRegReply, notes_ite]
  split
  · simp
  · rename_i ok
    refine awaitRetCode_notes (fun payload accepts => ?_) fun after => by simp
    simpa using ⟨.register productSecret, rfl, (announced (not_not.mp ok)).granted accepts⟩

theorem edgeSubdevLoginSync_notes : Meets (noticeProtocol config true)
    (edgeSubdevLoginSync config client timeOutMs) (fun _ _ => True) past := by
  unfold edgeSubdevLoginSync
  cases client with
  | none => trivial
  | some client =>
    refine withRequest_notes fun node requestId => ?_
    rw [meets_bind]
    refine logInOut_notes.weaken fun status after announced => ?_
    rw [notes_ite]
    split
    · simp
    · rename_i ok
      have just := announced (not_not.mp ok)
      rw [meets_bind]
      refine addToList_connDevice_notes just.announced fun _ => ?_
      refine awaitRetCode_notes (fun payload accepts => ?_) fun after => by simp
      simpa using ⟨.login, rfl, just.granted accepts⟩

theorem edgeSubdevLogoutSync_notes : Meets (noticeProtocol config true)
    (edgeSubdevLogoutSync config client timeOutMs) (fun _ _ => True) past := by
  unfold edgeSubdevLogoutSync
  cases client with
  | none => trivial
  | some client =>
    rw [meets_bind, notes_readClient]
    intro own
    rw [notes_ite]
    split
    · trivial
    · refine withRequest_notes fun node requestId => ?_
      rw [meets_bind]
      refine logInOut_notes.weaken fun status after announced => ?_
      rw [notes_ite]
      split
      · simp
      · rename_i ok
        have just := announced (not_not.mp ok)
        rw [meets_bind]
        refine removeFromList_connDevice_notes just.announced fun _ => ?_
        refine awaitRetCode_notes (fun payload accepts => ?_) fun after => by simp
        simpa using ⟨.logout, rfl, just.granted accepts⟩

theorem edgeSubdevLoginAsync_notes : Meets (noticeProtocol config false)
    (edgeSubdevLoginAsync config client) (fun _ _ => True) past := by
  unfold edgeSubdevLoginAsync
  cases client with
  | none => trivial
  | some client =>
    rw [meets_bind]
    refine meets_unattested genRequestid_unattested fun requestId => ?_
    rw [meets_bind]
    refine logInOut_notes.weaken fun status after announced => ?_
    rw [notes_ite]
    split
    · simp
    · rename_i ok
      have just := announced (not_not.mp ok)
      simp only [meets_bind, notes_setOnline, notes_readClient, notes_logWrite]
      refine ⟨⟨.login, rfl, just.announced⟩, fun own => addToList_connDevice_notes ?_ fun _ => trivial⟩
      exact just.announced.later

theorem edgeSubdevLogoutAsync_notes : Meets (noticeProtocol config false)
    (edgeSubdevLogoutAsync config client) (fun _ _ => True) past := by
  unfold edgeSubdevLogoutAsync
  cases client with
  | none => trivial
  | some client =>
    rw [meets_bind, notes_readClient]
    intro own
    rw [notes_ite]
    split
    · trivial
    · rw [meets_bind]
      refine meets_unattested genRequestid_unattested fun requestId => ?_
      rw [meets_bind]
      refine logInOut_notes.weaken fun status after announced => ?_
      rw [notes_ite]
      split
      · simp
      · rename_i ok
        have just := announced (not_not.mp ok)
        simp only [meets_bind, notes_setOnline, notes_readClient, notes_logWrite]
        refine ⟨⟨.logout, rfl, just.announced⟩, fun own => ?_⟩
        exact removeFromList_connDevice_notes just.announced.later fun _ => trivial

theorem edgeSubdevDynamicAuth_notes {productSecret : Option CString} : Meets (noticeProtocol config true)
    (edgeSubdevDynamicAuth config client productSecret timeOutMs) (fun _ _ => True) past := by
  unfold edgeSubdevDynamicAuth
  split
  · rename_i client productSecret
    rw [meets_bind]
    refine meets_unattested genRequestid_unattested fun requestId => ?_
    rw [meets_bind]
    refine msgParseStrInit_notes.weaken fun made after recorded => ?_
    cases made with
    | none => trivial
    | some node =>
      rw [meets_bind]
      refine meets_unattested addToList_requestid_unattested fun _ => ?_
      rw [meets_bind, recorded node rfl]
      refine dynRegPublish_notes.weaken fun published after announced => ?_
      cases published with
      | none => trivial
      | some status =>
        rw [meets_bind]
        refine (dynRegReply_notes fun ok => announced (congrArg some ok)).weaken fun status after _ => ?_
        rw [meets_bind]
        refine meets_unattested removeFromList_requestid_unattested fun _ => ?_
        simp
  · trivial

theorem edgeSubdevConstruct_notes {productSn deviceSn : Option CString}
    {normalMsgHandle rrpcMsgHandle : Option HandlerPtr} : Meets (noticeProtocol config waits)
      (edgeSubdevConstruct productSn deviceSn normalMsgHandle rrpcMsgHandle) (fun _ _ => True) past := by
  unfold edgeSubdevConstruct
  split
  · rw [meets_bind, notes_malloc]
    intro allocated
    rw [notes_ite]
    split
    · simp
    · rw [meets_bind]
      exact (meets_unnoted rfl).mpr ⟨rfl, fun _ => trivial⟩
  · trivial

theorem withRequest_spares {body : Ref → UInt32 → Program edge EdgeStatus}
    (spares : ∀ node requestId, SparesDevices (body node requestId)) :
    SparesDevices (withRequest body) := by
  refine .bind (spares_of_readsOnly readsOnly_genRequestid) fun requestId => ?_
  refine .bind (by simp [msgParseStrInit, Request.changes]) fun made => ?_
  cases made with
  | none => trivial
  | some node =>
    refine .bind (by simp [addToList, Request.changes]) fun _ => ?_
    refine .bind (spares node requestId) fun _ => ?_
    exact .bind (by simp [removeFromList, Request.changes]) fun _ => trivial

theorem edgeGetTopo_spares : SparesDevices (edgeGetTopo config timeOutMs) := by
  refine .bind (spares_of_readsOnly readsOnly_genRequestid) fun requestId => ?_
  refine .bind (by simp [msgParseStrInit, Request.changes]) fun made => ?_
  cases made with
  | none => trivial
  | some node =>
    refine .bind (by simp [addToList, Request.changes]) fun _ => ?_
    refine .bind (spares_of_readsOnly readsOnly_topoMsgCommon) fun status => ?_
    rw [issues_ite]
    split
    · simp [Request.changes]
    · refine .bind (spares_of_readsOnly readsOnly_waitPayloadIsTimeout) fun status => ?_
      rw [issues_ite]
      split
      · simp [Request.changes]
      · refine .bind (by simp [Request.changes]) fun payload => ?_
        split
        · simp [Request.changes]
        · exact .bind (by simp [removeFromList, Request.changes]) fun _ => trivial

/-- What the operations that change the topology have in common. -/
private theorem topoRequest_spares {client : Ref} {op : TopoOperation} {publishLog timeoutLog : String}
    {accepted rejected : Program edge EdgeStatus} (accepts : SparesDevices accepted)
    (rejects : SparesDevices rejected) : SparesDevices (withRequest fun node requestId => do
      let status ← topoMsgCommon config (some client) requestId op
      if status ≠ .ok then
        logWrite .error publishLog []
        return status
      awaitRetCode config node timeOutMs timeoutLog accepted rejected) := by
  refine withRequest_spares fun node requestId => ?_
  refine .bind (spares_of_readsOnly readsOnly_topoMsgCommon) fun status => ?_
  rw [issues_ite]
  split
  · simp [Request.changes]
  · exact issues_awaitRetCode (fun _ waits => waits.reads.2) accepts rejects

theorem edgeAddTopo_spares : SparesDevices (edgeAddTopo config client timeOutMs) := by
  unfold edgeAddTopo
  cases client with
  | none => trivial
  | some client => exact topoRequest_spares (by simp [Request.changes]) (by simp [Request.changes])

theorem edgeDeleteTopo_spares : SparesDevices (edgeDeleteTopo config client timeOutMs) := by
  unfold edgeDeleteTopo
  cases client with
  | none => trivial
  | some client => exact topoRequest_spares (by simp [Request.changes]) (by simp [Request.changes])

end Operations

end IotstackDriver.Edge
