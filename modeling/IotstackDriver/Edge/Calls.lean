import IotstackDriver.Edge.Effects

/-! What the procedures the operations share do, as functions of the outcomes a call
meets. -/

namespace IotstackDriver.Edge

open Libc Support

namespace Env

def requestId (env : Env) : UInt32 :=
  UInt32.ofNat (env.rand .high) <<< 16 ||| UInt32.ofNat (env.rand .low)

/-- `_msg_parse_str_init` gets its two blocks. -/
def entryAllocated (env : Env) : Bool := env.malloc .msgParse && env.malloc .msgParsePayload

def sent (env : Env) : Bool := env.publishStatus.or env.flushStatus == .ok

def allocated (env : Env) (buffers : List Buffer) : Bool :=
  buffers.all fun buffer => env.malloc (.buffer buffer)

def logInOutBuffers : List Buffer := [.loginStrPayload, .loginStrPayloadBase64, .loginOutStr]

def dynRegBuffers : List Buffer := [.dynRegPayload, .dynRegPayloadBase64, .dynRegMsg]

def topoBuffers : List Buffer := [.topoMsg, .subdevStr, .payloadStr, .payloadStrBase64]

/-- `_log_in_out` succeeds. -/
def logInOutSent (env : Env) : Bool := env.allocated logInOutBuffers && env.sent

/-- `_topo_msg_common` succeeds. -/
def topoSent (env : Env) : Bool := env.allocated topoBuffers && env.sent

/-- No look at a buffer that was zero-filled finds a reply. -/
def timedOut (env : Env) : Bool :=
  (List.range 11).all fun remaining => (env.look (.poll remaining) []).length == 0

/-- The reply a call parses, if one arrives in time. -/
def reply? (env : Env) : Option Bytes :=
  if env.timedOut then none else some (env.look .parse [])

/-- The code of the reply, if it arrives, is JSON and has a `RetCode`. -/
def retCode? (config : DriverConfig) (env : Env) : Option Int := do
  let payload ← env.reply?
  let document ← config.cJsonParse payload
  let retCode ← document.getObjectItem "RetCode"
  return retCode.valueint

end Env

variable {env : Env} {checked : Prop} {world : World} {config : DriverConfig}

theorem genRequestid_ends {post : UInt32 → World → Prop} :
    Ends env checked genRequestid post world ↔ post env.requestId world := by
  simp [genRequestid, Env.requestId]

@[simp] theorem base64Text_ends {data : Memory} {dataLen : Int} {post : Bytes → World → Prop} :
    Ends env checked (base64Text config data dataLen) post world ↔
      ∀ coded, encodedMsg config (some data) dataLen = some coded →
        post coded.text world := by
  unfold base64Text
  cases encodedMsg config (some data) dataLen <;> simp

@[simp] theorem publishAndFlush_ends {subj str : Bytes} {post : EdgeStatus → World → Prop} :
    Ends env checked (publishAndFlush subj str) post world ↔
      post (env.publishStatus.or env.flushStatus) world := by
  simp [publishAndFlush]

private theorem touch_twice {registry : Registry α} (live : registry.live ref = true) :
    (registry.touch ref).touch ref = registry := by
  rw [Registry.touch_of_live live, Registry.touch_of_live live]

private theorem allocated_eq_false {buffers : List Buffer} (member : buffer ∈ buffers)
    (failed : env.malloc (.buffer buffer) = false) : env.allocated buffers = false := by
  rw [Env.allocated, List.all_eq_false]
  exact ⟨buffer, member, by simp [failed]⟩

private theorem unsent {status : EdgeStatus} (failed : status ≠ .ok) (reason : ready = false) :
    status = .ok ↔ ready = true := by
  simp [failed, reason]

/-- `_log_in_out` changes neither list. -/
theorem logInOut_ends {client : Ref} {logOp : SubdevLogInOut} {requestId : UInt32}
    {post : EdgeStatus → World → Prop} (alive : checked → world.devices.live client = true)
    (continues : ∀ status devices, (status = .ok ↔ env.logInOutSent = true) →
      (world.devices.live client = true → devices = world.devices) →
      post status ⟨world.requests, devices⟩) :
    Ends env checked (logInOut config client logOp requestId) post world := by
  unfold logInOut
  have refused (buffer : Buffer) (member : buffer ∈ Env.logInOutBuffers)
      (failed : env.malloc (.buffer buffer) = false) (devices : Registry SubdevClient)
      (same : world.devices.live client = true → devices = world.devices) :
      post .noMemory ⟨world.requests, devices⟩ := by
    refine continues _ _ (unsent (by decide) ?_) same
    simp [Env.logInOutSent, allocated_eq_false member failed]
  cases first : env.malloc (.buffer .loginStrPayload) with
  | false => simpa [first] using refused _ (by decide) first _ fun _ => rfl
  | true =>
    cases second : env.malloc (.buffer .loginStrPayloadBase64) with
    | false =>
      simp only [first, second, ends_bind, ends_malloc, ends_ite, ends_pure, ends_logWrite, ends_free,
        ends_readClient, Bool.not_true, Bool.not_false, Bool.false_eq_true, ↓reduceIte]
      exact fun own found => ⟨alive, refused _ (by decide) second _ Registry.touch_of_live⟩
    | true =>
      cases third : env.malloc (.buffer .loginOutStr) with
      | false =>
        simp only [first, second, third, ends_bind, ends_malloc, ends_ite, ends_pure, ends_logWrite,
          ends_free, ends_readClient, base64Text_ends, Bool.not_true, Bool.not_false,
          Bool.false_eq_true, ↓reduceIte]
        exact fun own found => ⟨alive, fun coded encoded =>
          refused _ (by decide) third _ Registry.touch_of_live⟩
      | true =>
        simp only [first, second, third, ends_bind, ends_malloc, ends_ite, ends_pure, ends_logWrite,
          ends_free, ends_readClient, base64Text_ends, publishAndFlush_ends, Bool.not_true,
          Bool.false_eq_true, ↓reduceIte, Registry.touch_value?, Registry.touch_live, ite_self]
        refine fun own found => ⟨alive, fun coded encoded own found => ⟨alive, ?_⟩⟩
        refine continues _ _ ?_ touch_twice
        simp [Env.logInOutSent, Env.allocated, Env.logInOutBuffers, first, second, third, Env.sent]

/-- The registration request changes neither list; `none` is a failed allocation. -/
theorem dynRegPublish_ends {client : Ref} {productSecret : CString} {requestId : UInt32}
    {post : Option EdgeStatus → World → Prop} (alive : checked → world.devices.live client = true)
    (failed : env.allocated Env.dynRegBuffers = false → ∀ devices,
      (world.devices.live client = true → devices = world.devices) →
      post none ⟨world.requests, devices⟩)
    (continues : env.allocated Env.dynRegBuffers = true → ∀ status devices,
      (status = .ok ↔ env.sent = true) →
      (world.devices.live client = true → devices = world.devices) →
      post (some status) ⟨world.requests, devices⟩) :
    Ends env checked (dynRegPublish config client productSecret requestId) post world := by
  unfold dynRegPublish
  have refused (buffer : Buffer) (member : buffer ∈ Env.dynRegBuffers)
      (refusal : env.malloc (.buffer buffer) = false) := failed (allocated_eq_false member refusal)
  cases first : env.malloc (.buffer .dynRegPayload) with
  | false => simpa [first] using refused _ (by decide) first _ fun _ => rfl
  | true =>
    cases second : env.malloc (.buffer .dynRegPayloadBase64) with
    | false =>
      simp only [first, second, ends_bind, ends_malloc, ends_ite, ends_pure, ends_logWrite, ends_free,
        ends_readClient, Bool.not_true, Bool.not_false, Bool.false_eq_true, ↓reduceIte]
      exact fun own found => ⟨alive, refused _ (by decide) second _ Registry.touch_of_live⟩
    | true =>
      cases third : env.malloc (.buffer .dynRegMsg) with
      | false =>
        simp only [first, second, third, ends_bind, ends_malloc, ends_ite, ends_pure, ends_logWrite,
          ends_free, ends_readClient, base64Text_ends, Bool.not_true, Bool.not_false,
          Bool.false_eq_true, ↓reduceIte]
        exact fun own found => ⟨alive, fun coded encoded =>
          refused _ (by decide) third _ Registry.touch_of_live⟩
      | true =>
        simp only [first, second, third, ends_bind, ends_malloc, ends_ite, ends_pure, ends_logWrite,
          ends_free, ends_readClient, base64Text_ends, publishAndFlush_ends, Bool.not_true,
          Bool.false_eq_true, ↓reduceIte, Registry.touch_value?, Registry.touch_live]
        refine fun own found => ⟨alive, fun coded encoded own found => ⟨alive, ?_⟩⟩
        exact continues (by simp [Env.allocated, Env.dynRegBuffers, first, second, third]) _ _
          (by simp [Env.sent]) touch_twice

theorem topoMsg_ends {client : Option Ref} {requestId : UInt32} {op : TopoOperation}
    {post : Bytes → World → Prop}
    (alive : ∀ ref, client = some ref → checked → world.devices.live ref = true)
    (continues : ∀ text devices,
      (∀ ref, client = some ref → world.devices.live ref = true → devices = world.devices) →
      post text ⟨world.requests, devices⟩) :
    Ends env checked (topoMsg config client requestId op) post world := by
  cases op with
  | get =>
    simp only [topoMsg, ends_bind, ends_pure, ends_logWrite, base64Text_ends]
    intro coded encoded
    exact continues _ _ fun _ _ _ => rfl
  | add | delete =>
    cases client with
    | none => simp [topoMsg]
    | some client =>
      simp only [topoMsg, ends_bind, ends_pure, ends_readClient, ends_logWrite, base64Text_ends,
        Registry.touch_value?, Registry.touch_live]
      refine fun own found => ⟨alive client rfl, fun coded encoded own found => ⟨alive client rfl, ?_⟩⟩
      refine continues _ _ fun ref same live => ?_
      cases same
      exact touch_twice live

/-- `_topo_msg_common` changes neither list. -/
theorem topoMsgCommon_ends {client : Option Ref} {requestId : UInt32} {op : TopoOperation}
    {post : EdgeStatus → World → Prop}
    (alive : ∀ ref, client = some ref → checked → world.devices.live ref = true)
    (continues : ∀ status devices, (status = .ok ↔ env.topoSent = true) →
      (∀ ref, client = some ref → world.devices.live ref = true → devices = world.devices) →
      post status ⟨world.requests, devices⟩) :
    Ends env checked (topoMsgCommon config client requestId op) post world := by
  unfold topoMsgCommon
  have refused (buffer : Buffer) (member : buffer ∈ Env.topoBuffers)
      (failed : env.malloc (.buffer buffer) = false) : post .noMemory world := by
    refine continues _ _ (unsent (by decide) ?_) fun _ _ _ => rfl
    simp [Env.topoSent, allocated_eq_false member failed]
  cases first : env.malloc (.buffer .topoMsg) with
  | false => simpa [first] using refused _ (by decide) first
  | true =>
    cases second : env.malloc (.buffer .subdevStr) with
    | false => simpa [first, second] using refused _ (by decide) second
    | true =>
      cases third : env.malloc (.buffer .payloadStr) with
      | false => simpa [first, second, third] using refused _ (by decide) third
      | true =>
        cases fourth : env.malloc (.buffer .payloadStrBase64) with
        | false => simpa [first, second, third, fourth] using refused _ (by decide) fourth
        | true =>
          simp only [first, second, third, fourth, ends_bind, ends_malloc, ends_ite, ends_pure,
            ends_logWrite, ends_free, publishAndFlush_ends, Bool.not_true, Bool.false_eq_true,
            ↓reduceIte, ite_self]
          refine topoMsg_ends alive fun text devices same => ?_
          refine continues _ _ ?_ same
          simp [Env.topoSent, Env.allocated, Env.topoBuffers, first, second, third, fourth, Env.sent]

theorem zero_cString (limit : Nat) : Memory.zero.cString limit = [] := by
  cases limit with
  | zero => rfl
  | succ limit => simp [Memory.cString, Memory.zero, List.range_succ_eq_map]

section Waiting

variable {node : Ref} {entry : MsgParse} {timeOutMs : UInt32}

private theorem pollPayload_ends {post : Nat → World → Prop}
    (found : world.requests.value? node = some entry)
    (empty : entry.payload.cString natsMsgMaxLen = []) (live : world.requests.live node = true)
    (rounds : Nat) (continues : ∀ left,
      (left = 0 ↔ ∀ round, 1 ≤ round → round ≤ rounds → (env.look (.poll round) []).length = 0) →
      post left world) :
    Ends env checked (pollPayload node timeOutMs rounds) post world := by
  induction rounds with
  | zero => exact continues 0 (by simp; omega)
  | succ rounds ih =>
    simp only [pollPayload, ends_bind, ends_readPayload, ends_ite, ends_sleep, ends_pure]
    intro own same
    cases found.symm.trans same
    rw [Registry.touch_of_live live, empty]
    split
    · rename_i silent
      refine ih fun left stopped => continues left (stopped.trans ?_)
      constructor
      · intro earlier round first last
        rcases Nat.lt_or_eq_of_le last with before | same
        · exact earlier round first (Nat.le_of_lt_succ before)
        · exact same ▸ silent
      · exact fun all round first last => all round first (Nat.le_succ_of_le last)
    · rename_i heard
      exact continues (rounds + 1) (by
        refine ⟨fun zero => absurd zero (Nat.succ_ne_zero rounds), fun all => ?_⟩
        exact absurd (all (rounds + 1) (Nat.le_add_left ..) (Nat.le_refl _)) heard)

/-- Waiting on a fresh buffer times out when no look finds a reply. -/
theorem waitPayloadIsTimeout_ends {post : EdgeStatus → World → Prop}
    (found : world.requests.value? node = some entry)
    (empty : entry.payload.cString natsMsgMaxLen = []) (live : world.requests.live node = true)
    (continues : post (if env.timedOut then .invalidTimeout else .ok) world) :
    Ends env checked (waitPayloadIsTimeout node timeOutMs) post world := by
  rw [waitPayloadIsTimeout, ends_bind]
  refine pollPayload_ends found empty live 10 fun left stopped => ?_
  have outcome : env.timedOut = true ↔ left = 0 ∧ (env.look (.poll 0) []).length = 0 := by
    rw [stopped]
    simp only [Env.timedOut, List.all_eq_true, List.mem_range, beq_iff_eq]
    constructor
    · exact fun all => ⟨fun round _ last => all round (Nat.lt_succ_of_le last), all 0 (by decide)⟩
    · rintro ⟨later, first⟩ round inside
      rcases Nat.eq_zero_or_pos round with zero | positive
      · exact zero ▸ first
      · exact later round positive (Nat.le_of_lt_succ inside)
  by_cases last : left = 0
  · simp only [last, ↓reduceIte, ends_bind, ends_readPayload, ends_ite, ends_pure]
    intro own same
    cases found.symm.trans same
    rw [Registry.touch_of_live live, empty]
    by_cases silent : (env.look (.poll 0) []).length = 0
    · simpa [silent, outcome.mpr ⟨last, silent⟩] using continues
    · have heard : env.timedOut = false := by simp [← Bool.not_eq_true, outcome, silent]
      simpa [silent, heard] using continues
  · have heard : env.timedOut = false := by simp [← Bool.not_eq_true, outcome, last]
    simpa [last, heard] using continues

/-- The shared tail, by what becomes of the reply. -/
theorem awaitRetCode_ends {timeoutLog : String} {accepted rejected : Program edge EdgeStatus}
    {post : EdgeStatus → World → Prop} (found : world.requests.value? node = some entry)
    (empty : entry.payload.cString natsMsgMaxLen = []) (live : world.requests.live node = true)
    (noCode : env.retCode? config = none → ∀ status, status ≠ .ok → post status world)
    (zero : env.retCode? config = some 0 → Ends env checked accepted post world)
    (other : ∀ code, env.retCode? config = some code → code ≠ 0 → Ends env checked rejected post world) :
    Ends env checked (awaitRetCode config node timeOutMs timeoutLog accepted rejected) post world := by
  rw [awaitRetCode, ends_bind]
  apply waitPayloadIsTimeout_ends found empty live
  cases late : env.timedOut with
  | true =>
    simpa [late] using noCode (by simp [Env.retCode?, Env.reply?, late]) .invalidTimeout (by decide)
  | false =>
    have onTime : ¬ EdgeStatus.ok = EdgeStatus.invalidTimeout := by decide
    simp only [Bool.false_eq_true, ↓reduceIte, onTime, ends_bind, ends_readPayload]
    intro own same
    cases found.symm.trans same
    rw [Registry.touch_of_live live, empty]
    cases parsed : config.cJsonParse (env.look .parse []) with
    | none =>
      simpa using noCode (by simp [Env.retCode?, Env.reply?, late, parsed]) .err (by decide)
    | some document =>
      cases item : document.getObjectItem "RetCode" with
      | none => simp [item]
      | some retCode =>
        have code : env.retCode? config = some retCode.valueint := by
          simp [Env.retCode?, Env.reply?, late, parsed, item]
        by_cases isZero : retCode.valueint = 0
        · simpa [item, isZero] using zero (by rw [code, isZero])
        · simpa [item, isZero] using other _ code isZero

end Waiting

section Registration

/-- `requestid_list` once a call has created its entry and tried to list it. -/
def Env.registered (env : Env) (requests : Registry MsgParse) : Registry MsgParse :=
  let created := requests.alloc ⟨env.requestId, .zero⟩
  if env.malloc (.listNode .requestid) then created.push requests.size else created

/-- `requestid_list` after a call's own removal step. -/
def Env.unregistered (env : Env) (requests : Registry MsgParse) (node : Ref) : Registry MsgParse :=
  if env.malloc (.listIterator .requestid) then
    (extractFromList requests node (msgParseMatch env.requestId)).2
  else requests

theorem registered_value? (requests : Registry MsgParse) :
    (env.registered requests).value? requests.size = some ⟨env.requestId, .zero⟩ := by
  unfold Env.registered
  split <;> simp [Registry.alloc_value?]

theorem registered_live (requests : Registry MsgParse) :
    (env.registered requests).live requests.size = true := by
  unfold Env.registered
  split <;> simp [Registry.alloc_live]

theorem registered_entries (requests : Registry MsgParse) :
    (env.registered requests).entries =
      if env.malloc (.listNode .requestid) then requests.entries ++ [requests.size]
      else requests.entries := by
  unfold Env.registered
  split
  · exact Registry.push_entries (by simp)
  · rfl

theorem registered_value?_of_ne (requests : Registry MsgParse) (older : ref ≠ requests.size) :
    (env.registered requests).value? ref = requests.value? ref := by
  unfold Env.registered
  split <;> simp [Registry.alloc_value?, older]

theorem msgParseStrInit_ends {requestId : UInt32} {post : Option Ref → World → Prop} :
    Ends env checked (msgParseStrInit requestId) post world ↔
      if env.entryAllocated then
        post (some world.requests.size)
          { world with requests := world.requests.alloc ⟨requestId, .zero⟩ }
      else post none world := by
  cases first : env.malloc .msgParse <;> cases second : env.malloc .msgParsePayload <;>
    simp [msgParseStrInit, Env.entryAllocated, first, second]

theorem addToList_requestid_ends {node : Ref} {post : EdgeStatus → World → Prop}
    (continues : ∀ status, post status { world with
      requests := if env.malloc (.listNode .requestid) then world.requests.push node
        else world.requests }) :
    Ends env checked (addToList .requestid node) post world := by
  cases allocated : env.malloc (.listNode .requestid) with
  | false => simpa [addToList, allocated] using continues .err
  | true => simpa [addToList, allocated] using fun _ => continues .ok

/-- `conn_device_list` after `_add_to_list`. -/
theorem addToList_connDevice_ends {node : Ref} {post : EdgeStatus → World → Prop}
    (continues : ∀ status, (status = .ok ↔ env.malloc (.listNode .connDevice) = true) →
      post status { world with
        devices := if env.malloc (.listNode .connDevice) then world.devices.push node
          else world.devices }) :
    Ends env checked (addToList .connDevice node) post world := by
  cases allocated : env.malloc (.listNode .connDevice) with
  | false => simpa [addToList, allocated] using continues .err (by simp [allocated])
  | true => simpa [addToList, allocated] using fun _ => continues .ok (by simp [allocated])

/-- `conn_device_list` after the removal step of a logout. -/
def Env.delisted (env : Env) (devices : Registry SubdevClient) (node : Ref)
    (deviceSn : CString) : Registry SubdevClient :=
  if env.malloc (.listIterator .connDevice) then
    (extractFromList devices node (subdevClientMatch deviceSn)).2
  else devices

theorem removeFromList_connDevice_ends {node : Ref} {post : EdgeStatus → World → Prop}
    (continues : ∀ own status, world.devices.value? node = some own →
      (status = .ok ↔ env.malloc (.listIterator .connDevice) = true ∧
        (world.devices.find? (subdevClientMatch own.deviceSn)).isSome = true) →
      (checked → (env.delisted world.devices node own.deviceSn).misuse = world.devices.misuse) ∧
        post status { world with devices := env.delisted world.devices node own.deviceSn }) :
    Ends env checked (removeFromList .connDevice node) post world := by
  rw [removeFromList, ends_bind, ends_remove_connDevice]
  intro own found
  have failed : ¬ EdgeStatus.err = EdgeStatus.ok := by decide
  have left := fun status => continues own status found
  cases allocated : env.malloc (.listIterator .connDevice) with
  | false => simpa [Env.delisted, allocated] using (left .err (by simp [allocated, failed])).2
  | true =>
    simp only [Env.delisted, allocated, ↓reduceIte, true_and] at left
    simp only [ends_ite, ends_pure, ↓reduceIte]
    by_cases hit : (world.devices.find? (subdevClientMatch own.deviceSn)).isSome = true
    · refine ⟨(left .ok (iff_of_true rfl hit)).1, ?_⟩
      split
      · exact (left .ok (iff_of_true rfl hit)).2
      · rename_i missed
        exact absurd hit missed
    · refine ⟨(left .err (iff_of_false failed hit)).1, ?_⟩
      split
      · rename_i taken
        exact absurd taken hit
      · exact (left .err (iff_of_false failed hit)).2

theorem removeFromList_requestid_ends {node : Ref} {post : EdgeStatus → World → Prop}
    (found : (world.requests.value? node).map MsgParse.requestId = some env.requestId)
    (continues : ∀ status, post status
      { world with requests := env.unregistered world.requests node }) :
    Ends env checked (removeFromList .requestid node) post world := by
  rw [removeFromList, ends_bind, ends_remove_requestid]
  intro own same
  have key : own.requestId = env.requestId := by simpa [same] using found
  cases allocated : env.malloc (.listIterator .requestid) with
  | false => simpa [Env.unregistered, allocated] using continues .err
  | true =>
    simp only [Env.unregistered, allocated, ↓reduceIte] at continues
    simp only [key, ends_ite, ends_pure, ↓reduceIte]
    split
    · exact continues .ok
    · exact continues .err

/-- A call in the shared frame: the body starts with its entry created, and its
removal step runs on whatever the body leaves. -/
theorem withRequest_ends {body : Ref → UInt32 → Program edge EdgeStatus}
    {post : EdgeStatus → World → Prop}
    (refused : env.entryAllocated = false → post .noMemory world)
    (during : env.entryAllocated = true → Ends env checked (body world.requests.size env.requestId)
      (fun status final => final.requests = env.registered world.requests ∧
        post status { final with
          requests := env.unregistered (env.registered world.requests) world.requests.size })
      ⟨env.registered world.requests, world.devices⟩) :
    Ends env checked (withRequest body) post world := by
  rw [withRequest, ends_bind, genRequestid_ends, ends_bind, msgParseStrInit_ends]
  cases allocated : env.entryAllocated with
  | false => simpa [allocated] using refused allocated
  | true =>
    simp only [↓reduceIte, ends_bind, ends_pure]
    refine addToList_requestid_ends fun _ => ?_
    refine (during allocated).weaken fun status final ended => ?_
    obtain ⟨same, after⟩ := ended
    refine removeFromList_requestid_ends (by simp [same, registered_value?]) fun _ => ?_
    rw [same]
    exact after

theorem registered_quiet (env : Env) (requests : Registry MsgParse) :
    ∃ entry, (env.registered requests).value? requests.size = some entry ∧
      entry.payload.cString natsMsgMaxLen = [] :=
  ⟨_, registered_value? requests, zero_cString _⟩

/-- The shared tail of a call whose entry nobody else wrote to. -/
theorem awaitRetCode_registered {timeOutMs : UInt32} {timeoutLog : String}
    {accepted rejected : Program edge EdgeStatus} {post : EdgeStatus → World → Prop}
    {requests : Registry MsgParse} (same : world.requests = env.registered requests)
    (noCode : env.retCode? config = none → ∀ status, status ≠ .ok → post status world)
    (zero : env.retCode? config = some 0 → Ends env checked accepted post world)
    (other : ∀ code, env.retCode? config = some code → code ≠ 0 →
      Ends env checked rejected post world) :
    Ends env checked (awaitRetCode config requests.size timeOutMs timeoutLog accepted rejected) post
      world := by
  obtain ⟨entry, found, empty⟩ := registered_quiet env requests
  rw [← same] at found
  exact awaitRetCode_ends found empty (same ▸ registered_live requests) noCode zero other

end Registration

/-- Every allocation and publish succeeds, both draws are zero, and no reply arrives. -/
def Env.calm : Env where
  malloc _ := true
  rand _ := ⟨0, by decide⟩
  publishStatus := .ok
  flushStatus := .ok
  look _ stored := stored

/-- The same, but that no log gets its buffers. -/
def Env.unlogged : Env :=
  { Env.calm with
    malloc := fun site =>
      match site with
      | .log _ _ => false
      | _ => true }

@[simp] theorem Env.unlogged_logFits (text : String) (args : List Arg) :
    Env.unlogged.logFits text args = true := rfl

/-- A driver without handlers of its own, and a parser that accepts nothing. -/
def DriverConfig.plain : DriverConfig where
  charSign := .unsigned
  longBits := 64
  cJsonParse _ := none
  cJsonErrorPtr text := text
  cJsonPrint _ := .literal ""
  driverId := .literal "d1"
  edgeRouterSubject := ascii "edge.router.d1"
  edgeTopoHandle := none
  edgeSubdevStatusHandle := none
  edgeNatsMsgHandle := none

end IotstackDriver.Edge
