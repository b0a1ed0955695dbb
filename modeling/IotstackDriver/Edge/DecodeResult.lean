import IotstackDriver.Edge.CallbackRuns
import IotstackDriver.Edge.MemberChecks

/-! What the callbacks make of the result of `base64_decode`. -/

namespace IotstackDriver.Edge

open Libc Support Program

/-- What a decoded payload is put to. -/
inductive PayloadUse where
  | call (made : HandlerCall)
  | write (node : Ref)

def payloadUse : Request → Option PayloadUse
  | .invoke made => some (.call made)
  | .writePayload node _ => some (.write node)
  | _ => none

/-- The handler calls and the writes to entries of a handling, in order. -/
def payloadUses (env : Env) (callback : Program edge Unit) (world : World) : List PayloadUse :=
  callback.observed (handle env) payloadUse world

/-- The length a handler is given; the notice handlers get none. -/
def HandlerCall.payloadLen? : HandlerCall → Option Int
  | normal _ _ _ _ payloadLen | rrpc _ _ _ _ payloadLen | nats _ _ _ payloadLen => some payloadLen
  | _ => none

/-- What a message handled by `_on_nats_message` is decoded to. -/
def natsDecoded (config : DriverConfig) (msg : NatsMsg) : Option Coded :=
  base64Decode config.charSign (some msg.data) msg.data.length

/-- A negative result keeps the payload from everyone, and any other one comes with the
number of bytes decoded. -/
structure ResultHeeded (env : Env) (callback : Program edge Unit) (decoded : Option Coded)
    (world : World) : Prop where
  refused : ∀ coded, decoded = some coded → coded.ret < 0 → payloadUses env callback world = []
  counted : ∀ coded, decoded = some coded → 0 ≤ coded.ret →
    ∀ made, .call made ∈ payloadUses env callback world →
      ∀ payloadLen : Int, made.payloadLen? = some payloadLen → payloadLen = coded.stores.length

/-- A local message is decoded and logged inside the buffers, and finds a client one of whose
handlers can be called. -/
def localReaches (config : DriverConfig) (env : Env) (world : World) (msg : NatsMsg) (coded : Coded) :
    Bool :=
  env.malloc (.buffer .msgBase64decode) && env.malloc (.listIterator .connDevice) &&
    decide coded.Fits && (config.cJsonParse msg.text).any fun msgJson =>
      let item (name : String) := (msgJson.getObjectItem name).bind CJson.valuestring
      env.logsFit (localLogs msg (item "topic") (item "deviceSN") (item "payload") coded) &&
        (item "deviceSN").any fun deviceSn =>
          (world.devices.find? (subdevClientMatch deviceSn)).any fun client =>
            (world.devices.value? client).any fun own =>
              own.rrpcMsgHandle.isNone || (item "topic").isSome

/-- A reply is logged inside the buffers, and finds the entry it names. -/
def replyReaches (config : DriverConfig) (env : Env) (world : World) (decoded : Bytes) : Bool :=
  env.malloc (.listIterator .requestid) &&
    (config.cJsonParse decoded).any fun reply =>
      ((reply.getObjectItem "RequestID").bind CJson.valuestring).any fun requestIdStr =>
        env.logFits "request_id_str:%s" [.str requestIdStr.bytes] &&
          (world.requests.find? (msgParseMatch (replyRequestId config requestIdStr))).isSome

/-- A broadcast is decoded and logged inside the buffers, and its topic leads to a handler
that is set or to an entry. -/
def broadcastReaches (config : DriverConfig) (env : Env) (world : World) (msg : NatsMsg)
    (coded : Coded) : Bool :=
  env.malloc (.buffer .msgBase64decode) && decide coded.Fits &&
    (config.cJsonParse msg.text).any fun msgJson =>
      let item (name : String) := (msgJson.getObjectItem name).bind CJson.valuestring
      env.logsFit (broadcastLogs msg (item "topic") (item "payload") coded) &&
        (item "topic").any fun topic =>
          let names (path : Bytes) := (strstr topic.bytes path).isSome
          if names (ascii "/subdev/topo/notify/add") || names (ascii "/subdev/topo/notify/delete") then
            config.edgeTopoHandle.isSome
          else if names (ascii "/subdev/enable") || names (ascii "/subdev/disable") then
            config.edgeSubdevStatusHandle.isSome
          else replyReaches config env world coded.text

def natsReaches (config : DriverConfig) (env : Env) (msg : NatsMsg) (coded : Coded) : Bool :=
  env.malloc (.buffer .msgBase64decode) && decide coded.Fits && env.logsFit (natsLogs msg coded) &&
    config.edgeNatsMsgHandle.isSome

/-- Every call in the list that hands over a length hands over this one. -/
def GivesLength (payloadLen : Int) (uses : List PayloadUse) : Prop :=
  ∀ made, .call made ∈ uses → ∀ given, made.payloadLen? = some given → given = payloadLen

variable {config : DriverConfig} {env : Env} {world : World} {msg : NatsMsg}

private theorem overlooks_payloadUse : Overlooks payloadUse :=
  ⟨fun _ _ _ => rfl, fun _ => rfl, fun _ => rfl, rfl⟩

/-- The result as such is handed on, so it is heeded exactly when a negative one reaches nobody. -/
private theorem resultHeeded_iff {callback : Program edge Unit} {decoded : Option Coded}
    {reaches : Coded → Bool} (ordered : ∀ coded, decoded = some coded → coded.Ordered 0)
    (uses : ∀ coded, decoded = some coded → GivesLength coded.ret (payloadUses env callback world) ∧
      (payloadUses env callback world = [] ↔ reaches coded = false)) :
    ResultHeeded env callback decoded world ↔
      ∀ coded, decoded = some coded → coded.ret < 0 → reaches coded = false := by
  constructor
  · intro heeded coded found negative
    exact (uses coded found).2.mp (heeded.refused coded found negative)
  · intro unreached
    constructor
    · intro coded found negative
      exact (uses coded found).2.mpr (unreached coded found negative)
    · intro coded found accepted made called payloadLen given
      rw [(uses coded found).1 made called payloadLen given, (ordered coded found).ret accepted,
        Nat.zero_add]

section Local

variable (env : Env) (topic : Option CString) (payload : Memory) (payloadLen : Int)

private theorem dispatchLocal_uses {client : Ref} {own : SubdevClient}
    (found : world.devices.value? client = some own) :
    GivesLength payloadLen (payloadUses env (dispatchLocal client topic payload payloadLen) world) ∧
      (payloadUses env (dispatchLocal client topic payload payloadLen) world = [] ↔
        (own.rrpcMsgHandle.isNone || topic.isSome) = false) := by
  obtain ⟨normal, normalSet⟩ := Option.isSome_iff_exists.mp own.normalSet
  rw [payloadUses, dispatchLocal.eq_def]
  cases rrpc : own.rrpcMsgHandle with
  | none =>
    simp [observed_bind, handled_readClient found, payloadUse, rrpc, normalSet, GivesLength,
      HandlerCall.payloadLen?]
  | some handler =>
    cases topic with
    | none => simp [observed_bind, handled_readClient found, payloadUse, rrpc, GivesLength]
    | some name =>
      by_cases named : edgeRrpcCheck name.bytes = .ok <;>
        simp [observed_bind, handled_readClient found, payloadUse, rrpc, normalSet, named, GivesLength,
          HandlerCall.payloadLen?]

/-- A search without a serial number finds nobody, if it ends. -/
private theorem deliverLocal_nobody (world : World) :
    payloadUses env (deliverLocal none topic payload payloadLen) world = [] := by
  rw [payloadUses, deliverLocal, observed_bind, handled_findInList]
  rcases run_find_nobody env world with unanswered | missed
  · simp [unanswered, payloadUse]
  · simp [missed, payloadUse]

private theorem deliverLocal_uses (world : World) (deviceSn : Option CString) :
    GivesLength payloadLen (payloadUses env (deliverLocal deviceSn topic payload payloadLen) world) ∧
      (payloadUses env (deliverLocal deviceSn topic payload payloadLen) world = [] ↔
        (env.malloc (.listIterator .connDevice) && deviceSn.any fun deviceSn =>
          (world.devices.find? (subdevClientMatch deviceSn)).any fun client =>
            (world.devices.value? client).any fun own =>
              own.rrpcMsgHandle.isNone || topic.isSome) = false) := by
  cases deviceSn with
  | none => simp [deliverLocal_nobody, GivesLength]
  | some deviceSn =>
    rw [payloadUses, deliverLocal, observed_bind, handled_findInList, run_find_connDevice]
    cases allocated : env.malloc (.listIterator .connDevice) with
    | false => simp [payloadUse, GivesLength]
    | true =>
      cases hit : world.devices.find? (subdevClientMatch deviceSn) with
      | none => simp [payloadUse, GivesLength, hit]
      | some client =>
        obtain ⟨own, present⟩ := Option.isSome_iff_exists.mp
          (Registry.value?_isSome.mpr (world.devices.entriesAllocated client (Registry.find?_mem hit)))
        let searched : World :=
          { world with devices := (searchList world.devices (subdevClientMatch deviceSn)).2 }
        have still : searched.devices.value? client = some own := by
          simpa [searched, searchList] using present
        simpa [payloadUse, present, payloadUses, hit] using
          dispatchLocal_uses env topic payload payloadLen still

end Local

private theorem local_uses {coded : Coded} (decoded : localDecoded config msg = some coded) :
    GivesLength coded.ret (payloadUses env (onLocalMessage config msg) world) ∧
      (payloadUses env (onLocalMessage config msg) world = [] ↔
        localReaches config env world msg coded = false) := by
  simp only [localDecoded, Option.bind_eq_bind, Option.bind_eq_some_iff, decodedItem] at decoded
  obtain ⟨msgJson, parsed, topic, topicItem, deviceSn, snItem, msgBase64code, payloadItem, code,
    codeText, decoded⟩ := decoded
  have uses := deliverLocal_uses env topic.valuestring (Memory.zero.storeAll coded.stores) coded.ret
    world deviceSn.valuestring
  rw [payloadUses, observed_onLocalMessage overlooks_payloadUse parsed topicItem snItem payloadItem
    codeText decoded]
  split
  · rename_i arrives
    simp only [Bool.and_eq_true, decide_eq_true_eq] at arrives
    simpa [localReaches, arrives, parsed, topicItem, snItem, payloadItem, payloadUses] using uses
  · rename_i stops
    simp only [localReaches, parsed, topicItem, snItem, payloadItem, GivesLength, Option.any_some,
      Option.bind_some, List.not_mem_nil, true_iff]
    grind

/-- A handler that is set is called once. -/
private theorem handler_uses (world : World) {handler : Option HandlerPtr}
    {call : HandlerPtr → HandlerCall} {payloadLen : Int} (measured : ∀ handler given,
      (call handler).payloadLen? = some given → given = payloadLen) :
    GivesLength payloadLen
        (payloadUses env (forM handler fun handler => invoke (call handler)) world) ∧
      (payloadUses env (forM handler fun handler => invoke (call handler)) world = [] ↔
        handler = none) := by
  cases handler with
  | none => exact ⟨fun made called => (by cases called), iff_of_true rfl rfl⟩
  | some handler => simpa [payloadUses, payloadUse, GivesLength] using measured handler

section Broadcast

private theorem run_find_requestid {requestId : UInt32} :
    (findInList .requestid requestId).run (handle env) world =
      some (if env.malloc (.listIterator .requestid) then
          (world.requests.find? (msgParseMatch requestId),
            { world with requests := (searchList world.requests (msgParseMatch requestId)).2 })
        else (none, world)) := by
  rw [handled_findInList, findInList, find, Program.run_call, respond]
  split <;> rfl

private theorem copy_uses {world : World} (node : Ref) (decoded : Bytes) (payloadLen : Int) :
    let uses := Program.observed (handle env) payloadUse (do
      writePayload node (consecutive 0 (decoded.take natsMsgMaxLen))
      writePayload node [(decoded.length, 0)]
      let payload ← readPayload node .log
      logWrite .debug "msg_parse_str->payload:%s" [.str payload]) world
    GivesLength payloadLen uses ∧ uses ≠ [] := by
  dsimp only
  constructor
  · rw [observed_bind]
    cases (writePayload node (consecutive 0 (decoded.take natsMsgMaxLen))).run (handle env) world with
    | none => simp [payloadUse, GivesLength]
    | some copied =>
      rw [Option.map_some, Option.getD_some, observed_bind]
      cases (writePayload node [(decoded.length, 0)]).run (handle env) copied.2 <;>
        simp [payloadUse, GivesLength, observed_bind]
  · simp [observed_bind, payloadUse]

/-- The entry a reply is for is written to, and no handler is called. -/
private theorem storeReply_uses (env : Env) (config : DriverConfig) (world : World) (decoded : Bytes)
    (payloadLen : Int) :
    GivesLength payloadLen (payloadUses env (storeReply config decoded) world) ∧
      (payloadUses env (storeReply config decoded) world = [] ↔
        replyReaches config env world decoded = false) := by
  rw [payloadUses, storeReply.eq_def, replyReaches]
  cases parsed : config.cJsonParse decoded with
  | none => simp [payloadUse, GivesLength]
  | some reply =>
    cases idItem : reply.getObjectItem "RequestID" with
    | none => simp [payloadUse, GivesLength, idItem]
    | some item =>
      cases idText : item.valuestring with
      | none => simp [payloadUse, GivesLength, idItem, idText, observed_bind]
      | some requestIdStr =>
        simp only [idItem, idText, Option.map_some, observed_log (overlooks_payloadUse.logWrite _ _ _),
          observed_bind, run_find_requestid]
        cases fits : env.logFits "request_id_str:%s" [printed (some requestIdStr)] with
        | false => simp [GivesLength, idItem, idText, show env.logFits _ [.str requestIdStr.bytes] = _ from fits]
        | true =>
          have inside : env.logFits "request_id_str:%s" [.str requestIdStr.bytes] = true := fits
          cases allocated : env.malloc (.listIterator .requestid) with
          | false => simp [payloadUse, GivesLength]
          | true =>
            cases found : world.requests.find? (msgParseMatch (replyRequestId config requestIdStr)) with
            | none => simp [payloadUse, GivesLength, found, idItem, idText]
            | some node =>
              simpa [payloadUse, found, idItem, idText, inside] using copy_uses node decoded payloadLen

private theorem broadcast_uses {coded : Coded} (decoded : broadcastDecoded config msg = some coded) :
    GivesLength coded.ret (payloadUses env (onBroadcastMessage config msg) world) ∧
      (payloadUses env (onBroadcastMessage config msg) world = [] ↔
        broadcastReaches config env world msg coded = false) := by
  simp only [broadcastDecoded, Option.bind_eq_bind, Option.bind_eq_some_iff, decodedItem] at decoded
  obtain ⟨msgJson, parsed, topic, topicItem, msgBase64code, payloadItem, code, codeText, decoded⟩ :=
    decoded
  rw [payloadUses, observed_onBroadcastMessage overlooks_payloadUse parsed topicItem payloadItem
    codeText decoded]
  split
  · rename_i arrives
    simp only [Bool.and_eq_true, decide_eq_true_eq] at arrives
    cases topicText : topic.valuestring with
    | none => simp [broadcastReaches, parsed, topicItem, payloadItem, topicText, GivesLength]
    | some name =>
      have reply := storeReply_uses env config world coded.text coded.ret
      rw [topicText] at arrives
      simp only [Option.map_some, Option.getD_some, observed_deliverBroadcast overlooks_payloadUse,
        broadcastReaches, arrives, parsed, topicItem, payloadItem, topicText, Option.any_some,
        Option.bind_some, Bool.or_eq_true, decide_true, Bool.true_and, Bool.and_true]
      split
      · rename_i add
        simpa [add, payloadUses] using handler_uses world fun _ _ given => by cases given
      · split
        · rename_i delete
          simpa [delete, payloadUses] using handler_uses world fun _ _ given => by cases given
        · split
          · rename_i enable
            simpa [*, payloadUses] using handler_uses world fun _ _ given => by cases given
          · split
            · simpa [*, payloadUses] using handler_uses world fun _ _ given => by cases given
            · simpa [*, payloadUses] using reply
  · rename_i stops
    simp only [broadcastReaches, parsed, topicItem, payloadItem, GivesLength, Option.any_some,
      Option.bind_some, List.not_mem_nil, true_iff]
    grind

end Broadcast

private theorem nats_uses {coded : Coded} (decoded : natsDecoded config msg = some coded) :
    GivesLength coded.ret (payloadUses env (onNatsMessage config msg) world) ∧
      (payloadUses env (onNatsMessage config msg) world = [] ↔
        natsReaches config env msg coded = false) := by
  rw [payloadUses, observed_onNatsMessage overlooks_payloadUse decoded, natsReaches]
  cases config.edgeNatsMsgHandle with
  | none => simp [GivesLength]
  | some handler =>
    split
    · rename_i arrives
      simp [arrives, payloadUse, GivesLength, HandlerCall.payloadLen?]
    · rename_i stops
      simpa [GivesLength] using stops

private theorem ordered_of_localDecoded {coded : Coded} (decoded : localDecoded config msg = some coded) :
    coded.Ordered 0 := by
  simp only [localDecoded, Option.bind_eq_bind, Option.bind_eq_some_iff] at decoded
  obtain ⟨_, -, _, -, _, -, _, -, decoded⟩ := decoded
  exact ordered_of_decoded decoded

private theorem ordered_of_broadcastDecoded {coded : Coded}
    (decoded : broadcastDecoded config msg = some coded) : coded.Ordered 0 := by
  simp only [broadcastDecoded, Option.bind_eq_bind, Option.bind_eq_some_iff] at decoded
  obtain ⟨_, -, _, -, _, -, decoded⟩ := decoded
  exact ordered_of_decoded decoded

/-- The callbacks heed the result of the decoder exactly on messages for which it is not
negative, or whose payload reaches no handler and no entry. -/
theorem decodeResult_heeded_iff (config : DriverConfig) (env : Env) (world : World) (msg : NatsMsg) :
    (ResultHeeded env (onLocalMessage config msg) (localDecoded config msg) world ↔
      ∀ coded, localDecoded config msg = some coded → coded.ret < 0 →
        localReaches config env world msg coded = false) ∧
    (ResultHeeded env (onBroadcastMessage config msg) (broadcastDecoded config msg) world ↔
      ∀ coded, broadcastDecoded config msg = some coded → coded.ret < 0 →
        broadcastReaches config env world msg coded = false) ∧
    (ResultHeeded env (onNatsMessage config msg) (natsDecoded config msg) world ↔
      ∀ coded, natsDecoded config msg = some coded → coded.ret < 0 →
        natsReaches config env msg coded = false) := by
  refine ⟨?_, ?_, ?_⟩
  · exact resultHeeded_iff (fun _ => ordered_of_localDecoded) fun _ => local_uses
  · exact resultHeeded_iff (fun _ => ordered_of_broadcastDecoded) fun _ => broadcast_uses
  · exact resultHeeded_iff (fun _ => base64Decode_ordered) fun _ => nats_uses

/-- A text that is not base64 reaches the handler with a length of -1. -/
theorem undecodable_reaches_handler : ¬ ∀ config env world msg,
    ResultHeeded env (onLocalMessage config msg) (localDecoded config msg) world ∧
      ResultHeeded env (onBroadcastMessage config msg) (broadcastDecoded config msg) world ∧
      ResultHeeded env (onNatsMessage config msg) (natsDecoded config msg) world := by
  intro always
  let listening : DriverConfig := { DriverConfig.plain with edgeNatsMsgHandle := some 1 }
  let msg : NatsMsg := ⟨.literal "edge.app", ascii "aG*="⟩
  have decoded : natsDecoded listening msg = some ⟨-1, []⟩ := by decide +kernel
  have heeded := (always listening .calm .initial msg).2.2
  have reached : natsReaches listening .calm msg ⟨-1, []⟩ = false :=
    (nats_uses decoded).2.mp (heeded.refused _ decoded (by decide))
  exact absurd reached (by decide +kernel)

end IotstackDriver.Edge
