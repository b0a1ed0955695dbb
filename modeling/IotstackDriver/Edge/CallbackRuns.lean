import IotstackDriver.Edge.Callbacks
import IotstackDriver.Edge.Observed

/-! The callbacks from the moment their message is decoded. They get there when the text fits
its buffer and the logs on the way fit theirs. -/

namespace IotstackDriver.Edge

open Libc Support Program

/-- Nothing is observed of the logs, the allocations and the releases. -/
structure Overlooks (observe : Request → Option ω) : Prop where
  logWrite : ∀ level text args, observe (.logWrite level text args) = none
  malloc : ∀ site, observe (.malloc site) = none
  free : ∀ resource, observe (.free resource) = none
  fault : observe .fault = none

variable {observe : Request → Option ω} {config : DriverConfig} {env : Env} {world : World}
  {msg : NatsMsg} {msgJson topic deviceSn msgBase64code : CJson} {code name : CString} {coded : Coded}

private theorem observed_frees (overlooks : Overlooks observe) (program : Program edge Unit)
    (first second third : Resource) : (program >>= fun _ => do
      free first
      free second
      free third : Program edge Unit).observed (handle env) observe world =
      program.observed (handle env) observe world := by
  refine observed_bind_unseen (fun _ => ?_) world
  exact ⟨overlooks.free _, fun _ => ⟨overlooks.free _, fun _ => ⟨overlooks.free _, fun _ => trivial⟩⟩⟩

private theorem observed_decoded (overlooks : Overlooks observe) {next : Coded → Program edge Unit}
    {text : Bytes} {inlen : Int} (decoded : base64Decode config.charSign (some text) inlen = some coded) :
    (base64DecodeMsg config text inlen >>= next).observed (handle env) observe world =
      if coded.Fits then (next coded).observed (handle env) observe world else [] := by
  split
  · rename_i fits
    rw [base64DecodeMsg_fits decoded fits]
    rfl
  · rename_i long
    rw [base64DecodeMsg_long decoded long, observed_bind]
    simp [overlooks.fault]

theorem observed_onLocalMessage (overlooks : Overlooks observe)
    (parsed : config.cJsonParse msg.text = some msgJson)
    (topicItem : msgJson.getObjectItem "topic" = some topic)
    (snItem : msgJson.getObjectItem "deviceSN" = some deviceSn)
    (payloadItem : msgJson.getObjectItem "payload" = some msgBase64code)
    (codeText : msgBase64code.valuestring = some code)
    (decoded : base64Decode config.charSign (some code.bytes) code.strlen = some coded) :
    (onLocalMessage config msg).observed (handle env) observe world =
      if env.malloc (.buffer .msgBase64decode) && decide coded.Fits && env.logsFit
          (localLogs msg topic.valuestring deviceSn.valuestring msgBase64code.valuestring coded) then
        (deliverLocal deviceSn.valuestring topic.valuestring (Memory.zero.storeAll coded.stores)
          coded.ret).observed (handle env) observe world
      else [] := by
  rw [onLocalMessage, observed_log (overlooks.logWrite ..), parsed]
  simp only [topicItem, snItem, payloadItem, observed_log (overlooks.logWrite _ _ _), codeText,
    observed_alloc (overlooks.malloc _), base64DecodeString]
  cases allocated : env.malloc (.buffer .msgBase64decode) with
  | false => simp [observed_bind, overlooks.free, overlooks.logWrite]
  | true =>
    simp only [Bool.not_true, Bool.false_eq_true, ↓reduceIte, observed_decoded overlooks decoded,
      observed_log (overlooks.logWrite _ _ _), observed_frees overlooks, Env.logsFit, localLogs,
      List.all_cons, List.all_nil]
    grind

/-- The branches of `_on_broadcast_message`. -/
def deliverBroadcast (config : DriverConfig) (topic : CString) (payload : Memory) (text : Bytes) :
    Program edge Unit :=
  if (strstr topic.bytes (ascii "/subdev/topo/notify/add")).isSome then do
    logWrite .debug "add topo" []
    config.edgeTopoHandle.forM fun handler => invoke (.topoNotify handler .add payload)
  else if (strstr topic.bytes (ascii "/subdev/topo/notify/delete")).isSome then do
    logWrite .debug "delete topo" []
    config.edgeTopoHandle.forM fun handler => invoke (.topoNotify handler .delete payload)
  else if (strstr topic.bytes (ascii "/subdev/enable")).isSome then do
    logWrite .debug "enable subdev" []
    config.edgeSubdevStatusHandle.forM fun handler => invoke (.subdevStatus handler .enable payload)
  else if (strstr topic.bytes (ascii "/subdev/disable")).isSome then do
    logWrite .debug "disable subdev" []
    config.edgeSubdevStatusHandle.forM fun handler => invoke (.subdevStatus handler .disable payload)
  else
    storeReply config text

/-- The logs of the notices fit. -/
theorem observed_deliverBroadcast (overlooks : Overlooks observe) {name : CString} {payload : Memory}
    {text : Bytes} : (deliverBroadcast config name payload text).observed (handle env) observe world =
      if (strstr name.bytes (ascii "/subdev/topo/notify/add")).isSome then
        (config.edgeTopoHandle.forM fun handler =>
          invoke (.topoNotify handler .add payload)).observed (handle env) observe world
      else if (strstr name.bytes (ascii "/subdev/topo/notify/delete")).isSome then
        (config.edgeTopoHandle.forM fun handler =>
          invoke (.topoNotify handler .delete payload)).observed (handle env) observe world
      else if (strstr name.bytes (ascii "/subdev/enable")).isSome then
        (config.edgeSubdevStatusHandle.forM fun handler =>
          invoke (.subdevStatus handler .enable payload)).observed (handle env) observe world
      else if (strstr name.bytes (ascii "/subdev/disable")).isSome then
        (config.edgeSubdevStatusHandle.forM fun handler =>
          invoke (.subdevStatus handler .disable payload)).observed (handle env) observe world
      else (storeReply config text).observed (handle env) observe world := by
  have add : env.logFits "add topo" [] = true := logFits_of_inside (by decide +kernel)
  have delete : env.logFits "delete topo" [] = true := logFits_of_inside (by decide +kernel)
  have enable : env.logFits "enable subdev" [] = true := logFits_of_inside (by decide +kernel)
  have disable : env.logFits "disable subdev" [] = true := logFits_of_inside (by decide +kernel)
  simp only [deliverBroadcast, observed_ite, observed_log (overlooks.logWrite _ _ _), add, delete,
    enable, disable, ↓reduceIte]

theorem observed_onBroadcastMessage (overlooks : Overlooks observe)
    (parsed : config.cJsonParse msg.text = some msgJson)
    (topicItem : msgJson.getObjectItem "topic" = some topic)
    (payloadItem : msgJson.getObjectItem "payload" = some msgBase64code)
    (codeText : msgBase64code.valuestring = some code)
    (decoded : base64Decode config.charSign (some code.bytes) code.strlen = some coded) :
    (onBroadcastMessage config msg).observed (handle env) observe world =
      if env.malloc (.buffer .msgBase64decode) && decide coded.Fits && env.logsFit
          (broadcastLogs msg topic.valuestring msgBase64code.valuestring coded) then
        (topic.valuestring.map fun name => (deliverBroadcast config name
          (Memory.zero.storeAll coded.stores) coded.text).observed (handle env) observe world).getD []
      else [] := by
  rw [onBroadcastMessage, observed_log (overlooks.logWrite ..), parsed]
  simp only [topicItem, payloadItem, observed_log (overlooks.logWrite _ _ _), codeText,
    observed_alloc (overlooks.malloc _), base64DecodeString]
  cases allocated : env.malloc (.buffer .msgBase64decode) with
  | false => simp [observed_bind, overlooks.free, overlooks.logWrite]
  | true =>
    cases topic.valuestring with
    | none =>
      simp [observed_decoded overlooks decoded, observed_log (overlooks.logWrite _ _ _), observed_bind,
        overlooks.fault]
    | some name =>
      simp only [Bool.not_true, Bool.false_eq_true, ↓reduceIte, observed_decoded overlooks decoded,
        observed_log (overlooks.logWrite _ _ _), observed_frees overlooks, Env.logsFit, broadcastLogs,
        List.all_cons, List.all_nil, observed_ite, deliverBroadcast]
      grind

theorem observed_onNatsMessage (overlooks : Overlooks observe)
    (decoded : base64Decode config.charSign (some msg.data) msg.data.length = some coded) :
    (onNatsMessage config msg).observed (handle env) observe world =
      if env.malloc (.buffer .msgBase64decode) && decide coded.Fits &&
          env.logsFit (natsLogs msg coded) then
        (config.edgeNatsMsgHandle.bind fun handler => observe
          (.invoke (.nats handler msg.subject (Memory.zero.storeAll coded.stores) coded.ret))).toList
      else [] := by
  rw [onNatsMessage, observed_log (overlooks.logWrite ..)]
  simp only [observed_alloc (overlooks.malloc _)]
  cases allocated : env.malloc (.buffer .msgBase64decode) with
  | false => simp [overlooks.logWrite, observed_bind]
  | true =>
    have handled : (config.edgeNatsMsgHandle.forM (fun handler => invoke
        (.nats handler msg.subject (Memory.zero.storeAll coded.stores) coded.ret)) >>= fun _ =>
          free (.buffer .msgBase64decode)).observed (handle env) observe world =
        (config.edgeNatsMsgHandle.bind fun handler => observe
          (.invoke (.nats handler msg.subject (Memory.zero.storeAll coded.stores) coded.ret))).toList := by
      cases config.edgeNatsMsgHandle <;> simp [observed_bind, overlooks.free]
    simp only [Bool.not_true, Bool.false_eq_true, ↓reduceIte, observed_decoded overlooks decoded,
      observed_log (overlooks.logWrite _ _ _), Env.logsFit, natsLogs, List.all_cons, List.all_nil]
    rw [← handled]
    grind

end IotstackDriver.Edge
