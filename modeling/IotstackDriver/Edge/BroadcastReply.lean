import IotstackDriver.Edge.Calls
import IotstackDriver.Edge.Observed
import IotstackDriver.Edge.Callbacks
import IotstackDriver.Edge.Decoder

/-! What `_on_broadcast_message` does to the entries of `requestid_list`, handled as one
step: a reply is stored in the first entry that has its id. -/

namespace IotstackDriver.Edge

open Libc Support

/-- The id a decoded text names, with the text. -/
def decodedReply (config : DriverConfig) (decoded : Bytes) : Option (UInt32 × Bytes) := do
  let msgBase64decodeJson ← config.cJsonParse decoded
  let requestId ← (← msgBase64decodeJson.getObjectItem "RequestID").valuestring
  some (replyRequestId config requestId, decoded)

/-- The id and the decoded text of a broadcast that is handled as a reply. -/
def broadcastReply (config : DriverConfig) (msg : NatsMsg) : Option (UInt32 × Bytes) := do
  let msgJson ← config.cJsonParse msg.text
  let topic ← (← msgJson.getObjectItem "topic").valuestring
  let msgBase64code ← (← msgJson.getObjectItem "payload").valuestring
  let coded ← base64Decode config.charSign (some msgBase64code.bytes) msgBase64code.strlen
  if noticeTopics.any fun notice => (strstr topic.bytes notice).isSome then none
  else decodedReply config coded.text

/-- The two stores of a reply's text. -/
def MsgParse.storeReply (entry : MsgParse) (text : Bytes) : MsgParse :=
  (entry.storeAll (consecutive 0 (text.take natsMsgMaxLen))).storeAll [(text.length, 0)]

/-- A reply's text was stored in this entry. -/
structure StoredIn (node : Ref) (text : Bytes) (before after : Registry MsgParse) : Prop where
  entries : after.entries = before.entries
  size : after.size = before.size
  live : after.live = before.live
  value? : ∀ ref, after.value? ref =
    if ref = node then (before.value? ref).map fun entry => entry.storeReply text
    else before.value? ref
  fits : text.length < natsMsgMaxLen

/-- What handling a broadcast with this reply, if any, does to the entries. -/
def Stores (reply : Option (UInt32 × Bytes)) (before after : Registry MsgParse) : Prop :=
  match reply.bind fun reply =>
    (before.find? (msgParseMatch reply.1)).map fun node => (node, reply.2) with
  | none => SameContent before after
  | some (node, text) => StoredIn node text before after

variable {config : DriverConfig} {env : Env} {world : World}

/-- A notice goes to its handler, if one is set, and to no entry. -/
private theorem ends_notice (handler : Option HandlerPtr) (call : HandlerPtr → HandlerCall)
    {msg : NatsMsg} (notice : broadcastReply config msg = none) :
    Ends env False (handler.forM fun handler => invoke (call handler))
      (fun _ final => Stores (broadcastReply config msg) world.requests final.requests) world := by
  have same : Stores (broadcastReply config msg) world.requests world.requests := by
    rw [notice]
    exact SameContent.refl world.requests
  cases handler with
  | none => exact same
  | some handler => exact ends_invoke.mpr same

private theorem storeReply_ends (allocates : ∀ site, env.malloc site = true) (decoded : Bytes) :
    Ends env False (storeReply config decoded)
      (fun _ final => Stores (decodedReply config decoded) world.requests final.requests) world := by
  rw [storeReply.eq_def]
  cases parsed : config.cJsonParse decoded with
  | none => simp [Stores, decodedReply, parsed, SameContent.refl]
  | some document =>
    cases item : document.getObjectItem "RequestID" with
    | none => simp [item]
    | some requestIdJson =>
      cases text : requestIdJson.valuestring with
      | none => simp [item, text]
      | some requestIdStr =>
        have reply : decodedReply config decoded = some (replyRequestId config requestIdStr, decoded) := by
          simp [decodedReply, parsed, item, text]
        simp only [item, Option.map_some, text, ends_bind, ends_logWrite, ends_free, findInList,
          ends_find_requestid, allocates, ↓reduceIte, Stores, reply, Option.bind_some]
        cases found : world.requests.find? (msgParseMatch (replyRequestId config requestIdStr)) with
        | none =>
          simp only [ends_logWrite, Option.map_none]
          exact ⟨by simp [searchList], by simp [searchList], by simp [searchList]⟩
        | some node =>
          simp only [ends_bind, ends_writePayload, ends_readPayload, ends_logWrite, Option.map_some]
          intro _ _ _ _ _ last _ _
          have fits : decoded.length < natsMsgMaxLen := by simpa using last
          refine ⟨by simp [searchList], by simp [searchList], ?_, ?_, fits⟩
          · funext ref
            simp [searchList]
          · intro ref
            by_cases same : ref = node
            · simp [same, searchList, Registry.modify_value?, Function.comp_def, MsgParse.storeReply]
            · simp [same, searchList, Registry.modify_value?]

/-- Handling a broadcast, whatever it holds, finds at most one entry and stores at most
one text. -/
theorem onBroadcastMessage_ends (config : DriverConfig) (msg : NatsMsg)
    (allocates : ∀ site, env.malloc site = true) :
    Ends env False (onBroadcastMessage config msg)
      (fun _ final => Stores (broadcastReply config msg) world.requests final.requests) world := by
  simp only [onBroadcastMessage, ends_bind, ends_logWrite]
  cases parsed : config.cJsonParse msg.text with
  | none => simp [Stores, broadcastReply, parsed, SameContent.refl]
  | some msgJson =>
    cases topicItem : msgJson.getObjectItem "topic" with
    | none => simp [topicItem, Stores, broadcastReply, parsed, SameContent.refl]
    | some topic =>
      cases payloadItem : msgJson.getObjectItem "payload" with
      | none =>
        cases name : topic.valuestring <;>
          simp [topicItem, payloadItem, name, Stores, broadcastReply, parsed, SameContent.refl]
      | some msgBase64code =>
        simp only [topicItem, payloadItem, ends_bind, ends_logWrite, ends_malloc, allocates,
          Bool.not_true, Bool.false_eq_true, ↓reduceIte]
        cases codeText : msgBase64code.valuestring with
        | none => exact ends_fault
        | some code =>
          cases decoded : base64Decode config.charSign (some code.bytes) code.strlen with
          | none => simp [base64DecodeString, base64DecodeMsg_none decoded]
          | some coded =>
            by_cases fits : coded.Fits
            case neg => simp [base64DecodeString, base64DecodeMsg_long decoded fits]
            cases topicText : topic.valuestring with
            | none => simp [base64DecodeString, base64DecodeMsg_fits decoded fits]
            | some name =>
              have reply : broadcastReply config msg =
                  if noticeTopics.any fun notice => (strstr name.bytes notice).isSome then none
                  else decodedReply config coded.text := by
                simp only [broadcastReply, parsed, topicItem, payloadItem, topicText, codeText, decoded,
                  Option.bind_eq_bind, Option.bind_some]
              simp only [base64DecodeString, base64DecodeMsg_fits decoded fits, ends_pure, ends_ite, ends_bind, ends_logWrite,
                ends_free]
              apply broadcast_branches (motive := id)
              · intro notice
                rw [if_pos notice] at reply
                refine ⟨?_, ?_, ?_, ?_⟩ <;> exact ends_notice _ _ reply
              · intro other
                rw [if_neg (Bool.not_eq_true _ ▸ other)] at reply
                rw [reply]
                exact storeReply_ends allocates coded.text

/-- The steps of a reply's handling up to the search for its entry. -/
private theorem broadcastReply_cases {msg : NatsMsg} {requestId : UInt32} {text : Bytes}
    (reply : broadcastReply config msg = some (requestId, text)) :
    ∃ msgJson topic name msgBase64code code coded,
      config.cJsonParse msg.text = some msgJson ∧ msgJson.getObjectItem "topic" = some topic ∧
      topic.valuestring = some name ∧ msgJson.getObjectItem "payload" = some msgBase64code ∧
      msgBase64code.valuestring = some code ∧
      base64Decode config.charSign (some code.bytes) code.strlen = some coded ∧
      (∀ notice ∈ noticeTopics, (strstr name.bytes notice).isSome = false) ∧
      decodedReply config coded.text = some (requestId, text) := by
  simp only [broadcastReply, Option.bind_eq_bind, Option.bind_eq_some_iff] at reply
  obtain ⟨msgJson, parsed, topic, topicItem, name, topicText, msgBase64code, payloadItem, code,
    codeText, coded, decoded, reply⟩ := reply
  split at reply
  · cases reply
  · rename_i other
    refine ⟨msgJson, topic, name, msgBase64code, code, coded, parsed, topicItem, topicText,
      payloadItem, codeText, decoded, ?_, reply⟩
    simpa using other

private theorem decodedReply_cases {decoded text : Bytes} {requestId : UInt32}
    (reply : decodedReply config decoded = some (requestId, text)) :
    ∃ document item requestIdStr, config.cJsonParse decoded = some document ∧
      document.getObjectItem "RequestID" = some item ∧ item.valuestring = some requestIdStr ∧
      replyRequestId config requestIdStr = requestId ∧ decoded = text := by
  simp only [decodedReply, Option.bind_eq_bind, Option.bind_eq_some_iff, Option.some.injEq,
    Prod.mk.injEq] at reply
  obtain ⟨document, parsed, item, found, requestIdStr, text, same⟩ := reply
  exact ⟨document, item, requestIdStr, parsed, found, text, same⟩

theorem broadcastReply_noNul {msg : NatsMsg} {requestId : UInt32} {text : Bytes}
    (reply : broadcastReply config msg = some (requestId, text)) : 0 ∉ text := by
  obtain ⟨_, _, _, _, _, coded, -, -, -, -, -, -, -, reply⟩ := broadcastReply_cases reply
  obtain ⟨_, _, _, -, -, -, -, same⟩ := decodedReply_cases reply
  rw [← same]
  exact cString_noNul _ _

/-- A store inside the buffer of an allocated entry goes through. -/
private theorem writePayload_completes {node : Ref} {stores : List (Nat × UInt8)}
    {next : Unit → Program edge Unit} (present : node < world.requests.size)
    (inside : ∀ store ∈ stores, store.1 < natsMsgMaxLen)
    (rest : ∀ after : World, after.requests.size = world.requests.size →
      ∃ final, (next ()).run (respond env) after = some ((), final)) :
    ∃ final, (writePayload node stores >>= next).run (respond env) world = some ((), final) := by
  obtain ⟨own, found⟩ := Option.isSome_iff_exists.mp (Registry.value?_isSome.mpr present)
  have checks : (stores.all fun store => decide (store.1 < natsMsgMaxLen)) = true := by
    simpa using inside
  obtain ⟨final, ran⟩ := rest { world with
    requests := (world.requests.touch node).modify node fun entry => entry.storeAll stores } (by simp)
  refine ⟨final, ?_⟩
  rw [Program.run_bind, writePayload, Program.run_call, respond, found]
  simp only [Option.bind_eq_bind, Option.bind_some, checks, ↓reduceIte]
  exact ran

private theorem readPayload_completes {node : Ref} {look : Look} {next : Bytes → Program edge Unit}
    (present : node < world.requests.size)
    (rest : ∀ payload after, ∃ final, (next payload).run (respond env) after = some ((), final)) :
    ∃ final, (readPayload node look >>= next).run (respond env) world = some ((), final) := by
  obtain ⟨own, found⟩ := Option.isSome_iff_exists.mp (Registry.value?_isSome.mpr present)
  rw [Program.run_bind, readPayload, Program.run_call, respond, found]
  exact rest _ _

private theorem storeReply_completes (world : World) (allocates : ∀ site, env.malloc site = true)
    {decoded text : Bytes} {requestId : UInt32} (reply : decodedReply config decoded = some (requestId, text))
    (fits : text.length < natsMsgMaxLen) :
    ∃ final, (storeReply config decoded).run (respond env) world = some ((), final) := by
  obtain ⟨document, item, requestIdStr, parsed, found, named, -, rfl⟩ := decodedReply_cases reply
  simp only [storeReply.eq_def, parsed, found, Option.map_some, named, Program.run_bind, run_logWrite,
    run_free, run_findInList allocates, Option.bind_some]
  cases hit : world.requests.find? (msgParseMatch (replyRequestId config requestIdStr)) with
  | none => exact ⟨_, rfl⟩
  | some node =>
    have present : node < world.requests.size :=
      world.requests.entriesAllocated node (Registry.find?_mem hit)
    have inside : ∀ store ∈ consecutive 0 (decoded.take natsMsgMaxLen), store.1 < natsMsgMaxLen := by
      intro store member
      have bound := mem_consecutive member
      rw [List.length_take] at bound
      omega
    have last : ∀ store ∈ [(decoded.length, (0 : UInt8))], store.1 < natsMsgMaxLen := by
      simpa using fits
    refine writePayload_completes (by simpa [searchList] using present) inside fun copied size => ?_
    refine writePayload_completes (by simpa [size, searchList] using present) last fun ended later => ?_
    apply readPayload_completes (by simpa [later, size, searchList] using present)
    exact fun payload after => ⟨after, run_logWrite ..⟩

/-- A reply that fits the buffer is handled to the end, if the logs on the way fit theirs. -/
theorem onBroadcastMessage_completes (world : World) (allocates : ∀ site, env.malloc site = true)
    {msg : NatsMsg} {requestId : UInt32} {text : Bytes}
    (reply : broadcastReply config msg = some (requestId, text))
    (fits : ∀ coded, broadcastDecoded config msg = some coded → coded.Fits)
    (logs : LogsFit env (onBroadcastMessage config msg) world) :
    ∃ final, (onBroadcastMessage config msg).run (handle env) world = some ((), final) := by
  obtain ⟨msgJson, topic, name, msgBase64code, code, coded, parsed, topicItem, topicText,
    payloadItem, codeText, decoded, other, reply⟩ := broadcastReply_cases reply
  have fits : coded.Fits := fits coded (by
    simp [broadcastDecoded, decodedItem, parsed, topicItem, payloadItem, codeText, decoded])
  have short : text.length < natsMsgMaxLen := by
    obtain ⟨_, _, _, -, -, -, -, rfl⟩ := decodedReply_cases reply
    exact Nat.lt_of_le_of_lt (base64Decode_ordered decoded).text_length fits
  obtain ⟨final, stored⟩ := storeReply_completes world allocates reply short
  rw [logs.run]
  simp only [noticeTopics, List.mem_cons, List.not_mem_nil, or_false, forall_eq_or_imp, forall_eq] at other
  obtain ⟨first, second, third, fourth⟩ := other
  refine ⟨final, ?_⟩
  simp only [onBroadcastMessage, Program.run_bind, run_logWrite, Option.bind_some, parsed, topicItem,
    payloadItem, run_malloc, allocates, Bool.not_true, Bool.false_eq_true, ↓reduceIte,
    base64DecodeString, codeText, base64DecodeMsg_fits decoded fits, topicText, first, second, third,
    fourth, run_free]
  rw [show (pure coded : Program edge Coded).run (respond env) world = some (coded, world) from rfl,
    Option.bind_some, stored, Option.bind_some]

/-- A stored text is the string the buffer holds from then on. -/
theorem storeReply_payload (entry : MsgParse) {text : Bytes} (noNul : 0 ∉ text)
    (fits : text.length < natsMsgMaxLen) :
    (entry.storeReply text).payload.cString natsMsgMaxLen = text := by
  have whole : text.take natsMsgMaxLen = text := List.take_of_length_le (Nat.le_of_lt fits)
  have stored : (entry.storeReply text).payload =
      (entry.payload.storeAll (consecutive 0 text)).store text.length 0 := by
    rw [MsgParse.storeReply, whole]
    rfl
  rw [stored]
  refine cString_of_terminated (fun k inside => ?_) ?_ noNul fits
  · rw [Memory.store, Function.update_of_ne (Nat.ne_of_lt inside), storeAll_consecutive]
    simp [inside]
  · rw [Memory.store, Function.update_self]

/-- A driver whose parser knows one broadcast and the reply in it, to the id 0. -/
def DriverConfig.answering : DriverConfig :=
  { DriverConfig.plain with
    cJsonParse := fun text =>
      if text = ascii "reply" then
        some (.object [(.literal "topic", .string (.literal "/t")),
          (.literal "payload", .string (.literal "cg=="))])
      else if text = ascii "r" then some (.object [(.literal "RequestID", .string (.literal "0"))])
      else none }

def NatsMsg.answer : NatsMsg := ⟨.literal "edge.local.broadcast", ascii "reply"⟩

end IotstackDriver.Edge
