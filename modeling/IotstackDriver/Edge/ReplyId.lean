import IotstackDriver.Libc.Numerals
import IotstackDriver.Edge.BroadcastReply
import IotstackDriver.Edge.CallbackRuns
import IotstackDriver.Edge.Issued

/-! The request a reply is taken for: the id `_on_broadcast_message` reads from the
`RequestID` of a reply, and the texts that stand for one id. -/

namespace IotstackDriver.Edge

open Libc Support Program

/-- The `RequestID` string of a broadcast that is handled as a reply, where the decoded text
and the logs before the search fit. -/
def carriedId (config : DriverConfig) (env : Env) (msg : NatsMsg) : Option CString := do
  let msgJson ← config.cJsonParse msg.text
  let topic ← (← msgJson.getObjectItem "topic").valuestring
  let msgBase64code ← (← msgJson.getObjectItem "payload").valuestring
  let coded ← base64Decode config.charSign (some msgBase64code.bytes) msgBase64code.strlen
  if noticeTopics.any fun notice => (strstr topic.bytes notice).isSome then none
  else if coded.Fits ∧ env.logsFit (broadcastLogs msg (some topic) (some msgBase64code) coded) then do
    let msgBase64decodeJson ← config.cJsonParse coded.text
    let requestIdStr ← (← msgBase64decodeJson.getObjectItem "RequestID").valuestring
    if env.logFits "request_id_str:%s" [.str requestIdStr.bytes] then some requestIdStr else none
  else none

/-- The id a search of `requestid_list` is made for. -/
def searchedId : Request → Option UInt32
  | .find .requestid requestId => some requestId
  | _ => none

/-- The ids a broadcast's handling looks for among the waiting requests. -/
def identifiedIds (config : DriverConfig) (env : Env) (msg : NatsMsg) (world : World) : List UInt32 :=
  (onBroadcastMessage config msg).observed (handle env) searchedId world

variable {config : DriverConfig} {env : Env} {world : World} {msg : NatsMsg} {requestIdStr : CString}

private theorem overlooks_searchedId : Overlooks searchedId :=
  ⟨fun _ _ _ => rfl, fun _ => rfl, fun _ => rfl, rfl⟩

/-- The search for the entry, and no other on any path. -/
private theorem observed_storeReply {decoded : Bytes} {document item : CJson}
    (parsed : config.cJsonParse decoded = some document)
    (found : document.getObjectItem "RequestID" = some item)
    (text : item.valuestring = some requestIdStr)
    (fits : env.logFits "request_id_str:%s" [.str requestIdStr.bytes] = true) :
    (storeReply config decoded).observed (handle env) searchedId world =
      [replyRequestId config requestIdStr] := by
  rw [storeReply.eq_def, parsed]
  simp only [found, Option.map_some, text]
  rw [observed_log rfl, printed, if_pos fits, observed_bind, observed_free, handled_free,
    Option.map_some, Option.getD_some, observed_bind_unseen, observed_findInList]
  · rfl
  · intro node
    cases node <;> simp [searchedId]

/-- A reply that carries an id is looked up under the number `atol` reads from it. -/
theorem identifiedIds_eq (allocates : ∀ site, env.malloc site = true)
    (carries : carriedId config env msg = some requestIdStr) :
    identifiedIds config env msg world = [replyRequestId config requestIdStr] := by
  simp only [carriedId, Option.bind_eq_bind, Option.bind_eq_some_iff] at carries
  obtain ⟨msgJson, parsed, topic, topicItem, name, topicText, msgBase64code, payloadItem, code,
    codeText, coded, decoded, carries⟩ := carries
  split at carries
  · cases carries
  · rename_i other
    split at carries
    · rename_i fits
      obtain ⟨document, innerParsed, item, found, idText, text, carries⟩ :
          ∃ document, config.cJsonParse coded.text = some document ∧ ∃ item,
            document.getObjectItem "RequestID" = some item ∧ ∃ idText, item.valuestring = some idText ∧
              (if env.logFits "request_id_str:%s" [.str idText.bytes] then some idText else none) =
                some requestIdStr := by
        simpa only [Option.bind_eq_some_iff] using carries
      obtain ⟨idLogged, ⟨⟩⟩ := Option.ite_none_right_eq_some.mp carries
      simp only [noticeTopics, List.any_cons, List.any_nil, Bool.or_false, Bool.or_eq_true,
        not_or, Bool.not_eq_true] at other
      obtain ⟨first, second, third, fourth⟩ := other
      rw [identifiedIds, observed_onBroadcastMessage overlooks_searchedId parsed topicItem payloadItem
        codeText decoded, topicText, codeText, allocates, if_pos (by simp [fits]), Option.map_some,
        Option.getD_some, observed_deliverBroadcast overlooks_searchedId]
      simp [first, second, third, fourth, observed_storeReply innerParsed found text idLogged]
    · cases carries

private theorem mem_identifiedIds_iff (world : World) (allocates : ∀ site, env.malloc site = true)
    (carries : carriedId config env msg = some requestIdStr) (requestId : UInt32) :
    requestId ∈ identifiedIds config env msg world ↔
      saturated config.longBits (leadingInteger requestIdStr.bytes) % 2 ^ 32 = requestId.toNat := by
  rw [identifiedIds_eq allocates carries, List.mem_singleton, eq_comm, replyRequestId, ofInt_eq_iff,
    atol_eq]

/-- A reply is taken for the request whose id is congruent, modulo 2^32, to the integer
its `RequestID` begins with, as far as `long` holds that integer; the text that `%u`
prints for an id stands for that id only. -/
theorem reply_identified_iff (config : DriverConfig) (env : Env) (world : World) (msg : NatsMsg)
    (requestIdStr : CString) (requestId : UInt32) (allocates : ∀ site, env.malloc site = true)
    (carries : carriedId config env msg = some requestIdStr)
    (width : config.longBits = 64 ∨
      config.longBits = 32 ∧ InLong 32 (leadingInteger requestIdStr.bytes)) :
    (requestId ∈ identifiedIds config env msg world ↔
      saturated config.longBits (leadingInteger requestIdStr.bytes) % 2 ^ 32 = requestId.toNat) ∧
    ∀ printedId : UInt32, requestIdStr.bytes = decimal printedId.toNat →
      (requestId ∈ identifiedIds config env msg world ↔ requestId = printedId) := by
  have taken := mem_identifiedIds_iff world allocates carries requestId
  refine ⟨taken, fun printedId prints => ?_⟩
  have bound : printedId.toNat < 2 ^ 32 := printedId.toNat_lt
  have read : leadingInteger requestIdStr.bytes = printedId.toNat := by
    rw [prints, leadingInteger_decimal]
  have held : saturated config.longBits printedId.toNat = printedId.toNat := by
    rcases width with wide | ⟨narrow, inside⟩
    · rw [wide]
      exact saturated_of_inLong ⟨by omega, by omega⟩
    · rw [narrow]
      exact saturated_of_inLong (read ▸ inside)
  rw [taken, read, held, ← UInt32.toNat_inj]
  omega

theorem reply_identified_iff_answer : (0 : UInt32) ∈ identifiedIds .answering .calm .answer .initial := by
  have carries : carriedId .answering .calm .answer = some (.literal "0") := by decide +kernel
  have settled := reply_identified_iff .answering .calm .initial .answer (.literal "0") 0
    (fun _ => rfl) carries (.inl rfl)
  exact (settled.2 0 (by decide +kernel)).mpr rfl

/-- A parser that reads an id after a space in the reply. -/
private def padded : DriverConfig :=
  { DriverConfig.answering with
    cJsonParse := fun text =>
      if text = ascii "r" then some (.object [(.literal "RequestID", .string (.literal " 7"))])
      else DriverConfig.answering.cJsonParse text }

/-- White space before the digits, among others, is accepted. -/
theorem reply_identified_padded : ¬ ∀ (config : DriverConfig) (env : Env) (world : World)
    (msg : NatsMsg) (requestIdStr : CString) (requestId : UInt32),
    config.longBits = 64 ∨ config.longBits = 32 → (∀ site, env.malloc site = true) →
      carriedId config env msg = some requestIdStr →
        (requestId ∈ identifiedIds config env msg world ↔ requestIdStr.bytes = decimal requestId.toNat) := by
  intro always
  have carries : carriedId padded .calm .answer = some (.literal " 7") := by decide +kernel
  have exact := always padded .calm .initial .answer (.literal " 7") 7 (.inl rfl) (fun _ => rfl) carries
  have calm : ∀ site, Env.calm.malloc site = true := fun _ => rfl
  have identified := (mem_identifiedIds_iff .initial calm carries 7).mpr (by decide +kernel)
  exact absurd (exact.mp identified) (by decide +kernel)

end IotstackDriver.Edge
