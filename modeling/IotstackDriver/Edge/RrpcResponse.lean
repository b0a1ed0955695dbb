import IotstackDriver.Edge.Calls
import IotstackDriver.Edge.EncodedLength
import IotstackDriver.Edge.Envelope
import IotstackDriver.Edge.Issued
import IotstackDriver.Edge.LogUpload

/-! `edge_rrpc_response`: the topic it answers on, and the two buffers `_replace_str` fills. -/

namespace IotstackDriver.Edge

open Libc Support Program

def requestWord : Bytes := ascii "request"
def responseWord : Bytes := ascii "response"

/-- `char response_topic[128]`. -/
def responseTopicSize : Nat := 128

/-- The topic is a `NULL` pointer or a string; `stack` is what `response_topic` holds
before it is filled. -/
def edgeRrpcResponse (config : DriverConfig) (stack : Memory) (topic : Option CString)
    (payload : Option Memory) (payloadLen : Int) : Program edge EdgeStatus := do
  match topic with
  | none => fault
  | some topic =>
    match replaceInto responseTopicSize stack topic.bytes requestWord responseWord with
    | none => fault
    | some responseTopic =>
      let status ← edgePublish config (some (.ofBytes (responseTopic.cString responseTopicSize)))
        payload payloadLen
      if status ≠ .ok then
        logWrite .error "edge_publish rrpc fail" []
        return .err
      logWrite .debug "edge_publish rrpc :%s"
        [(payload.map fun data => data.cString natsMsgMaxLen).elim .null .str]
      return .ok

/-- One message of each kind of call of `_replace_str`: a log, or a topic that
`edge_rrpc_check` accepts. -/
inductive ReplaceCall where
  | logWrite (text : String) (args : List Arg)
  | edgeRrpcResponse (topic : CString) (accepted : edgeRrpcCheck topic.bytes = .ok)

namespace ReplaceCall

def data : ReplaceCall → CString
  | logWrite text args => LogUpload.msgStr text args
  | edgeRrpcResponse topic _ => topic

def stores : ReplaceCall → List (Nat × UInt8)
  | logWrite text args =>
    replaceStr (LogUpload.msgStr text args).bytes LogUpload.quoteMark LogUpload.escapedQuote
  | edgeRrpcResponse topic _ => replaceStr topic.bytes requestWord responseWord

/-- The size of the buffer that is written. -/
def size : ReplaceCall → Nat
  | logWrite _ _ => natsMsgMaxLen
  | edgeRrpcResponse _ _ => responseTopicSize

/-- How often what is replaced occurs. -/
def occurrences : ReplaceCall → Nat
  | logWrite text args => (LogUpload.msgStr text args).bytes.count 34
  | edgeRrpcResponse topic _ => Replace.occurrences requestWord topic.bytes

end ReplaceCall

/-- Each occurrence makes the text longer by one, which neither call site reckons with. -/
theorem replaceCall_inside_iff (call : ReplaceCall) :
    (∀ store ∈ call.stores, store.1 < call.size) ↔
      call.data.strlen + call.occurrences < call.size := by
  cases call with
  | logWrite text args =>
    rw [ReplaceCall.occurrences, ← Replace.occurrences_singleton]
    have nonempty : LogUpload.quoteMark ≠ [] := by decide
    exact replaceStr_inside_iff nonempty (by decide)
  | edgeRrpcResponse topic accepted =>
    have nonempty : requestWord ≠ [] := by decide
    exact replaceStr_inside_iff nonempty (by decide)

/-- A topic that fits is lengthened past its buffer. -/
theorem longTopic_overruns : ∃ call : ReplaceCall, ¬ ∀ store ∈ call.stores, store.1 < call.size :=
  ⟨.edgeRrpcResponse (.ofBytes (ascii "/rrpc/request/" ++ List.replicate 113 120)) (by decide),
    by decide +kernel⟩

private theorem replaced_noNul (topic : CString) :
    0 ∉ Replace.replaceAll requestWord responseWord topic.bytes :=
  replaceAll_noNul topic ⟨responseWord, by decide⟩ (by decide)

/-- Where the loop writes past its buffer nothing is defined, and otherwise the buffer
holds the topic with every `request` replaced. -/
theorem replaceInto_topic (stack : Memory) (topic : CString) :
    ((replaceInto responseTopicSize stack topic.bytes requestWord responseWord).map fun memory =>
      memory.cString responseTopicSize) =
      if (Replace.replaceAll requestWord responseWord topic.bytes).length < responseTopicSize then
        some (Replace.replaceAll requestWord responseWord topic.bytes)
      else none := by
  have nonempty : requestWord ≠ [] := by decide
  split
  · rename_i fits
    rw [replaceInto_fits stack nonempty fits, Option.map_some,
      (replaceStr_leaves topic.bytes responseWord nonempty).cString (replaced_noNul topic) fits]
  · rename_i long
    rw [replaceInto_overruns stack nonempty long, Option.map_none]

/-- What `edge_rrpc_response` does after `edge_publish`. -/
def responseLog (payload : Option Memory) (status : EdgeStatus) : Program edge EdgeStatus := do
  if status ≠ .ok then
    logWrite .error "edge_publish rrpc fail" []
    return .err
  logWrite .debug "edge_publish rrpc :%s"
    [(payload.map fun data => data.cString natsMsgMaxLen).elim .null .str]
  return .ok

/-- The topic an answer goes to, where it fits its buffer. -/
def responseTopic (topic : CString) : Option CString :=
  let replaced := Replace.replaceAll requestWord responseWord topic.bytes
  if replaced.length < responseTopicSize then some (.ofBytes replaced) else none

theorem edgeRrpcResponse_eq (config : DriverConfig) (stack : Memory) (topic : CString)
    (payload : Option Memory) (payloadLen : Int) :
    edgeRrpcResponse config stack (some topic) payload payloadLen =
      match responseTopic topic with
      | none => fault
      | some answered => edgePublish config (some answered) payload payloadLen >>= responseLog payload := by
  have buffer := replaceInto_topic stack topic
  rw [edgeRrpcResponse, responseTopic]
  cases filled : replaceInto responseTopicSize stack topic.bytes requestWord responseWord with
  | none =>
    rw [filled, Option.map_none] at buffer
    split at buffer
    · cases buffer
    · rename_i long
      rw [if_neg long]
  | some memory =>
    rw [filled, Option.map_some] at buffer
    split at buffer
    · rename_i fits
      rw [if_pos fits, ← Option.some.inj buffer]
      rfl
    · cases buffer

/-- A topic of the form `edge_rrpc_check` asks for: the word in the path is one of the
occurrences, and none reaches over a `/`. -/
theorem replaceAll_topic (front mid : Bytes) :
    Replace.replaceAll requestWord responseWord (front ++ ascii "/rrpc/request/" ++ mid) =
        Replace.replaceAll requestWord responseWord front ++ ascii "/rrpc/response/" ++
          Replace.replaceAll requestWord responseWord mid ∧
      Replace.occurrences requestWord (front ++ ascii "/rrpc/request/" ++ mid) =
        Replace.occurrences requestWord front + Replace.occurrences requestWord mid + 1 := by
  have nonempty : requestWord ≠ [] := by decide
  have separated : (47 : UInt8) ∉ requestWord := by decide
  have path : front ++ ascii "/rrpc/request/" ++ mid =
      front ++ 47 :: (ascii "rrpc" ++ 47 :: (requestWord ++ 47 :: mid)) := by
    rw [List.append_assoc]
    rfl
  have rrpc : Replace.replaceAll requestWord responseWord (ascii "rrpc") = ascii "rrpc" ∧
    Replace.occurrences requestWord (ascii "rrpc") = 0 := by decide
  have word : Replace.replaceAll requestWord responseWord requestWord = responseWord ∧
    Replace.occurrences requestWord requestWord = 1 := by decide
  rw [path]
  simp only [Replace.replaceAll_separated nonempty separated,
    Replace.occurrences_separated nonempty separated, rrpc, word]
  constructor
  · rw [List.append_assoc]
    rfl
  · omega

/-- Whatever it is called with, it publishes what `edge_publish` does on this topic. -/
def RespondsOn (topic responseTopic : CString) : Prop :=
  ∀ config env world stack payload payloadLen,
    (edgeRrpcResponse config stack (some topic) payload payloadLen).observed (handle env) publication
        world =
      (edgePublish config (some responseTopic) payload payloadLen).observed (handle env) publication
        world

private theorem observed_response {config : DriverConfig} {env : Env} {world : World}
    (stack : Memory) (topic : CString) (payload : Option Memory) (payloadLen : Int) :
    let replaced := Replace.replaceAll requestWord responseWord topic.bytes
    (edgeRrpcResponse config stack (some topic) payload payloadLen).observed (handle env) publication
        world =
      if replaced.length < responseTopicSize then
        (edgePublish config (some (.ofBytes replaced)) payload payloadLen).observed (handle env)
          publication world
      else [] := by
  intro replaced
  rw [edgeRrpcResponse_eq, responseTopic]
  by_cases fits : replaced.length < responseTopicSize
  · rw [if_pos fits, if_pos fits]
    refine observed_bind_unseen (fun status => ?_) world
    by_cases sent : status = .ok <;> simp [responseLog, sent, publication]
  · rw [if_neg fits, if_neg fits]
    simp [publication]

/-- With nothing to send, the message has the length of its topic and of the envelope. -/
private theorem published_empty (topic : CString) :
    (edgePublish .plain (some topic) (some Memory.zero) 0).observed (handle .unlogged) publication
        .initial = [(DriverConfig.plain.edgeRouterSubject,
      snprintf natsMsgMaxLen normalMsgFormat [.str topic.bytes, .str []])] :=
  @EncodeCall.published_eq .plain .unlogged .initial 0 (fun _ => rfl) Env.unlogged_logFits
    (.edgePublish topic Memory.zero 0)
    fun _ _ _ same => by cases same

private theorem message_length {topic : CString} (short : topic.strlen < responseTopicSize) :
    (snprintf natsMsgMaxLen normalMsgFormat [.str topic.bytes, .str []]).length =
      envelopeLength + topic.strlen := by
  have whole := length_normalMsg topic.bytes []
  rw [List.length_nil, Nat.add_zero] at whole
  have room : envelopeLength + responseTopicSize < natsMsgMaxLen := by decide
  rw [snprintf, List.length_take, whole]
  exact Nat.min_eq_right (by simp only [CString.strlen] at short; omega)

/-- The answer goes to the topic with `response` in the place of `request` in the path
exactly where neither side of the path contains the word. -/
theorem respondsOn_iff {front mid : Bytes} (topic responseTopic : CString)
    (request : topic.bytes = front ++ ascii "/rrpc/request/" ++ mid)
    (response : responseTopic.bytes = front ++ ascii "/rrpc/response/" ++ mid)
    (fits : responseTopic.strlen < responseTopicSize) :
    RespondsOn topic responseTopic ↔ ¬ requestWord <:+: front ∧ ¬ requestWord <:+: mid := by
  have nonempty : requestWord ≠ [] := by decide
  obtain ⟨replaced, counted⟩ := replaceAll_topic front mid
  rw [← request] at replaced counted
  rw [← Replace.occurrences_eq_zero_iff nonempty, ← Replace.occurrences_eq_zero_iff nonempty]
  constructor
  · intro responds
    have same := responds .plain .unlogged .initial Memory.zero (some Memory.zero) 0
    rw [observed_response, published_empty] at same
    split at same
    · rename_i room
      rw [published_empty] at same
      have unchanged : (CString.ofBytes (Replace.replaceAll requestWord responseWord topic.bytes)).bytes =
          Replace.replaceAll requestWord responseWord topic.bytes :=
        takeWhile_of_noNul (replaced_noNul topic)
      have texts := congrArg (fun sent : List (Bytes × Bytes) => sent.map fun (_, text) => text.length) same
      simp only [List.map_cons, List.map_nil, List.cons.injEq, and_true] at texts
      rw [message_length fits, message_length (by rwa [CString.strlen, unchanged]), CString.strlen, unchanged,
        CString.strlen] at texts
      have length := Replace.replaceAll_length nonempty responseWord topic.bytes
      have words : requestWord.length = 7 ∧ responseWord.length = 8 := by decide
      have paths : (ascii "/rrpc/request/").length = 14 ∧ (ascii "/rrpc/response/").length = 15 := by
        decide
      have asked := congrArg List.length request
      have answered := congrArg List.length response
      simp only [List.length_append, paths] at asked answered
      rw [counted, words.1, words.2] at length
      omega
    · cases same
  · rintro ⟨frontFree, midFree⟩ config env world stack payload payloadLen
    rw [observed_response, replaced,
      Replace.replaceAll_of_absent ((Replace.occurrences_eq_zero_iff nonempty _).mp frontFree),
      Replace.replaceAll_of_absent ((Replace.occurrences_eq_zero_iff nonempty _).mp midFree),
      ← response, CString.ofBytes_bytes]
    exact if_pos fits

/-- The word occurs nowhere else here. -/
theorem respondsOn_plain : RespondsOn (.literal "/$system/p1/d1/rrpc/request/7")
    (.literal "/$system/p1/d1/rrpc/response/7") :=
  (@respondsOn_iff (ascii "/$system/p1/d1") (ascii "7") _ _ (by decide) (by decide)
    (by decide)).mpr (by decide)

/-- A device that is called after a request. -/
theorem not_respondsOn_named : ¬ RespondsOn (.literal "/p1/request-lamp/rrpc/request/7")
    (.literal "/p1/request-lamp/rrpc/response/7") := by
  intro responds
  have same := responds .plain .unlogged .initial Memory.zero (some Memory.zero) 0
  rw [observed_response, published_empty, published_empty] at same
  exact absurd same (by decide +kernel)

end IotstackDriver.Edge
