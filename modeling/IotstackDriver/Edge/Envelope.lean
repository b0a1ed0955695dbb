import IotstackDriver.Support.JsonText
import IotstackDriver.Edge.NatsMessage

/-! The message `edge_publish` hands to NATS. Its length is that of the format's own
text, the topic and the base64 text together, and `snprintf` cuts it to the buffer. -/

namespace IotstackDriver.Edge

open Libc Support

/-- The text is a complete JSON object with this topic, and a payload that decodes
to these bytes. -/
def CarriesWhole (text topic bytes : Bytes) : Prop :=
  ∃ members, Json.Denotes text (.object members) ∧
    members.lookup (ascii "topic") = some (.scalar (.string topic)) ∧
    ∃ payload, members.lookup (ascii "payload") = some (.scalar (.string payload)) ∧
      Rfc4648.decode payload = some bytes

private def opening : Bytes := ascii "\x7b\"src\": \"local\",\"topic\": \""
private def joint : Bytes := ascii "\",\"payload\": \""
private def closing : Bytes := ascii "\"\x7d"

private theorem format_normalMsg (topic payload : Bytes) :
    format normalMsgFormat [.str topic, .str payload] =
      opening ++ (topic ++ (joint ++ (payload ++ closing))) := rfl

/-- The characters of `NORMAL_MSG_FORMAT` besides its arguments. -/
def envelopeLength : Nat := 42

theorem length_normalMsg (topic payload : Bytes) :
    (format normalMsgFormat [.str topic, .str payload]).length =
      envelopeLength + topic.length + payload.length := by
  have fixed : opening.length = 26 ∧ joint.length = 14 ∧ closing.length = 2 := by decide
  rw [format_normalMsg, envelopeLength]
  simp only [List.length_append, fixed]
  omega

theorem encode_plain (bytes : Bytes) : Json.Plain (Rfc4648.encode bytes) := by
  intro char member
  rcases Rfc4648.mem_encode bytes member with same | ⟨value, small, same⟩
  · subst same
    decide
  · have table : ∀ value < 64, Rfc4648.digit value ≠ Json.quote ∧
        Rfc4648.digit value ≠ Json.backslash ∧ 32 ≤ Rfc4648.digit value := by decide +kernel
    rw [same]
    exact table value small

/-! ## The whole text -/

private def envelopeMembers (topic payload : Bytes) : List (Bytes × Json) :=
  [(ascii "src", .scalar (.string (ascii "local"))), (ascii "topic", .scalar (.string topic)),
    (ascii "payload", .scalar (.string payload))]

private theorem foldlM_joint (tokens : List JsonToken) (read : Bytes) :
    joint.foldlM Json.Lexer.step ⟨.string read, tokens⟩ =
      some ⟨.string [], tokens ++ [.scalar (.string read)] ++ [.comma] ++
        [.scalar (.string (ascii "payload"))] ++ [.colon]⟩ := rfl

private theorem foldlM_closing (tokens : List JsonToken) (read : Bytes) :
    closing.foldlM Json.Lexer.step ⟨.string read, tokens⟩ =
      some ⟨.between, tokens ++ [.scalar (.string read)] ++ [.closeObject]⟩ := rfl

private theorem denotes_normalMsg {topic payload : Bytes} (plainTopic : Json.Plain topic)
    (plainPayload : Json.Plain payload) :
    Json.Denotes (format normalMsgFormat [.str topic, .str payload])
      (.object (envelopeMembers topic payload)) := by
  rw [format_normalMsg, Json.Denotes, Json.tokenize]
  have opened : opening.foldlM Json.Lexer.step ⟨.between, []⟩ = some ⟨.string [],
      [.openObject, .scalar (.string (ascii "src")), .colon, .scalar (.string (ascii "local")), .comma,
        .scalar (.string (ascii "topic")), .colon]⟩ := by decide
  simp only [List.foldlM_append, opened, Json.foldlM_plain _ _ plainTopic, foldlM_joint,
    Json.foldlM_plain _ _ plainPayload, foldlM_closing, Option.bind_eq_bind, Option.bind_some]
  rfl

theorem carriesWhole_normalMsg {topic : Bytes} (plainTopic : Json.Plain topic) (bytes : Bytes) :
    CarriesWhole (format normalMsgFormat [.str topic, .str (Rfc4648.encode bytes)]) topic bytes :=
  ⟨_, denotes_normalMsg plainTopic (encode_plain bytes), rfl, _, rfl, Rfc4648.decode_encode bytes⟩

/-! ## A cut text -/

private theorem closing_normalMsg {topic payload : Bytes} (plainTopic : Json.Plain topic)
    (plainPayload : Json.Plain payload) : Json.Closing (topic ++ (joint ++ (payload ++ closing))) := by
  have middle : Json.Level joint := ⟨by decide, by decide⟩
  have last : Json.Closing closing := by unfold Json.Closing; decide
  exact plainTopic.level.closing (middle.closing (plainPayload.level.closing last))

/-- A text cut within its arguments or after them denotes nothing. -/
private theorem not_denotes_cut {topic payload : Bytes} {limit : Nat} (plainTopic : Json.Plain topic)
    (plainPayload : Json.Plain payload) (begun : opening.length ≤ limit)
    (short : limit < (format normalMsgFormat [.str topic, .str payload]).length) (value : Json) :
    ¬ Json.Denotes ((format normalMsgFormat [.str topic, .str payload]).take limit) value := by
  intro denotes
  rw [format_normalMsg] at denotes short
  have opened := Json.depth_take (by decide) (closing_normalMsg plainTopic plainPayload) begun short 0
  have ended := congrArg Json.Scan.depth denotes.scan_eq
  rw [Json.scan, opened] at ended
  exact absurd ended (by decide)

/-- The message in the buffer is whole exactly when the buffer holds all of it. -/
theorem carriesWhole_snprintf_iff {topic : Bytes} (plain : Json.Plain topic) (bytes : Bytes) :
    CarriesWhole (snprintf natsMsgMaxLen normalMsgFormat [.str topic, .str (Rfc4648.encode bytes)])
        topic bytes ↔
      envelopeLength + topic.length + (Rfc4648.encode bytes).length ≤ natsMsgMaxLen - 1 := by
  rw [← length_normalMsg, snprintf]
  constructor
  · rintro ⟨members, denotes, -⟩
    by_contra cut
    exact not_denotes_cut plain (encode_plain bytes) (by decide) (Nat.lt_of_not_le cut) _ denotes
  · intro whole
    rw [List.take_of_length_le whole]
    exact carriesWhole_normalMsg plain bytes

/-! ## Its log -/

/-- A line with a quote among the characters that are kept is logged exactly when it fits with a
backslash for each of its quotes. -/
theorem logInside_iff_of_quoted {text : String} {args : List Arg} {line : Bytes}
    (kept : (LogUpload.msgStr text args).bytes = line.take (natsMsgMaxLen - 1))
    (quoted : 34 ∈ line.take (natsMsgMaxLen - 1)) :
    logInside text args = true ↔ line.length + line.count 34 ≤ natsMsgMaxLen - 1 := by
  rw [logInside, decide_eq_true_eq, CString.strlen, kept]
  by_cases short : line.length ≤ natsMsgMaxLen - 1
  · rw [List.take_of_length_le short]
    exact Nat.lt_iff_le_pred (by decide)
  · have cut : (line.take (natsMsgMaxLen - 1)).length = natsMsgMaxLen - 1 := by
      rw [List.length_take]
      omega
    have counted := List.count_pos_iff.mpr quoted
    refine iff_of_false ?_ ?_ <;> omega

theorem count_plain {text : Bytes} (plain : Json.Plain text) : text.count 34 = 0 :=
  List.count_eq_zero.mpr fun member => (plain 34 member).1 rfl

private theorem noNul_plain {text : Bytes} (plain : Json.Plain text) : 0 ∉ text :=
  fun member => absurd (plain 0 member).2.2 (by decide)

/-- The quotes of `NORMAL_MSG_FORMAT`. -/
def envelopeQuotes : Nat := 12

private theorem count_normalMsg {topic payload : Bytes} (plainTopic : Json.Plain topic)
    (plainPayload : Json.Plain payload) :
    (format normalMsgFormat [.str topic, .str payload]).count 34 = envelopeQuotes := by
  have fixed : opening.count 34 = 7 ∧ joint.count 34 = 4 ∧ closing.count 34 = 1 := by decide
  simp only [format_normalMsg, List.count_append, count_plain plainTopic, count_plain plainPayload, fixed,
    envelopeQuotes]

private theorem noNul_normalMsg {topic payload : Bytes} (plainTopic : Json.Plain topic)
    (plainPayload : Json.Plain payload) : 0 ∉ format normalMsgFormat [.str topic, .str payload] := by
  have fixed : 0 ∉ opening ∧ 0 ∉ joint ∧ 0 ∉ closing := by decide
  simp only [format_normalMsg, List.mem_append, noNul_plain plainTopic, noNul_plain plainPayload, fixed,
    or_self, not_false_eq_true]

/-- The log of a message, cut or not, fits exactly when the message would fit with the label before
it and its quotes escaped. -/
theorem logInside_normalMsg {text : String} {topic payload : Bytes} (label : Bytes)
    (labelled : ∀ message, format text [.str message] = label ++ (message ++ []))
    (plainLabel : Json.Plain label) (short : label.length ≤ 100) (plainTopic : Json.Plain topic) (plainPayload : Json.Plain payload) :
    logInside text [.str (snprintf natsMsgMaxLen normalMsgFormat [.str topic, .str payload])] = true ↔
      label.length + envelopeQuotes + (envelopeLength + topic.length + payload.length) ≤
        natsMsgMaxLen - 1 := by
  have kept : (LogUpload.msgStr text
      [.str (snprintf natsMsgMaxLen normalMsgFormat [.str topic, .str payload])]).bytes =
      (label ++ format normalMsgFormat [.str topic, .str payload]).take (natsMsgMaxLen - 1) := by
    rw [LogUpload.msgStr, CString.ofBytes, snprintf, labelled, List.append_nil, snprintf, List.take_append,
      List.take_take, Nat.min_eq_left (Nat.sub_le _ _), ← List.take_append]
    refine takeWhile_of_noNul fun member => ?_
    rcases List.mem_append.mp (List.mem_of_mem_take member) with inLabel | inside
    · exact noNul_plain plainLabel inLabel
    · exact noNul_normalMsg plainTopic plainPayload inside
  rw [logInside_iff_of_quoted kept, List.length_append, List.count_append, count_plain plainLabel,
    count_normalMsg plainTopic plainPayload, length_normalMsg]
  · omega
  · have second : 34 ∈ opening.take 2 := by decide
    rw [List.take_append, format_normalMsg]
    refine List.mem_append_right _ ?_
    have room : 2 ≤ natsMsgMaxLen - 1 - label.length := by
      have size : natsMsgMaxLen = 2048 := rfl
      omega
    exact (List.take_prefix_take_left (by exact room)).mem
      (by rw [List.take_append_of_le_length (by decide)]; exact second)

/-! ## The call -/

/-- `edge_publish` returns, and when it returns `EDGE_OK` it handed NATS one message
that is whole. -/
def PublishesWhole (config : DriverConfig) (env : Env) (world : World) (topic : CString)
    (indata : Memory) (bytes : Bytes) : Prop :=
  ∃ status final published, trace (handle env) publication
      (edgePublish config (some topic) (some indata) bytes.length) world [] =
        some (status, final, published) ∧
    (status = .ok → ∃ text, published = [(config.edgeRouterSubject, text)] ∧
      CarriesWhole text topic.bytes bytes)

/-- Both buffers are allocated and NATS takes the message. -/
def Env.publishes (env : Env) : Prop :=
  env.malloc (.buffer .normalPayloadBase64) = true ∧ env.malloc (.buffer .normalMsg) = true ∧
    env.publishStatus.or env.flushStatus = .ok

/-- The log of the message gets its buffers. -/
def Env.logsMessage (env : Env) (topic : CString) (bytes : Bytes) : Prop :=
  env.malloc (.log "normal_msg:%s" [.str (snprintf natsMsgMaxLen normalMsgFormat
    [.str topic.bytes, .str (Rfc4648.encode bytes)])]) = true

/-- The label of that log, and a backslash for each quote of the message. -/
def messageLogLength : Nat := 23

/-- The logs of the data and of the message fit, as far as they are written. -/
def Env.publishLogsFit (env : Env) (topic : CString) (indata : Memory) (bytes : Bytes) : Prop :=
  env.malloc (.buffer .normalPayloadBase64) = true →
    env.logFits "send data:%s" [.str (indata.cString natsMsgMaxLen)] = true ∧
    (env.malloc (.buffer .normalMsg) = true → env.logsMessage topic bytes →
      messageLogLength + (envelopeLength + topic.strlen + 4 * ((bytes.length + 2) / 3)) ≤ natsMsgMaxLen - 1)

variable {config : DriverConfig} {env : Env} {indata : Memory} {data : Sendable}

private theorem logFits_message {topic : CString} (plain : Json.Plain topic.bytes) (bytes : Bytes) :
    env.logFits "normal_msg:%s" [.str (snprintf natsMsgMaxLen normalMsgFormat
      [.str topic.bytes, .str (Rfc4648.encode bytes)])] = true ↔
    (env.logsMessage topic bytes →
      messageLogLength + (envelopeLength + topic.strlen + 4 * ((bytes.length + 2) / 3)) ≤
        natsMsgMaxLen - 1) := by
  have inside := @logInside_normalMsg "normal_msg:%s" _ _ (ascii "normal_msg:") (fun _ => rfl)
    (by decide) (by decide) plain (encode_plain bytes)
  have label : (ascii "normal_msg:").length + envelopeQuotes = messageLogLength := by decide
  rw [label, Rfc4648.encode_length] at inside
  rw [CString.strlen, ← inside, Env.logFits, Bool.or_eq_true, Bool.not_eq_true', Env.logsMessage,
    ← Bool.not_eq_true, imp_iff_not_or]

private theorem edgePublish_logsFit (world : World) {topic : CString}
    (unsigned : config.charSign = .unsigned) (plain : Json.Plain topic.bytes)
    (stored : data.StoredAt indata) :
    LogsFit env (edgePublish config (some topic) (some indata) data.bytes.length) world ↔
      env.publishLogsFit topic indata data.bytes := by
  have encoded := encodedMsg_sendable unsigned stored
  have fixed : env.logFits "normal_payload_base64 malloc fail!" [] = true ∧
      env.logFits "normal_msg malloc fail!" [] = true :=
    ⟨logFits_of_inside (by decide +kernel), logFits_of_inside (by decide +kernel)⟩
  rw [Env.publishLogsFit, ← logFits_message plain]
  cases first : env.malloc (.buffer .normalPayloadBase64) with
  | false => simp [edgePublish, first, fixed]
  | true =>
    cases second : env.malloc (.buffer .normalMsg) <;>
      simp [edgePublish, first, second, fixed, base64Text, encoded, data.coded_text]

private theorem trace_edgePublish_refused (world : World) (topic : CString)
    (unsigned : config.charSign = .unsigned) (stored : data.StoredAt indata)
    (refused : ¬ (env.malloc (.buffer .normalPayloadBase64) = true ∧
      env.malloc (.buffer .normalMsg) = true)) :
    trace (respond env) publication (edgePublish config (some topic) (some indata) data.bytes.length) world [] =
      some (.noMemory, world, []) := by
  rw [edgePublish, trace_bind, trace_malloc]
  cases first : env.malloc (.buffer .normalPayloadBase64) with
  | false => rfl
  | true =>
    have second : env.malloc (.buffer .normalMsg) = false := by simpa [first] using refused
    have encoded := encodedMsg_sendable unsigned stored
    simp only [Option.bind_some, Bool.not_true, Bool.false_eq_true, ↓reduceIte, base64Text, encoded,
      trace_bind, trace_pure, trace_logWrite, trace_malloc, second, Bool.not_false, trace_free]
    rfl

private theorem trace_edgePublish_sent (world : World) (topic : CString)
    (unsigned : config.charSign = .unsigned) (stored : data.StoredAt indata)
    (first : env.malloc (.buffer .normalPayloadBase64) = true)
    (second : env.malloc (.buffer .normalMsg) = true) :
    trace (respond env) publication (edgePublish config (some topic) (some indata) data.bytes.length) world [] =
      some (env.publishStatus.or env.flushStatus, world,
        [(config.edgeRouterSubject, snprintf natsMsgMaxLen normalMsgFormat
          [.str topic.bytes, .str (Rfc4648.encode data.bytes)])]) := by
  have encoded := encodedMsg_sendable unsigned stored
  simp only [edgePublish, trace_bind, trace_malloc, first, second, Option.bind_some, Bool.not_true,
    Bool.false_eq_true, ↓reduceIte, base64Text, encoded, data.coded_text, trace_pure,
    trace_logWrite, trace_publishAndFlush, trace_free]
  rfl

/-- A call returns, and what it published with success is whole, exactly when its logs fit and,
where the message is published, the format's text, the topic and the base64 text together fit the
buffer. -/
theorem edgePublish_whole_iff (config : DriverConfig) (unsigned : config.charSign = .unsigned)
    (env : Env) (world : World) (topic : CString) (plain : Json.Plain topic.bytes) (data : Sendable)
    (indata : Memory) (stored : data.StoredAt indata) :
    PublishesWhole config env world topic indata data.bytes ↔
      env.publishLogsFit topic indata data.bytes ∧
        (env.publishes →
          envelopeLength + topic.strlen + 4 * ((data.bytes.length + 2) / 3) ≤ natsMsgMaxLen - 1) := by
  simp only [PublishesWhole, trace_handle_iff, and_assoc, exists_and_left]
  refine and_congr (edgePublish_logsFit world unsigned plain stored) ?_
  rw [← Rfc4648.encode_length, CString.strlen, ← carriesWhole_snprintf_iff plain data.bytes]
  by_cases allocated : env.malloc (.buffer .normalPayloadBase64) = true ∧
      env.malloc (.buffer .normalMsg) = true
  · obtain ⟨first, second⟩ := allocated
    have sent := trace_edgePublish_sent world topic unsigned stored first second
    constructor
    · rintro ⟨status, final, published, ran, whole⟩ ⟨-, -, accepted⟩
      cases sent.symm.trans ran
      obtain ⟨text, same, carried⟩ := whole accepted
      cases same
      exact carried
    · intro whole
      exact ⟨_, _, _, sent, fun accepted => ⟨_, rfl, whole ⟨first, second, accepted⟩⟩⟩
  · have refused := trace_edgePublish_refused world topic unsigned stored allocated
    constructor
    · rintro - ⟨first, second, -⟩
      exact absurd ⟨first, second⟩ allocated
    · rintro -
      exact ⟨_, _, _, refused, fun accepted => by cases accepted⟩

private def zeros (count : Nat) (fits : 4 * ((count + 2) / 3) ≤ natsMsgMaxLen - 1) : Sendable where
  bytes := List.replicate count 0
  fits := by rwa [List.length_replicate]

theorem edgePublish_whole_iff_zeros :
    PublishesWhole .plain .unlogged .initial (.literal "/t") (.ofBytes (List.replicate 1533 0))
        (List.replicate 1533 0) ↔
      Env.unlogged.publishLogsFit (.literal "/t") (.ofBytes (List.replicate 1533 0)) (List.replicate 1533 0) ∧
        (Env.unlogged.publishes → envelopeLength + (CString.literal "/t").strlen +
          4 * (((List.replicate 1533 (0 : UInt8)).length + 2) / 3) ≤ natsMsgMaxLen - 1) :=
  edgePublish_whole_iff .plain rfl .unlogged .initial (.literal "/t") (by decide)
    (zeros 1533 (by decide)) _ (zeros 1533 (by decide)).storedAt_ofBytes

/-- 1533 bytes fit the base64 buffer, and where the logs get no buffers their message is sent
without its end. -/
theorem edgePublish_sends_cut : ¬ ∀ (config : DriverConfig) (env : Env) (world : World)
    (topic : CString) (data : Sendable) (indata : Memory) (status : EdgeStatus) (final : World)
    (published : List (Bytes × Bytes)), config.charSign = .unsigned →
    Json.Plain topic.bytes → data.bytes ≠ [] → data.StoredAt indata →
    trace (handle env) publication (edgePublish config (some topic) (some indata) data.bytes.length) world [] =
      some (status, final, published) → status = .ok →
        ∃ text, published = [(config.edgeRouterSubject, text)] ∧ CarriesWhole text topic.bytes data.bytes := by
  intro always
  obtain ⟨data, length⟩ : ∃ data : Sendable, data.bytes.length = 1533 :=
    ⟨zeros 1533 (by decide), List.length_replicate⟩
  have nonempty : data.bytes ≠ [] := fun empty => by simp [empty] at length
  have fit : LogsFit .unlogged (edgePublish .plain (some (.literal "/t")) (some (.ofBytes data.bytes))
      data.bytes.length) .initial :=
    (edgePublish_logsFit _ rfl (by decide) data.storedAt_ofBytes).mpr
      fun _ => ⟨rfl, fun _ logged => by cases logged⟩
  obtain ⟨text, same, carried⟩ := always .plain .unlogged .initial (.literal "/t") data _ _ _ _ rfl (by decide)
    nonempty data.storedAt_ofBytes
    (trace_handle_iff.mpr ⟨fit, trace_edgePublish_sent _ _ rfl data.storedAt_ofBytes rfl rfl⟩) rfl
  cases same
  have fits := (carriesWhole_snprintf_iff (by decide) _).mp carried
  rw [Rfc4648.encode_length, length] at fits
  revert fits
  decide

end IotstackDriver.Edge
