import IotstackDriver.Edge.LogText
import IotstackDriver.Edge.RrpcResponse

/-! What `edge_publish` and `edge_rrpc_response` hand to NATS, the uploads of their logs included,
and how it depends on the bytes behind the data. -/

namespace IotstackDriver.Edge

open Libc Support Program
open LogUpload (LogEnv handleLog uploads escapedMsg escapedMsg_length msgStr logWrite_spec)

/-- The outcomes of one call, and those of each of its logs in their order. -/
structure UploadEnv where
  call : Env
  driverName : Bytes
  log : Nat → LogEnv

/-- The shared state, the number of logs written and what has been handed to NATS. -/
structure Outgoing where
  world : World
  logs : Nat
  sent : List (Bytes × Bytes)

/-- Here a log is uploaded. -/
def handleUploads (env : UploadEnv) : Handler edge Outgoing
  | .logWrite level text args, state =>
    let log := LogUpload.logWrite env.driverName level text args
    (log.run (handleLog (env.log state.logs)) ()).map fun _ => ((), { state with
      logs := state.logs + 1
      sent := state.sent ++ uploads (env.log state.logs) log })
  | request, state => (respond env.call request state.world).map fun (reply, world) =>
    (reply, { state with world, sent := state.sent ++ (publication request).toList })

/-- What a call hands to NATS, in order, until it returns or leaves defined behaviour. -/
def handedOver (env : UploadEnv) (world : World) (program : Program edge α) : List (Bytes × Bytes) :=
  (program.reached (handleUploads env) ⟨world, 0, []⟩).sent

theorem handleUploads_sent {env : UploadEnv} {request : Request} {reply : request.Reply}
    {state next : Outgoing} (answered : handleUploads env request state = some (reply, next)) :
    state.sent.length ≤ next.sent.length := by
  unfold handleUploads at answered
  split at answered
  · obtain ⟨_, -, same⟩ := Option.map_eq_some_iff.mp answered
    cases same
    simp
  · obtain ⟨_, -, same⟩ := Option.map_eq_some_iff.mp answered
    cases same
    simp

/-- Nothing that has been handed over is taken back. -/
theorem sent_le_reached (env : UploadEnv) (program : Program edge α) (state : Outgoing) :
    state.sent.length ≤ (program.reached (handleUploads env) state).sent.length := by
  induction program generalizing state with
  | done value => exact Nat.le_refl _
  | call request rest ih =>
    rw [reached]
    split
    · exact Nat.le_refl _
    · rename_i reply next answered
      exact Nat.le_trans (handleUploads_sent answered) (ih reply next)

/-- The memory begins with these bytes, whatever is behind them. -/
def BeginsWith (memory : Memory) (front : Bytes) : Prop :=
  ∀ k (inside : k < front.length), memory k = front[k]

section Strings

variable {left right memory : Memory} {front : Bytes}

theorem BeginsWith.map_range (begins : BeginsWith memory front) (limit : Nat) :
    ∃ rest, (List.range limit).map memory = front.take limit ++ rest ∧
      rest.length = limit - front.length := by
  refine ⟨((List.range limit).map memory).drop front.length, ?_, by simp⟩
  have start : ((List.range limit).map memory).take front.length = front.take limit := by
    apply List.ext_getElem (by simp; omega)
    intro k inside _
    simp only [List.length_take, List.length_map, List.length_range] at inside
    rw [List.getElem_take, List.getElem_take, List.getElem_map, List.getElem_range]
    exact begins k (by omega)
  rw [← start, List.take_append_drop]

/-- A terminator in the front ends the string there. -/
theorem cString_terminated (leftBegins : BeginsWith left front) (rightBegins : BeginsWith right front)
    (terminated : 0 ∈ front) (limit : Nat) : left.cString limit = right.cString limit := by
  obtain ⟨leftRest, leftMap, leftLength⟩ := leftBegins.map_range limit
  obtain ⟨rightRest, rightMap, rightLength⟩ := rightBegins.map_range limit
  rw [Memory.cString, Memory.cString, leftMap, rightMap]
  by_cases long : limit ≤ front.length
  · rw [Nat.sub_eq_zero_of_le long] at leftLength rightLength
    rw [List.eq_nil_of_length_eq_zero leftLength, List.eq_nil_of_length_eq_zero rightLength]
  · have stops : (front.takeWhile (· != 0)).length ≠ front.length := by
      intro whole
      have same := (List.takeWhile_prefix (· != 0)).eq_of_length whole
      exact absurd (List.takeWhile_eq_self_iff.mp same 0 terminated) (by decide)
    rw [List.take_of_length_le (Nat.le_of_not_le long), List.takeWhile_append, List.takeWhile_append,
      if_neg stops, if_neg stops]

/-- Without one the string goes on behind the front. -/
theorem cString_unterminated (begins : BeginsWith memory front) (unterminated : 0 ∉ front)
    (limit : Nat) : front.take limit <+: memory.cString limit := by
  obtain ⟨rest, same, -⟩ := begins.map_range limit
  have shown : ∀ byte ∈ front.take limit, (byte != 0) = true := by
    intro byte member
    simpa using fun zero : byte = 0 => unterminated (zero ▸ List.mem_of_mem_take member)
  rw [Memory.cString, same, List.takeWhile_append_of_pos shown]
  exact List.prefix_append _ _

end Strings

/-! ## A log of the data -/

theorem answer_logWrite (env : UploadEnv) (state : Outgoing) (level : LogLevel) (text : String)
    (args : List Arg) : handleUploads env (.logWrite level text args) state =
      if (env.log state.logs).allocated = true → (escapedMsg text args).length < natsMsgMaxLen then
        some ((), ⟨state.world, state.logs + 1, state.sent ++
          uploads (env.log state.logs) (LogUpload.logWrite env.driverName level text args)⟩)
      else none := by
  rw [handleUploads, (logWrite_spec _ _ level text args).1]
  split <;> rfl

/-- A format that shows a text behind a label with nothing to escape. -/
structure Labels (text : String) (label : Bytes) : Prop where
  shows : ∀ shown, format text [.str shown] = label ++ shown
  noNul : 0 ∉ label
  noQuote : 34 ∉ label

/-- What a log shows of a buffer goes on behind the front: the log gets its buffers, no
terminator ends the front, and neither the message nor its escaped form is full with it. -/
structure Discloses (log : LogEnv) (label front : Bytes) : Prop where
  allocated : log.allocated = true
  unterminated : 0 ∉ front
  uncut : label.length + front.length < natsMsgMaxLen - 1
  fits : label.length + front.length + front.count 34 < natsMsgMaxLen

section Logs

variable {env : UploadEnv} {state : Outgoing} {level : LogLevel} {text : String} {label front : Bytes}
  {left right memory : Memory}

private theorem Labels.message (labels : Labels text label) {shown : Bytes} (noNul : 0 ∉ shown) :
    (msgStr text [.str shown]).bytes = (label ++ shown).take (natsMsgMaxLen - 1) := by
  rw [msgStr, snprintf, labels.shows]
  apply takeWhile_of_noNul
  intro member
  rcases List.mem_append.mp (List.mem_of_mem_take member) with labelled | given
  · exact labels.noNul labelled
  · exact noNul given

/-- A message that is cut in the front, or at its end, shows no more. -/
private theorem Labels.cut (labels : Labels text label) (unterminated : 0 ∉ front)
    (full : natsMsgMaxLen - 1 ≤ label.length + front.length) (begins : BeginsWith memory front) :
    (msgStr text [.str (memory.cString natsMsgMaxLen)]).bytes =
      (label ++ front.take natsMsgMaxLen).take (natsMsgMaxLen - 1) := by
  obtain ⟨rest, shown⟩ := cString_unterminated begins unterminated natsMsgMaxLen
  rw [labels.message (cString_noNul memory _), ← shown, ← List.append_assoc]
  apply List.take_append_of_le_length
  rw [List.length_append, List.length_take]
  omega

/-- The escaped form is too long as soon as that of the front is. -/
private theorem Labels.overruns (labels : Labels text label) (unterminated : 0 ∉ front)
    (uncut : label.length + front.length < natsMsgMaxLen - 1)
    (long : natsMsgMaxLen ≤ label.length + front.length + front.count 34)
    (begins : BeginsWith memory front) :
    natsMsgMaxLen ≤ (escapedMsg text [.str (memory.cString natsMsgMaxLen)]).length := by
  obtain ⟨rest, shown⟩ := cString_unterminated begins unterminated natsMsgMaxLen
  rw [List.take_of_length_le (by omega)] at shown
  have starts : label ++ front <+: (msgStr text [.str (memory.cString natsMsgMaxLen)]).bytes := by
    rw [labels.message (cString_noNul memory _), ← shown, ← List.append_assoc]
    refine List.prefix_take_iff.mpr ⟨List.prefix_append _ _, ?_⟩
    rw [List.length_append]
    exact Nat.le_of_lt uncut
  have length := starts.length_le
  have quotes := starts.sublist.count_le 34
  rw [List.length_append] at length
  rw [List.count_append] at quotes
  rw [escapedMsg_length]
  omega

/-- A log that does not disclose what is behind the front is answered alike whatever it is. -/
theorem answer_same (labels : Labels text label) (kept : ¬ Discloses (env.log state.logs) label front)
    (leftBegins : BeginsWith left front) (rightBegins : BeginsWith right front) :
    handleUploads env (.logWrite level text [.str (left.cString natsMsgMaxLen)]) state =
      handleUploads env (.logWrite level text [.str (right.cString natsMsgMaxLen)]) state := by
  by_cases terminated : 0 ∈ front
  · rw [cString_terminated leftBegins rightBegins terminated]
  rw [answer_logWrite, answer_logWrite, (logWrite_spec _ _ level text _).2,
    (logWrite_spec _ _ level text _).2]
  by_cases allocated : (env.log state.logs).allocated = true
  · by_cases uncut : label.length + front.length < natsMsgMaxLen - 1
    · have long : natsMsgMaxLen ≤ label.length + front.length + front.count 34 :=
        Nat.le_of_not_lt fun fits => kept ⟨allocated, terminated, uncut, fits⟩
      have leftLong := labels.overruns terminated uncut long leftBegins
      have rightLong := labels.overruns terminated uncut long rightBegins
      rw [if_neg fun fits => absurd (fits allocated) (Nat.not_lt.mpr leftLong),
        if_neg fun fits => absurd (fits allocated) (Nat.not_lt.mpr rightLong)]
    · have same : escapedMsg text [.str (left.cString natsMsgMaxLen)] =
          escapedMsg text [.str (right.cString natsMsgMaxLen)] := by
        rw [escapedMsg, escapedMsg, labels.cut terminated (Nat.le_of_not_lt uncut) leftBegins,
          labels.cut terminated (Nat.le_of_not_lt uncut) rightBegins]
      rw [same]
  · simp [allocated]

private theorem beginsWith_getD (front : Bytes) (filling : UInt8) :
    BeginsWith (fun index => front.getD index filling) front := by
  intro k inside
  simp [inside]

private theorem map_range_getD (front : Bytes) (filling : UInt8) {limit : Nat}
    (inside : front.length ≤ limit) :
    (List.range limit).map (fun index => front.getD index filling) =
      front ++ List.replicate (limit - front.length) filling := by
  apply List.ext_getElem (by simp; omega)
  intro k _ _
  rw [List.getElem_map, List.getElem_range, List.getElem_append]
  split
  · rename_i before
    simp [before]
  · rename_i behind
    simp [List.getElem?_eq_none (Nat.le_of_not_lt behind)]

/-- A front with nothing but quotes behind it makes the escaped form too long. -/
private theorem Labels.quotes_overrun (labels : Labels text label) (unterminated : 0 ∉ front)
    (uncut : label.length + front.length < natsMsgMaxLen - 1) :
    natsMsgMaxLen ≤ (escapedMsg text
      [.str (Memory.cString (fun index => front.getD index 34) natsMsgMaxLen)]).length := by
  have size : natsMsgMaxLen = 2048 := rfl
  have shown : Memory.cString (fun index => front.getD index 34) natsMsgMaxLen =
      front ++ List.replicate (natsMsgMaxLen - front.length) 34 := by
    rw [Memory.cString, map_range_getD front 34 (by omega)]
    apply takeWhile_of_noNul
    intro member
    rcases List.mem_append.mp member with given | filled
    · exact unterminated given
    · exact absurd (List.eq_of_mem_replicate filled) (by decide)
  have message : (msgStr text
      [.str (Memory.cString (fun index => front.getD index 34) natsMsgMaxLen)]).bytes =
      label ++ (front ++ List.replicate (natsMsgMaxLen - 1 - label.length - front.length) 34) := by
    rw [labels.message (cString_noNul _ _), shown, List.take_append, List.take_append,
      List.take_of_length_le (by omega), List.take_of_length_le (by omega), List.take_replicate,
      Nat.min_eq_left (by omega)]
  rw [escapedMsg_length, message]
  simp only [List.length_append, List.length_replicate, List.count_append, List.count_replicate_self]
  omega

/-- A log that discloses what is behind the front publishes some of it and overruns its
buffer with other. -/
theorem answers_differ (labels : Labels text label)
    (discloses : Discloses (env.log state.logs) label front) :
    ∃ left right, BeginsWith left front ∧ BeginsWith right front ∧
      handleUploads env (.logWrite level text [.str (left.cString natsMsgMaxLen)]) state = none ∧
      ∃ next, handleUploads env (.logWrite level text [.str (right.cString natsMsgMaxLen)]) state =
        some ((), next) ∧ state.sent.length < next.sent.length := by
  refine ⟨fun index => front.getD index 34, .ofBytes front, beginsWith_getD front 34,
    beginsWith_getD front 0, ?_, ?_⟩
  · have long := labels.quotes_overrun discloses.unterminated discloses.uncut
    rw [answer_logWrite, if_neg fun fits => absurd (fits discloses.allocated) (Nat.not_lt.mpr long)]
  · have inside : front.length < natsMsgMaxLen := by
      have uncut := discloses.uncut
      omega
    have whole := cString_ofBytes discloses.unterminated inside
    have message : (msgStr text [.str front]).bytes = label ++ front := by
      rw [labels.message discloses.unterminated]
      apply List.take_of_length_le
      rw [List.length_append]
      exact Nat.le_of_lt discloses.uncut
    have fits : (escapedMsg text [.str front]).length < natsMsgMaxLen := by
      rw [escapedMsg_length, message, List.length_append, List.count_append,
        List.count_eq_zero_of_not_mem labels.noQuote, Nat.zero_add]
      exact discloses.fits
    rw [whole, answer_logWrite, if_pos fun _ => fits, (logWrite_spec _ _ level text _).2,
      if_pos ⟨discloses.allocated, fits⟩]
    exact ⟨_, rfl, by simp⟩

/-- A longer label leaves less room. -/
theorem Discloses.shorter {log other : LogEnv} {longer : Bytes} (discloses : Discloses log longer front)
    (allocated : other.allocated = true) (short : label.length ≤ longer.length) :
    Discloses other label front where
  allocated := allocated
  unterminated := discloses.unterminated
  uncut := Nat.lt_of_le_of_lt (Nat.add_le_add_right short _) discloses.uncut
  fits := by
    have fits := discloses.fits
    omega

end Logs

/-! ## The encoder -/

section Encoder

variable {sign : CharSign} {left right : Memory} {inlen padNum i : Int} {source p : Nat}

/-- A round reads past the data nowhere: the last one pads what is missing. -/
private theorem encodeRound_agrees (agree : ∀ k : Nat, (k : Int) < inlen → left k = right k)
    (here : i = source) (padded : padNum = 0 ∨ padNum = 1 ∨ padNum = 2) {groups : Nat}
    (remaining : inlen + padNum = i + 3 * (groups + 1)) :
    encodeRound sign left inlen padNum i source p = encodeRound sign right inlen padNum i source p := by
  have first : left source = right source := agree source (by omega)
  rw [encodeRound, encodeRound, first]
  by_cases last : i = inlen + padNum - 3 ∧ padNum ≠ 0
  · by_cases one : padNum = 1
    · have second : left (source + 1) = right (source + 1) := agree (source + 1) (by omega)
      simp only [if_pos last, if_pos one, second]
    · simp only [if_pos last, if_neg one]
  · have second : left (source + 1) = right (source + 1) := agree (source + 1) (by omega)
    have third : left (source + 2) = right (source + 2) := agree (source + 2) (by omega)
    simp only [if_neg last, second, third]

private theorem encodeLoop_agrees (agree : ∀ k : Nat, (k : Int) < inlen → left k = right k)
    (here : i = source) (padded : padNum = 0 ∨ padNum = 1 ∨ padNum = 2) {groups : Nat}
    (remaining : inlen + padNum = i + 3 * groups) (rounds : Nat) :
    encodeLoop sign left inlen padNum rounds i source p =
      encodeLoop sign right inlen padNum rounds i source p := by
  induction rounds generalizing i source p groups with
  | zero => rfl
  | succ rounds ih =>
    rw [encodeLoop, encodeLoop]
    by_cases inside : i < inlen + padNum
    · obtain ⟨groups, rfl⟩ := Nat.exists_eq_succ_of_ne_zero (show groups ≠ 0 by omega)
      have next : i + 3 = ((source + 3 : Nat) : Int) := by omega
      have later : inlen + padNum = i + 3 + 3 * (groups : Int) := by omega
      rw [if_pos inside, if_pos inside, encodeRound_agrees agree here padded remaining,
        ih next later]
    · rw [if_neg inside, if_neg inside]

/-- The encoding of some data does not depend on what is behind it. -/
theorem base64Encode_agrees {front : Bytes} (leftBegins : BeginsWith left front)
    (rightBegins : BeginsWith right front) :
    base64Encode sign (some left) front.length = base64Encode sign (some right) front.length := by
  have agree (k : Nat) (inside : (k : Int) < front.length) : left k = right k := by
    have below : k < front.length := Int.ofNat_lt.mp inside
    rw [leftBegins k below, rightBegins k below]
  have remainder : (front.length : Int).tmod 3 = (front.length % 3 : Nat) := rfl
  simp only [base64Encode, remainder]
  split
  · rfl
  · have rounds : ∃ groups : Nat, (front.length : Int) +
        (if ((front.length % 3 : Nat) : Int) ≠ 0 then 3 - ((front.length % 3 : Nat) : Int) else 0) =
          0 + 3 * groups := ⟨(front.length + 2) / 3, by split <;> omega⟩
    obtain ⟨groups, same⟩ := rounds
    have start : (0 : Int) = ((0 : Nat) : Int) := rfl
    rw [encodeLoop_agrees agree start (by split <;> omega) same]

theorem encodedMsg_agrees {config : DriverConfig} {front : Bytes} (leftBegins : BeginsWith left front)
    (rightBegins : BeginsWith right front) :
    encodedMsg config (some left) front.length = encodedMsg config (some right) front.length := by
  rw [encodedMsg, encodedMsg, base64Encode_agrees leftBegins rightBegins]

end Encoder

/-! ## The two calls -/

/-- What `edge_publish` does after the log of its data. -/
def publishEncoded (config : DriverConfig) (topic : CString) (normalPayloadBase64 : Bytes) :
    Program edge EdgeStatus := do
  if !(← malloc (.buffer .normalMsg)) then
    logWrite .error "normal_msg malloc fail!" []
    free (.buffer .normalPayloadBase64)
    return .noMemory
  let normalMsg :=
    snprintf natsMsgMaxLen normalMsgFormat [.str topic.bytes, .str normalPayloadBase64]
  logWrite .debug "normal_msg:%s" [.str normalMsg]
  let status ← publishAndFlush config.edgeRouterSubject normalMsg
  free (.buffer .normalPayloadBase64)
  free (.buffer .normalMsg)
  return status

theorem edgePublish_eq (config : DriverConfig) (topic : CString) (data : Memory) (dataLen : Int) :
    edgePublish config (some topic) (some data) dataLen = (do
      if !(← malloc (.buffer .normalPayloadBase64)) then
        logWrite .error "normal_payload_base64 malloc fail!" []
        return .noMemory
      let normalPayloadBase64 ← base64Text config data dataLen
      logWrite .debug "send data:%s" [.str (data.cString natsMsgMaxLen)]
      publishEncoded config topic normalPayloadBase64) := rfl

section Calls

variable {config : DriverConfig} {env : UploadEnv} {world : World} {state : Outgoing}
  {left right data : Memory} {front : Bytes}

@[simp] theorem run_malloc_uploads (site : AllocSite) :
    (malloc site).run (handleUploads env) state = some (env.call.malloc site, state) := by
  rw [malloc, run_request, handleUploads]
  · simp [respond, publication]
  · exact fun _ _ _ same => by cases same

@[simp] theorem run_logWrite_uploads (level : LogLevel) (text : String) (args : List Arg) :
    (logWrite level text args).run (handleUploads env) state =
      handleUploads env (.logWrite level text args) state :=
  run_request ..

@[simp] theorem run_base64Text_uploads (dataLen : Int) :
    (base64Text config data dataLen).run (handleUploads env) state =
      (encodedMsg config (some data) dataLen).map fun coded => (coded.text, state) := by
  rw [base64Text]
  cases encodedMsg config (some data) dataLen <;> rfl

/-- What is left after the log of the message goes on to the status of the publish. -/
theorem run_publishEncoded (topic : CString) (payload : Bytes) :
    (publishEncoded config topic payload).run (handleUploads env) state =
      if env.call.malloc (.buffer .normalMsg) = true then
        let normalMsg := snprintf natsMsgMaxLen normalMsgFormat [.str topic.bytes, .str payload]
        (handleUploads env (.logWrite .debug "normal_msg:%s" [.str normalMsg]) state).map fun (_, next) =>
          (env.call.publishStatus.or env.call.flushStatus,
            { next with sent := next.sent ++ [(config.edgeRouterSubject, normalMsg)] })
      else (handleUploads env (.logWrite .error "normal_msg malloc fail!" []) state).map fun (_, next) =>
        (.noMemory, next) := by
  rw [publishEncoded, run_bind, run_malloc_uploads, Option.bind_some]
  cases env.call.malloc (.buffer .normalMsg) with
  | false =>
    simp only [Bool.not_false, if_true, Bool.false_eq_true, if_false, run_bind, run_logWrite_uploads]
    cases handleUploads env (.logWrite .error "normal_msg malloc fail!" []) state <;>
      simp [free, run, handleUploads, respond, publication]
  | true =>
    simp only [Bool.not_true, Bool.false_eq_true, if_false, if_true, run_bind, run_logWrite_uploads]
    cases handleUploads env (.logWrite .debug "normal_msg:%s" [.str (snprintf natsMsgMaxLen
      normalMsgFormat [.str topic.bytes, .str payload])]) state <;>
      simp [publishAndFlush, publishString, flush, free, run, handleUploads, respond, publication]

end Calls

/-! ## What is confined to the data -/

/-- Whatever is behind the front, the same is handed over. -/
def Confined (front : Bytes) (sent : Memory → List (Bytes × Bytes)) : Prop :=
  ∀ left right, BeginsWith left front → BeginsWith right front → sent left = sent right

def dataLabel : Bytes := ascii "send data:"
def rrpcLabel : Bytes := ascii "edge_publish rrpc :"

/-- The call has its first buffer, and the encoder stays within its table and the buffer. -/
structure ReachesLog (config : DriverConfig) (env : UploadEnv) (front : Bytes) : Prop where
  allocated : env.call.malloc (.buffer .normalPayloadBase64) = true
  encoded : (encodedMsg config (some (.ofBytes front)) front.length).isSome = true

/-- The message is published with success. -/
structure Publishes (config : DriverConfig) (env : UploadEnv) (topic : CString) (front : Bytes) : Prop where
  allocated : env.call.malloc (.buffer .normalMsg) = true
  logged : ∀ coded, encodedMsg config (some (.ofBytes front)) front.length = some coded →
    (env.log 1).allocated = true → (escapedMsg "normal_msg:%s" [.str (snprintf natsMsgMaxLen
      normalMsgFormat [.str topic.bytes, .str coded.text])]).length < natsMsgMaxLen
  accepted : env.call.publishStatus.or env.call.flushStatus = .ok

/-- `edge_publish` comes to its log, and the log discloses what is behind the data. -/
def PublishDiscloses (config : DriverConfig) (env : UploadEnv) (topic : Option CString) (front : Bytes) :
    Prop :=
  topic.isSome = true ∧ ReachesLog config env front ∧ Discloses (env.log 0) dataLabel front

/-- So does its log, or the one at the end of `edge_rrpc_response`. -/
def ResponseDiscloses (config : DriverConfig) (env : UploadEnv) (topic : Option CString)
    (front : Bytes) : Prop :=
  ∃ answered, topic.bind responseTopic = some answered ∧ ReachesLog config env front ∧
    (Discloses (env.log 0) dataLabel front ∨
      Publishes config env answered front ∧ Discloses (env.log 2) rrpcLabel front)

section Confined

variable {config : DriverConfig} {env : UploadEnv} {world : World} {state : Outgoing}
  {left right data : Memory} {front : Bytes} {topic : CString}

private theorem dataLabels : Labels "send data:%s" dataLabel where
  shows shown := congrArg (dataLabel ++ ·) (List.append_nil shown)
  noNul := by decide
  noQuote := by decide

private theorem rrpcLabels : Labels "edge_publish rrpc :%s" rrpcLabel where
  shows shown := congrArg (rrpcLabel ++ ·) (List.append_nil shown)
  noNul := by decide
  noQuote := by decide

/-- Two programs that begin with a log of the data part there when the log discloses. -/
private theorem discloses_parts (state : Outgoing) {level : LogLevel} {text : String} {label : Bytes}
    (labels : Labels text label)
    (discloses : Discloses (env.log state.logs) label front) (next : Memory → Program edge α) :
    ∃ left right, BeginsWith left front ∧ BeginsWith right front ∧
      ((do logWrite level text [.str (left.cString natsMsgMaxLen)]; next left).reached
          (handleUploads env) state).sent ≠
        ((do logWrite level text [.str (right.cString natsMsgMaxLen)]; next right).reached
          (handleUploads env) state).sent := by
  obtain ⟨left, right, leftBegins, rightBegins, unanswered, middle, answered, more⟩ :=
    @answers_differ env state level text label front labels discloses
  refine ⟨left, right, leftBegins, rightBegins, fun same => ?_⟩
  rw [reached_bind, reached_bind, run_logWrite_uploads, run_logWrite_uploads, unanswered, answered,
    logWrite, reached, unanswered] at same
  have later := sent_le_reached env (next right) middle
  simp only [Option.map_none, Option.getD_none, Option.map_some, Option.getD_some] at same
  rw [← same] at later
  omega

/-- Once the encoder has its result, the log of the data comes first. -/
private theorem edgePublish_toLog {coded : Coded} {dataLen : Int}
    (allocated : env.call.malloc (.buffer .normalPayloadBase64) = true)
    (encoded : encodedMsg config (some data) dataLen = some coded) :
    SameFrom (handleUploads env) state (edgePublish config (some topic) (some data) dataLen)
      (do
        logWrite .debug "send data:%s" [.str (data.cString natsMsgMaxLen)]
        publishEncoded config topic coded.text) := by
  rw [edgePublish_eq]
  constructor
  · simp only [run_bind, run_malloc_uploads, allocated, Option.bind_some, Bool.not_true,
      Bool.false_eq_true, if_false, run_base64Text_uploads, encoded, Option.map_some]
  · simp only [reached_bind, run_malloc_uploads, allocated, Option.map_some, Option.getD_some,
      Bool.not_true, Bool.false_eq_true, if_false, run_base64Text_uploads, encoded]

private theorem sameFrom_logWrite {level : LogLevel} {text : String} {args others : List Arg}
    (same : handleUploads env (.logWrite level text args) state =
      handleUploads env (.logWrite level text others) state) :
    SameFrom (handleUploads env) state (logWrite level text args) (logWrite level text others) := by
  constructor
  · rw [run_logWrite_uploads, run_logWrite_uploads, same]
  · rw [logWrite, logWrite, reached, reached]
    cases answered : handleUploads env (.logWrite level text others) state with
    | none => rw [same, answered]
    | some answer => rw [same, answered]

theorem edgePublish_same (leftBegins : BeginsWith left front) (rightBegins : BeginsWith right front)
    (kept : ReachesLog config env front → ¬ Discloses (env.log state.logs) dataLabel front) :
    SameFrom (handleUploads env) state (edgePublish config (some topic) (some left) front.length)
      (edgePublish config (some topic) (some right) front.length) := by
  have encodes : encodedMsg config (some right) front.length =
      encodedMsg config (some (.ofBytes front)) front.length :=
    encodedMsg_agrees rightBegins (beginsWith_getD front 0)
  have texts : base64Text config left front.length = base64Text config right front.length := by
    rw [base64Text, base64Text, encodedMsg_agrees leftBegins rightBegins]
  rw [edgePublish_eq, edgePublish_eq, texts]
  refine .bind (.refl _) fun allocated middle ran => ?_
  rw [run_malloc_uploads] at ran
  cases ran
  refine .ite (fun _ => .refl _) fun ready => ?_
  refine .bind (.refl _) fun payload middle ran => ?_
  rw [run_base64Text_uploads, encodes] at ran
  obtain ⟨coded, encoded, same⟩ := Option.map_eq_some_iff.mp ran
  cases same
  have reaches : ReachesLog config env front := ⟨by simpa using ready, by rw [encoded]; rfl⟩
  refine .bind ?_ fun _ _ _ => .refl _
  exact sameFrom_logWrite (answer_same dataLabels (kept reaches) leftBegins rightBegins)

private theorem responseLog_same {status : EdgeStatus} (leftBegins : BeginsWith left front)
    (rightBegins : BeginsWith right front)
    (kept : status = .ok → ¬ Discloses (env.log state.logs) rrpcLabel front) :
    SameFrom (handleUploads env) state (responseLog (some left) status)
      (responseLog (some right) status) := by
  rw [responseLog, responseLog]
  refine .ite (fun _ => .refl _) fun sent => ?_
  refine .bind ?_ fun _ _ _ => .refl _
  exact sameFrom_logWrite (answer_same rrpcLabels (kept (not_not.mp sent)) leftBegins rightBegins)

private theorem logs_of_answer {level : LogLevel} {text : String} {args : List Arg} {next : Outgoing}
    (answered : handleUploads env (.logWrite level text args) state = some ((), next)) :
    ((env.log state.logs).allocated = true → (escapedMsg text args).length < natsMsgMaxLen) ∧
      next.logs = state.logs + 1 := by
  rw [answer_logWrite] at answered
  split at answered
  · rename_i fits
    cases answered
    exact ⟨fits, rfl⟩
  · cases answered

/-- A call that returns `EDGE_OK` has written two logs and published. -/
private theorem published_of_ok {final : Outgoing} (begins : BeginsWith data front)
    (ran : (edgePublish config (some topic) (some data) front.length).run (handleUploads env)
      ⟨world, 0, []⟩ = some (.ok, final)) :
    ReachesLog config env front ∧ Publishes config env topic front ∧ final.logs = 2 := by
  have encodes : encodedMsg config (some data) front.length =
      encodedMsg config (some (.ofBytes front)) front.length :=
    encodedMsg_agrees begins (beginsWith_getD front 0)
  rw [edgePublish_eq, run_bind, run_malloc_uploads, Option.bind_some] at ran
  cases allocated : env.call.malloc (.buffer .normalPayloadBase64) with
  | false =>
    simp only [allocated, Bool.not_false, if_true, run_bind, Option.bind_eq_some_iff] at ran
    obtain ⟨_, -, ran⟩ := ran
    cases ran
  | true =>
    simp only [allocated, Bool.not_true, Bool.false_eq_true, if_false, run_bind, run_base64Text_uploads,
      encodes, Option.bind_eq_some_iff, Option.map_eq_some_iff, run_logWrite_uploads] at ran
    obtain ⟨_, ⟨coded, encoded, rfl⟩, ⟨_, middle⟩, logged, ran⟩ := ran
    have first := (logs_of_answer logged).2
    rw [run_publishEncoded] at ran
    split at ran
    · rename_i message
      obtain ⟨⟨_, next⟩, second, same⟩ := Option.map_eq_some_iff.mp ran
      simp only [Prod.mk.injEq] at same
      obtain ⟨fits, count⟩ := logs_of_answer second
      refine ⟨⟨allocated, by rw [encoded]; rfl⟩, ⟨message, fun other found => ?_, same.1⟩, ?_⟩
      · cases encoded.symm.trans found
        rw [first] at fits
        exact fits
      · rw [← same.2, count, first]
    · obtain ⟨_, -, same⟩ := Option.map_eq_some_iff.mp ran
      cases same

/-- Without its log of the data, the call comes to the same state for all of them. -/
private theorem published_unlogged (reaches : ReachesLog config env front)
    (publishes : Publishes config env topic front) (unallocated : (env.log 0).allocated ≠ true) :
    ∃ final, final.logs = 2 ∧ ∀ data, BeginsWith data front →
      (edgePublish config (some topic) (some data) front.length).run (handleUploads env) ⟨world, 0, []⟩ =
        some (.ok, final) := by
  obtain ⟨coded, encoded⟩ := Option.isSome_iff_exists.mp reaches.encoded
  have ran : ∃ final, final.logs = 2 ∧
      (edgePublish config (some topic) (some (.ofBytes front)) front.length).run (handleUploads env)
        ⟨world, 0, []⟩ = some (.ok, final) := by
    rw [(edgePublish_toLog reaches.allocated encoded).run, run_bind, run_logWrite_uploads,
      answer_logWrite, if_pos fun allocated => absurd allocated unallocated, Option.bind_some,
      run_publishEncoded, if_pos publishes.allocated]
    simp only [answer_logWrite]
    rw [if_pos (publishes.logged coded encoded), Option.map_some, publishes.accepted]
    exact ⟨_, rfl, rfl⟩
  obtain ⟨final, count, ran⟩ := ran
  refine ⟨final, count, fun data begins => ?_⟩
  rw [(edgePublish_same begins (beginsWith_getD front 0) fun _ discloses =>
    unallocated discloses.allocated).run]
  exact ran

private theorem edgePublish_confined_iff (topic : Option CString) :
    Confined front (fun data =>
        handedOver env world (edgePublish config topic (some data) front.length)) ↔
      ¬ PublishDiscloses config env topic front := by
  constructor
  · rintro confined ⟨given, reaches, discloses⟩
    obtain ⟨topic, rfl⟩ := Option.isSome_iff_exists.mp given
    obtain ⟨coded, encoded⟩ := Option.isSome_iff_exists.mp reaches.encoded
    obtain ⟨left, right, leftBegins, rightBegins, differ⟩ :=
      discloses_parts ⟨world, 0, []⟩ dataLabels discloses fun _ => publishEncoded config topic coded.text
    have toLog {data : Memory} (begins : BeginsWith data front) : SameFrom (handleUploads env)
        ⟨world, 0, []⟩ (edgePublish config (some topic) (some data) front.length) _ :=
      edgePublish_toLog reaches.allocated
        ((encodedMsg_agrees begins (beginsWith_getD front 0)).trans encoded)
    rw [← (toLog leftBegins).reached, ← (toLog rightBegins).reached] at differ
    exact differ (confined left right leftBegins rightBegins)
  · intro kept left right leftBegins rightBegins
    cases topic with
    | none => rfl
    | some topic =>
      apply congrArg Outgoing.sent
      apply SameFrom.reached
      apply edgePublish_same leftBegins rightBegins
      exact fun reaches discloses => kept ⟨rfl, reaches, discloses⟩

private theorem responseLog_ok (payload : Memory) : responseLog (some payload) .ok = (do
    logWrite .debug "edge_publish rrpc :%s" [.str (payload.cString natsMsgMaxLen)]
    return .ok) := by
  rw [responseLog, if_neg (not_not.mpr rfl)]
  rfl

private theorem labels_shorter : dataLabel.length ≤ rrpcLabel.length := by decide

/-- An answer parts where its message does, and after that at its own log. -/
private theorem response_parts (reaches : ReachesLog config env front)
    (which : Discloses (env.log 0) dataLabel front ∨
      Publishes config env topic front ∧ Discloses (env.log 2) rrpcLabel front) :
    ∃ left right, BeginsWith left front ∧ BeginsWith right front ∧
      handedOver env world (do
        let status ← edgePublish config (some topic) (some left) front.length
        responseLog (some left) status) ≠
      handedOver env world (do
        let status ← edgePublish config (some topic) (some right) front.length
        responseLog (some right) status) := by
  by_cases first : Discloses (env.log 0) dataLabel front
  · obtain ⟨coded, encoded⟩ := Option.isSome_iff_exists.mp reaches.encoded
    obtain ⟨left, right, leftBegins, rightBegins, differ⟩ :=
      discloses_parts ⟨world, 0, []⟩ dataLabels first fun data => do
        let status ← publishEncoded config topic coded.text
        responseLog (some data) status
    have toLog {data : Memory} (begins : BeginsWith data front) : SameFrom (handleUploads env)
        ⟨world, 0, []⟩ (edgePublish config (some topic) (some data) front.length >>=
          responseLog (some data)) _ :=
      .bind (edgePublish_toLog reaches.allocated
        ((encodedMsg_agrees begins (beginsWith_getD front 0)).trans encoded)) fun _ _ _ => .refl _
    refine ⟨left, right, leftBegins, rightBegins, ?_⟩
    rw [handedOver, handedOver, (toLog leftBegins).reached, (toLog rightBegins).reached]
    exact differ
  · obtain ⟨publishes, last⟩ := which.resolve_left first
    have unallocated : (env.log 0).allocated ≠ true :=
      fun allocated => first (last.shorter allocated labels_shorter)
    obtain ⟨final, count, ran⟩ := @published_unlogged config env world front topic reaches publishes
      unallocated
    rw [← count] at last
    obtain ⟨left, right, leftBegins, rightBegins, differ⟩ :=
      discloses_parts final rrpcLabels last fun _ => (return EdgeStatus.ok)
    refine ⟨left, right, leftBegins, rightBegins, ?_⟩
    rw [handedOver, handedOver, reached_bind, reached_bind, ran left leftBegins, ran right rightBegins,
      Option.map_some, Option.map_some, responseLog_ok, responseLog_ok]
    exact differ

private theorem edgeRrpcResponse_confined_iff (stack : Memory) (topic : Option CString) :
    Confined front (fun payload =>
        handedOver env world (edgeRrpcResponse config stack topic (some payload) front.length)) ↔
      ¬ ResponseDiscloses config env topic front := by
  cases topic with
  | none =>
    constructor
    · rintro - ⟨_, absent, -⟩
      cases absent
    · exact fun _ _ _ _ _ => rfl
  | some topic =>
    simp only [edgeRrpcResponse_eq, ResponseDiscloses, Option.bind_some]
    cases responseTopic topic with
    | none =>
      constructor
      · rintro - ⟨_, absent, -⟩
        cases absent
      · exact fun _ _ _ _ _ => rfl
    | some answered =>
      constructor
      · rintro confined ⟨_, same, reaches, which⟩
        cases same
        obtain ⟨left, right, leftBegins, rightBegins, differ⟩ := response_parts reaches which
        exact differ (confined left right leftBegins rightBegins)
      · intro kept left right leftBegins rightBegins
        apply congrArg Outgoing.sent
        apply SameFrom.reached
        refine .bind (edgePublish_same leftBegins rightBegins ?_) fun status final ran => ?_
        · exact fun reaches discloses => kept ⟨answered, rfl, reaches, .inl discloses⟩
        · refine responseLog_same leftBegins rightBegins fun ok discloses => ?_
          subst ok
          obtain ⟨reaches, publishes, count⟩ := published_of_ok rightBegins ran
          rw [count] at discloses
          exact kept ⟨answered, rfl, reaches, .inr ⟨publishes, discloses⟩⟩

end Confined

/-- What the two calls hand to NATS, log uploads included, depends on nothing behind the data
exactly where no log discloses it. -/
theorem confined_iff (config : DriverConfig) (env : UploadEnv) (world : World) (stack : Memory)
    (topic : Option CString) (front : Bytes) :
    (Confined front (fun data =>
        handedOver env world (edgePublish config topic (some data) front.length)) ↔
      ¬ PublishDiscloses config env topic front) ∧
    (Confined front (fun payload =>
        handedOver env world (edgeRrpcResponse config stack topic (some payload) front.length)) ↔
      ¬ ResponseDiscloses config env topic front) :=
  ⟨edgePublish_confined_iff topic, edgeRrpcResponse_confined_iff stack topic⟩

/-- Every log gets its buffers, in a driver of this name. -/
private def calmUploads : UploadEnv := ⟨.calm, ascii "modbus", fun _ => ⟨fun _ => true, 1700000000⟩⟩

/-- A reading of four bytes. -/
private def reading : Bytes := ascii "21.5"

private def publishReading (data : Memory) : Program edge EdgeStatus :=
  edgePublish .plain (some (.literal "/t")) (some data) reading.length

/-- Both calls return `EDGE_OK`, and the second has uploaded what the buffer held before. -/
private theorem reading_differs :
    ((publishReading (.ofBytes reading)).run (handleUploads calmUploads) ⟨.initial, 0, []⟩).map
      Prod.fst = some .ok ∧
    ((publishReading (.ofBytes (reading ++ ascii " secret"))).run (handleUploads calmUploads)
      ⟨.initial, 0, []⟩).map Prod.fst = some .ok ∧
    handedOver calmUploads .initial (publishReading (.ofBytes reading)) ≠
      handedOver calmUploads .initial (publishReading (.ofBytes (reading ++ ascii " secret"))) := by
  decide +kernel

/-- A short message in a buffer that held a longer text. -/
theorem stale_bytes_uploaded : ¬ ∀ (config : DriverConfig) (env : UploadEnv) (world : World)
    (stack : Memory) (topic : Option CString) (front : Bytes), front ≠ [] →
    Confined front (fun data =>
      handedOver env world (edgePublish config topic (some data) front.length)) ∧
    Confined front (fun payload =>
      handedOver env world (edgeRrpcResponse config stack topic (some payload) front.length)) := by
  intro always
  have confined := (always .plain calmUploads .initial .zero (some (.literal "/t")) reading
    (by decide)).1
  have stale : BeginsWith (.ofBytes (reading ++ ascii " secret")) reading := by
    intro k inside
    simp [Memory.ofBytes, List.getElem?_append_left inside, inside]
  exact reading_differs.2.2 (confined _ _ (beginsWith_getD reading 0) stale)

end IotstackDriver.Edge
