import IotstackDriver.Edge.Traces
import IotstackDriver.Edge.Calls
import IotstackDriver.Edge.Observed
import IotstackDriver.Edge.Base64RoundTrip

/-! A message from `nats_publish` to the handler `_on_nats_message` calls. -/

namespace IotstackDriver.Edge

open Libc Support

/-- Data whose base64 text fits a message buffer with its terminator. -/
structure Sendable where
  bytes : Bytes
  fits : 4 * ((bytes.length + 2) / 3) ≤ natsMsgMaxLen - 1

/-- The data begins at the address the memory is seen from. -/
def Sendable.StoredAt (data : Sendable) (indata : Memory) : Prop :=
  ∀ k (inside : k < data.bytes.length), indata k = data.bytes[k]

theorem Sendable.storedAt_ofBytes (data : Sendable) : data.StoredAt (.ofBytes data.bytes) := by
  intro k inside
  simp [Memory.ofBytes, inside]

/-- What the encoder leaves of some data: nothing and an error for no data at all. -/
def Sendable.coded (data : Sendable) : Coded :=
  if data.bytes = [] then ⟨-1, []⟩ else ⟨0, consecutive 0 (Rfc4648.encode data.bytes)⟩

variable {data : Sendable} {indata : Memory}

theorem base64Encode_sendable (stored : data.StoredAt indata) :
    base64Encode .unsigned (some indata) data.bytes.length = some data.coded := by
  rw [Sendable.coded]
  split
  · rename_i empty
    rw [empty]
    exact base64Encode_zero .unsigned (some indata)
  · rename_i nonempty
    exact base64Encode_eq data.bytes nonempty stored fun k _ _ => unsigned_nonneg (indata k)

theorem encodedMsg_sendable {config : DriverConfig} (unsigned : config.charSign = .unsigned)
    (stored : data.StoredAt indata) :
    encodedMsg config (some indata) data.bytes.length = some data.coded := by
  refine encodedMsg_eq_some.mpr ⟨unsigned ▸ base64Encode_sendable stored, ?_⟩
  rw [Coded.Fits, Sendable.coded]
  split
  · exact Nat.succ_pos _
  · rw [consecutive_length, Rfc4648.encode_length]
    exact Nat.lt_of_le_of_lt data.fits (by decide)

theorem coded_text (ret : Int) (text : Bytes) (noNul : 0 ∉ text) :
    (Coded.mk ret (consecutive 0 text)).text = text := by
  rw [Coded.text, storeAll_zero_consecutive, consecutive_length]
  exact cString_ofBytes noNul (Nat.lt_succ_self _)

theorem Sendable.coded_text (data : Sendable) : data.coded.text = Rfc4648.encode data.bytes := by
  rw [Sendable.coded]
  split
  · rename_i empty
    rw [empty]
    rfl
  · exact Edge.coded_text 0 _ (Rfc4648.encode_noNul data.bytes)

/-- The decoder refuses the text of no data and restores any other. -/
theorem base64Decode_sendable (data : Sendable) :
    base64Decode .unsigned (some (Rfc4648.encode data.bytes)) (Rfc4648.encode data.bytes).length =
      some (if data.bytes = [] then ⟨-1, []⟩ else ⟨data.bytes.length, consecutive 0 data.bytes⟩) := by
  split
  · rename_i empty
    rw [empty]
    rfl
  · rename_i nonempty
    exact base64Decode_encode data.bytes nonempty

/-- The handler was called once, with the bytes sent and their number. -/
def HandsOver (handler : HandlerPtr) (subject : CString) (bytes : Bytes)
    (calls : List HandlerCall) : Prop :=
  ∃ payload, calls = [.nats handler subject payload bytes.length] ∧
    ∀ k (inside : k < bytes.length), payload k = bytes[k]

/-- A run of `nats_publish`, and for each message it hands to NATS a run of the
receiver on that message. -/
structure Link where
  sender : DriverConfig
  sending : Env
  sendingWorld : World
  receiver : DriverConfig
  receiving : Env
  receivingWorld : World
  handler : HandlerPtr
  senderUnsigned : sender.charSign = .unsigned
  receiverUnsigned : receiver.charSign = .unsigned
  handlerSet : receiver.edgeNatsMsgHandle = some handler

namespace Link

def Receives (link : Link) (message : Bytes × Bytes) (subject : CString) (bytes : Bytes) : Prop :=
  ∃ final calls, trace (handle link.receiving) invocation
      (onNatsMessage link.receiver ⟨.ofBytes message.1, message.2⟩) link.receivingWorld [] =
        some ((), final, calls) ∧ HandsOver link.handler subject bytes calls

/-- Every message sent is handed to the receiver's handler as it was given to the
sender. -/
def Delivers (link : Link) (subject : CString) (indata : Memory) (bytes : Bytes) : Prop :=
  ∃ status final published, trace (handle link.sending) publication
      (natsPublish link.sender subject (some indata) bytes.length) link.sendingWorld [] =
        some (status, final, published) ∧
    ∀ message ∈ published, link.Receives message subject bytes

/-- What the receiver logs of the data, in its base64 text and decoded. -/
def receivingLogs (subject : CString) (data : Sendable) : List (String × List Arg) :=
  natsLogs ⟨subject, Rfc4648.encode data.bytes⟩ ⟨data.bytes.length, consecutive 0 data.bytes⟩

variable (link : Link) (subject : CString)

/-- The decoded data leaves room in the buffer for its NUL. -/
private theorem decodeMsg_sendable (data : Sendable) :
    base64DecodeMsg link.receiver (Rfc4648.encode data.bytes) (Rfc4648.encode data.bytes).length =
      pure (if data.bytes = [] then ⟨-1, []⟩ else ⟨data.bytes.length, consecutive 0 data.bytes⟩) := by
  have decoded := base64Decode_sendable data
  rw [← link.receiverUnsigned] at decoded
  refine base64DecodeMsg_fits decoded ?_
  have short := data.fits
  split
  · exact Nat.succ_pos _
  · rw [Coded.Fits, consecutive_length]
    rw [natsMsgMaxLen] at short ⊢
    omega

private theorem natsPublish_logsFit (indata : Option Memory) (dataLen : Int) :
    LogsFit link.sending (natsPublish link.sender subject indata dataLen) link.sendingWorld := by
  have inside : link.sending.logFits "normal_payload_base64 malloc fail!" [] = true :=
    logFits_of_inside (by decide +kernel)
  rw [natsPublish]
  cases link.sending.malloc (.buffer .normalPayloadBase64) <;>
    cases encodedMsg link.sender indata dataLen <;> simp [inside]

private theorem onNatsMessage_logsFit (data : Sendable) (nonempty : data.bytes ≠ [])
    (allocated : link.receiving.malloc (.buffer .msgBase64decode) = true) :
    LogsFit link.receiving (onNatsMessage link.receiver ⟨.ofBytes subject.bytes, Rfc4648.encode data.bytes⟩)
      link.receivingWorld ↔ link.receiving.logsFit (receivingLogs subject data) = true := by
  simp [onNatsMessage, allocated, decodeMsg_sendable, nonempty, receivingLogs, natsLogs, Env.logsFit,
    link.handlerSet]

private theorem trace_natsPublish (stored : data.StoredAt indata) : ∃ status,
    trace (respond link.sending) publication (natsPublish link.sender subject (some indata) data.bytes.length)
        link.sendingWorld [] =
      some (status, link.sendingWorld, if link.sending.malloc (.buffer .normalPayloadBase64) then
        [(subject.bytes, Rfc4648.encode data.bytes)] else []) := by
  rw [natsPublish, trace_bind, trace_malloc]
  cases allocated : link.sending.malloc (.buffer .normalPayloadBase64) with
  | false => exact ⟨.noMemory, rfl⟩
  | true =>
    refine ⟨link.sending.publishStatus.or link.sending.flushStatus, ?_⟩
    simp only [Option.bind_some, Bool.not_true, Bool.false_eq_true, ↓reduceIte,
      encodedMsg_sendable link.senderUnsigned stored, trace_publishAndFlush, data.coded_text]
    rfl

private theorem trace_onNatsMessage (data : Sendable) :
    trace (respond link.receiving) invocation
        (onNatsMessage link.receiver ⟨.ofBytes subject.bytes, Rfc4648.encode data.bytes⟩)
        link.receivingWorld [] =
      some ((), link.receivingWorld, if link.receiving.malloc (.buffer .msgBase64decode) then
        [if data.bytes = [] then .nats link.handler subject .zero (-1)
          else .nats link.handler subject (.ofBytes data.bytes) data.bytes.length] else []) := by
  rw [onNatsMessage, trace_bind, trace_logWrite, Option.bind_some, trace_bind, trace_malloc]
  cases allocated : link.receiving.malloc (.buffer .msgBase64decode) with
  | false => rfl
  | true =>
    simp only [Option.bind_some, Bool.not_true, Bool.false_eq_true, ↓reduceIte, decodeMsg_sendable,
      trace_bind, trace_pure, trace_logWrite, link.handlerSet, trace_forM, trace_free,
      CString.ofBytes_bytes]
    split
    · rfl
    · rw [storeAll_zero_consecutive]
      rfl

/-- A message without data reaches the handler with a length of -1. -/
private theorem receives_iff (data : Sendable) :
    link.Receives (subject.bytes, Rfc4648.encode data.bytes) subject data.bytes ↔
      data.bytes ≠ [] ∧ link.receiving.malloc (.buffer .msgBase64decode) = true ∧
        link.receiving.logsFit (receivingLogs subject data) = true := by
  simp only [Receives, trace_handle_iff, trace_onNatsMessage]
  constructor
  · rintro ⟨final, calls, ⟨fit, ran⟩, payload, called, -⟩
    cases ran
    cases allocated : link.receiving.malloc (.buffer .msgBase64decode) with
    | false => simp [allocated] at called
    | true =>
      have nonempty : data.bytes ≠ [] := by
        intro empty
        simp [allocated, empty] at called
      exact ⟨nonempty, rfl, (onNatsMessage_logsFit link subject data nonempty allocated).mp fit⟩
  · rintro ⟨nonempty, allocated, fit⟩
    refine ⟨_, _, ⟨(onNatsMessage_logsFit link subject data nonempty allocated).mpr fit, rfl⟩,
      .ofBytes data.bytes, ?_, ?_⟩
    · rw [if_pos allocated, if_neg nonempty]
    · intro k inside
      simp [Memory.ofBytes, inside]

/-- Data sent by `nats_publish` arrives whole with its length exactly when nothing is
sent for want of a buffer, or there is data, and the receiver has a buffer for it and logs it
inside the buffers of the logs. -/
theorem delivers_iff (data : Sendable) (indata : Memory) (stored : data.StoredAt indata) :
    link.Delivers subject indata data.bytes ↔
      link.sending.malloc (.buffer .normalPayloadBase64) = false ∨
        data.bytes ≠ [] ∧ link.receiving.malloc (.buffer .msgBase64decode) = true ∧
          link.receiving.logsFit (receivingLogs subject data) = true := by
  obtain ⟨status, sent⟩ := trace_natsPublish link subject stored
  simp only [Delivers, trace_handle_iff, sent, ← receives_iff link subject]
  constructor
  · rintro ⟨_, _, published, ⟨-, same⟩, received⟩
    cases same
    cases allocated : link.sending.malloc (.buffer .normalPayloadBase64) with
    | false => exact .inl rfl
    | true => exact .inr (received _ (by simp [allocated]))
  · intro condition
    refine ⟨status, _, _, ⟨natsPublish_logsFit link subject _ _, rfl⟩, ?_⟩
    intro message member
    split at member
    · rename_i allocated
      rw [List.mem_singleton.mp member]
      exact condition.resolve_left fun missing => by cases allocated.symm.trans missing
    · cases member

end Link

/-- Two drivers of which the receiver has handler 1. -/
private def calmLink : Link where
  sender := .plain
  sending := .calm
  sendingWorld := .initial
  receiver := { DriverConfig.plain with edgeNatsMsgHandle := some 1 }
  receiving := .calm
  receivingWorld := .initial
  handler := 1
  senderUnsigned := rfl
  receiverUnsigned := rfl
  handlerSet := rfl

private def twoBytes : Sendable := ⟨[104, 105], by decide⟩

theorem delivers_iff_twoBytes :
    calmLink.Delivers (.literal "/a/b/c") (.ofBytes [104, 105]) [104, 105] ↔
      calmLink.sending.malloc (.buffer .normalPayloadBase64) = false ∨
        ([104, 105] : Bytes) ≠ [] ∧ calmLink.receiving.malloc (.buffer .msgBase64decode) = true ∧
          calmLink.receiving.logsFit (Link.receivingLogs (.literal "/a/b/c") twoBytes) = true :=
  calmLink.delivers_iff (.literal "/a/b/c") twoBytes (.ofBytes [104, 105])
    twoBytes.storedAt_ofBytes

/-- A message of no bytes is published, and its handler is told of -1 bytes. -/
theorem natsPublish_empty_mismatch : ¬ ∀ (link : Link) (subject : CString) (data : Sendable)
    (indata : Memory), data.StoredAt indata → link.Delivers subject indata data.bytes := by
  intro always
  obtain ⟨status, final, published, sent, received⟩ :=
    always calmLink (.literal "/a/b/c") ⟨[], by decide⟩ .zero (fun _ inside => by cases inside)
  cases sent
  obtain ⟨after, calls, ran, payload, called, -⟩ := received _ (List.mem_singleton.mpr rfl)
  cases ran
  cases called

end IotstackDriver.Edge
