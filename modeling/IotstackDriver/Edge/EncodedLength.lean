import IotstackDriver.Edge.Observed
import IotstackDriver.Edge.Topo
import IotstackDriver.Edge.Traces

/-! How far `base64_encode` writes into its output buffer, for each of the texts the driver
hands to it. -/

namespace IotstackDriver.Edge

open Libc Support Program

/-- The positions the rounds of the encoding loop write from `p` on. -/
def encodedPositions (inLen : Int) : Nat → Int → Nat → List Nat
  | 0, _, _ => []
  | rounds + 1, i, p =>
    if i < inLen then [p, p + 1, p + 2, p + 3] ++ encodedPositions inLen rounds (i + 3) (p + 4)
    else []

/-- The positions `base64_encode` writes, which do not depend on the bytes it reads. -/
def writtenPositions (indata : Option Memory) (inlen : Nat) : List Nat :=
  match indata with
  | none => []
  | some _ =>
    if inlen = 0 then []
    else
      let padNum : Int := if (inlen : Int).tmod 3 ≠ 0 then 3 - (inlen : Int).tmod 3 else 0
      encodedPositions (inlen + padNum) (inlen + padNum).toNat 0 0

section Positions

variable {sign : CharSign} {indata : Memory} {inlen padNum i : Int} {source p : Nat}

private theorem encodeRound_positions {here : List (Nat × UInt8)}
    (padded : padNum = 0 ∨ padNum = 1 ∨ padNum = 2)
    (stored : encodeRound sign indata inlen padNum i source p = some here) :
    here.map Prod.fst = [p, p + 1, p + 2, p + 3] := by
  simp only [encodeRound, Option.bind_eq_bind, Option.bind_eq_some_iff] at stored
  obtain ⟨c, -, stored⟩ := stored
  split at stored
  · rename_i last
    split at stored
    · simp only [Option.bind_eq_some_iff] at stored
      obtain ⟨c1, -, c2, -, same⟩ := stored
      cases same
      rfl
    · split at stored
      · simp only [Option.bind_eq_some_iff] at stored
        obtain ⟨c1, -, same⟩ := stored
        cases same
        rfl
      · exact absurd padded (by omega)
  · simp only [Option.bind_eq_some_iff] at stored
    obtain ⟨c1, -, c2, -, c3, -, same⟩ := stored
    cases same
    rfl

private theorem encodeLoop_positions (padded : padNum = 0 ∨ padNum = 1 ∨ padNum = 2) (rounds : Nat)
    {stores : List (Nat × UInt8)}
    (stored : encodeLoop sign indata inlen padNum rounds i source p = some stores) :
    stores.map Prod.fst = encodedPositions (inlen + padNum) rounds i p := by
  induction rounds generalizing i source p stores with
  | zero =>
    cases stored
    rfl
  | succ rounds ih =>
    rw [encodeLoop] at stored
    rw [encodedPositions]
    split at stored
    · rename_i inside
      simp only [Option.bind_eq_bind, Option.bind_eq_some_iff] at stored
      obtain ⟨here, round, rest, later, same⟩ := stored
      cases same
      rw [if_pos inside, List.map_append, encodeRound_positions padded round, ih later]
    · rename_i done
      cases stored
      rw [if_neg done]
      rfl

private theorem padding_eq (inlen : Nat) :
    (if (inlen : Int).tmod 3 ≠ 0 then 3 - (inlen : Int).tmod 3 else 0) =
      (((3 - inlen % 3) % 3 : Nat) : Int) := by
  have remainder : (inlen : Int).tmod 3 = (inlen % 3 : Nat) := rfl
  rw [remainder]
  split <;> omega

/-- The stores of an encoding are to the positions written, in their order. -/
theorem base64Encode_positions {indata : Option Memory} {inlen : Nat} {coded : Coded}
    (encoded : base64Encode sign indata inlen = some coded) :
    coded.stores.map Prod.fst = writtenPositions indata inlen := by
  cases indata with
  | none =>
    cases encoded
    rfl
  | some indata =>
    simp only [base64Encode] at encoded
    rw [writtenPositions]
    split at encoded
    · rename_i empty
      cases encoded
      rw [if_pos (Int.natCast_eq_zero.mp empty)]
      rfl
    · rename_i nonempty
      obtain ⟨stores, stored, same⟩ := Option.map_eq_some_iff.mp encoded
      cases same
      rw [if_neg (fun empty => nonempty (Int.natCast_eq_zero.mpr empty))]
      refine encodeLoop_positions ?_ _ stored
      rw [padding_eq]
      omega

/-- Each round that is left writes the next four positions. -/
private theorem encodedPositions_eq {inLen : Int} (groups rounds : Nat)
    (left : inLen = i + 3 * groups) (enough : groups ≤ rounds) :
    encodedPositions inLen rounds i p = List.range' p (4 * groups) := by
  induction groups generalizing rounds i p with
  | zero =>
    have done : ¬ i < inLen := by omega
    cases rounds with
    | zero => rfl
    | succ rounds =>
      rw [encodedPositions, if_neg done]
      rfl
  | succ groups ih =>
    obtain ⟨rounds, rfl⟩ := Nat.exists_eq_succ_of_ne_zero (show rounds ≠ 0 by omega)
    have four : [p, p + 1, p + 2, p + 3] = List.range' p 4 := rfl
    rw [Nat.succ_eq_add_one, encodedPositions, if_pos (by omega), ih rounds (by omega) (by omega),
      four, List.range'_append_1, Nat.mul_succ, Nat.add_comm]

theorem writtenPositions_eq (indata : Memory) (inlen : Nat) :
    writtenPositions (some indata) inlen = List.range (4 * ((inlen + 2) / 3)) := by
  rw [writtenPositions]
  by_cases empty : inlen = 0
  · subst empty
    rfl
  · rw [if_neg empty, padding_eq, List.range_eq_range']
    apply encodedPositions_eq
    · omega
    · omega

end Positions

/-! ## The calls -/

/-- The requests whose text a function of the driver encodes. -/
inductive EncodedRequest where
  | dynamicAuth (productSecret : CString)
  | logInOut (logOp : SubdevLogInOut)
  | topo (op : TopoOperation)

namespace EncodedRequest

def payloadFormat : EncodedRequest → String
  | dynamicAuth _ => dynRegFormatPayload
  | logInOut _ => logInOutFormatPayload
  | topo _ => topoOpFormatPayload

def payloadArgs (own : SubdevClient) (requestId : UInt32) : EncodedRequest → List Arg
  | dynamicAuth productSecret =>
    [.uint requestId, .str own.productSn.bytes, .str own.deviceSn.bytes, .str productSecret.bytes]
  | logInOut _ => [.uint requestId, .str own.productSn.bytes, .str own.deviceSn.bytes]
  | topo .get => [.uint requestId, .str []]
  | topo _ => [.uint requestId,
      .str (snprintf 100 subdevStrFormat [.str own.productSn.bytes, .str own.deviceSn.bytes])]

/-- The length of the text before it is cut to the buffer the encoder reads it from. -/
def textLength (own : SubdevClient) (requestId : UInt32) : EncodedRequest → Nat
  | dynamicAuth productSecret => 82 + (decimal requestId.toNat).length + own.productSn.strlen +
      own.deviceSn.strlen + productSecret.strlen
  | logInOut _ =>
    62 + (decimal requestId.toNat).length + own.productSn.strlen + own.deviceSn.strlen
  | topo .get => 30 + (decimal requestId.toNat).length
  | topo _ => 30 + (decimal requestId.toNat).length +
      min 99 (32 + own.productSn.strlen + own.deviceSn.strlen)

/-- The message around the encoded text. -/
def message (own : SubdevClient) (payload : Bytes) : EncodedRequest → Bytes
  | dynamicAuth _ => snprintf natsMsgMaxLen dynRegFormat
      [.str own.productSn.bytes, .str own.deviceSn.bytes, .str payload]
  | logInOut logOp => snprintf natsMsgMaxLen logInOutFormat
      [.str own.productSn.bytes, .str own.deviceSn.bytes, .str logOp.topic, .str payload]
  | topo .get => snprintf natsMsgMaxLen topoOpFormat
      [.str (ascii "i5ztbdmjr8yhlv9a"), .str (ascii "123456"), .str TopoOperation.get.topic,
        .str payload]
  | topo op => snprintf natsMsgMaxLen topoOpFormat
      [.str own.productSn.bytes, .str own.deviceSn.bytes, .str op.topic, .str payload]

end EncodedRequest

/-- The calls of `base64_encode`: the data of a caller, or a request in the name of a client. -/
inductive EncodeCall where
  | edgePublish (topic : CString) (data : Memory) (dataLen : Nat)
  | natsPublish (subject : CString) (data : Option Memory) (dataLen : Nat)
  | request (own : SubdevClient) (requestId : UInt32) (made : EncodedRequest)

namespace EncodeCall

def indata : EncodeCall → Option Memory
  | edgePublish _ data _ => some data
  | natsPublish _ data _ => data
  | request own requestId made => some (.ofBytes
      (snprintf natsMsgMaxLen made.payloadFormat (made.payloadArgs own requestId)))

def inlen : EncodeCall → Nat
  | edgePublish _ _ dataLen | natsPublish _ _ dataLen => dataLen
  | request own requestId made =>
    (snprintf natsMsgMaxLen made.payloadFormat (made.payloadArgs own requestId)).length

/-- What is to be encoded, in bytes: none of a `NULL` pointer, and all of a request's text. -/
def length : EncodeCall → Nat
  | edgePublish _ _ dataLen | natsPublish _ (some _) dataLen => dataLen
  | natsPublish _ none _ => 0
  | request own requestId made => made.textLength own requestId

/-- The message sent for an encoding. -/
def message (config : DriverConfig) (payload : Bytes) : EncodeCall → Bytes × Bytes
  | edgePublish topic _ _ => (config.edgeRouterSubject,
      snprintf natsMsgMaxLen normalMsgFormat [.str topic.bytes, .str payload])
  | natsPublish subject _ _ => (subject.bytes, payload)
  | request own _ made => (config.edgeRouterSubject, made.message own payload)

/-- What the function that makes the call hands to NATS, for a client of its own. -/
def published (config : DriverConfig) (env : Env) (world : World) (client : Ref) :
    EncodeCall → List (Bytes × Bytes)
  | edgePublish topic data dataLen =>
    (Edge.edgePublish config (some topic) (some data) dataLen).observed (handle env) publication world
  | natsPublish subject data dataLen =>
    (Edge.natsPublish config subject data dataLen).observed (handle env) publication world
  | request _ requestId (.dynamicAuth productSecret) =>
    (dynRegPublish config client productSecret requestId).observed (handle env) publication world
  | request _ requestId (.logInOut logOp) =>
    (Edge.logInOut config client logOp requestId).observed (handle env) publication world
  | request _ requestId (.topo .get) =>
    (topoMsgCommon config none requestId .get).observed (handle env) publication world
  | request _ requestId (.topo op) =>
    (topoMsgCommon config (some client) requestId op).observed (handle env) publication world

end EncodeCall

section Calls

variable {config : DriverConfig} {env : Env} {world : World} {client : Ref}

theorem observed_base64Text {observe : Request → Option ω} (unseen : observe .fault = none)
    (data : Memory) (dataLen : Int) :
    (base64Text config data dataLen).observed (respond env) observe world = [] := by
  rw [base64Text]
  cases encodedMsg config (some data) dataLen with
  | none => simp [unseen]
  | some coded => rfl

theorem run_base64Text (data : Memory) (dataLen : Int) :
    (base64Text config data dataLen).run (respond env) world =
      (encodedMsg config (some data) dataLen).map fun coded => (coded.text, world) := by
  rw [base64Text]
  cases encodedMsg config (some data) dataLen <;> rfl

/-- With all buffers allocated and no log too long, the function that makes a call sends its
encoding, unless the encoder leaves its table or the encoding its buffer. -/
theorem EncodeCall.published_eq (allocates : ∀ buffer, env.malloc (.buffer buffer) = true)
    (fits : ∀ text args, env.logFits text args = true) (call : EncodeCall)
    (found : ∀ own requestId made, call = .request own requestId made →
      world.devices.value? client = some own) :
    call.published config env world client =
      ((encodedMsg config call.indata call.inlen).map fun coded =>
        call.message config coded.text).toList := by
  have unseen (world : World) (data : Memory) (dataLen : Int) :
      (base64Text config data dataLen).observed (respond env) publication world = [] :=
    observed_base64Text rfl data dataLen
  cases call with
  | edgePublish topic data dataLen =>
    cases encoded : encodedMsg config (some data) dataLen <;>
      simp [published, handle_of_logFits fits, indata, inlen, message, Edge.edgePublish, observed_bind, unseen, run_base64Text,
        publication, allocates, encoded]
  | natsPublish subject data dataLen =>
    cases encoded : encodedMsg config data dataLen <;>
      simp [published, handle_of_logFits fits, indata, inlen, message, Edge.natsPublish, observed_bind, publication,
        allocates, encoded]
  | request own requestId made =>
    have first : (readClient client).run (respond env) world = some (own, _) :=
      run_readClient (found own requestId made rfl)
    -- the client is read once for the request text and once for the message around it
    have second : (readClient client).run (respond env)
        { world with devices := world.devices.touch client } = some (own, _) :=
      run_readClient (by simpa using found own requestId made rfl)
    cases encoded : encodedMsg config (indata (.request own requestId made))
        (inlen (.request own requestId made)) <;>
      rcases made with _ | _ | _ | _ | _ <;>
      simp only [indata, inlen, EncodedRequest.payloadFormat, EncodedRequest.payloadArgs] at encoded <;>
      simp [published, handle_of_logFits fits, message, EncodedRequest.message, dynRegPublish,
        Edge.logInOut, topoMsgCommon, topoMsg, observed_bind, Program.run_bind, unseen, run_base64Text, publication,
        allocates, encoded, first, second]

end Calls

/-! ## The request texts -/

/-! What the formats of the inner payloads have around their arguments. -/

def requestOpening : Bytes := ascii "\x7b\"RequestID\": \""
def paramsOpening : Bytes := ascii "\",\"Params\": ["
def subdevOpening : Bytes := ascii "\x7b\"ProductSN\": \""
def deviceJoint : Bytes := ascii "\",\"DeviceSN\": \""
def secretJoint : Bytes := ascii "\",\"ProductSecret\": \""
def subdevClosing : Bytes := ascii "\"\x7d"
def paramsClosing : Bytes := ascii "]\x7d"

theorem subdevStr_eq (product device : Bytes) :
    format subdevStrFormat [.str product, .str device] =
      subdevOpening ++ (product ++ (deviceJoint ++ (device ++ subdevClosing))) := by rfl

theorem topoOpPayload_eq (requestId : UInt32) (subdev : Bytes) :
    format topoOpFormatPayload [.uint requestId, .str subdev] =
      requestOpening ++ (decimal requestId.toNat ++ (paramsOpening ++ (subdev ++ paramsClosing))) := by
  rfl

/-- The object is in the place where a topology operation copies its description to. -/
theorem logInOutPayload_eq (requestId : UInt32) (product device : Bytes) :
    format logInOutFormatPayload [.uint requestId, .str product, .str device] =
      requestOpening ++ (decimal requestId.toNat ++ (paramsOpening ++
        ((subdevOpening ++ (product ++ (deviceJoint ++ (device ++ subdevClosing)))) ++
          paramsClosing))) := by
  simp only [List.append_assoc]
  rfl

theorem dynRegPayload_eq (requestId : UInt32) (product device secret : Bytes) :
    format dynRegFormatPayload [.uint requestId, .str product, .str device, .str secret] =
      requestOpening ++ (decimal requestId.toNat ++ (paramsOpening ++ (subdevOpening ++ (product ++
        (deviceJoint ++ (device ++ (secretJoint ++ (secret ++ (subdevClosing ++ paramsClosing))))))))) := by
  rfl

private theorem pieces_length : requestOpening.length = 15 ∧ paramsOpening.length = 13 ∧
    subdevOpening.length = 15 ∧ deviceJoint.length = 15 ∧ secretJoint.length = 20 ∧
    subdevClosing.length = 2 ∧ paramsClosing.length = 2 := by decide

private theorem length_dynRegPayload (requestId : UInt32) (product device secret : Bytes) :
    (format dynRegFormatPayload [.uint requestId, .str product, .str device, .str secret]).length =
      82 + (decimal requestId.toNat).length + product.length + device.length + secret.length := by
  simp only [dynRegPayload_eq, List.length_append, pieces_length]
  omega

private theorem length_logInOutPayload (requestId : UInt32) (product device : Bytes) :
    (format logInOutFormatPayload [.uint requestId, .str product, .str device]).length =
      62 + (decimal requestId.toNat).length + product.length + device.length := by
  simp only [logInOutPayload_eq, List.length_append, pieces_length]
  omega

private theorem length_topoOpPayload (requestId : UInt32) (subdev : Bytes) :
    (format topoOpFormatPayload [.uint requestId, .str subdev]).length =
      30 + (decimal requestId.toNat).length + subdev.length := by
  simp only [topoOpPayload_eq, List.length_append, pieces_length]
  omega

theorem length_subdevStr (product device : Bytes) :
    (format subdevStrFormat [.str product, .str device]).length =
      32 + product.length + device.length := by
  simp only [subdevStr_eq, List.length_append, pieces_length]
  omega

theorem EncodedRequest.length_text (own : SubdevClient) (requestId : UInt32) (made : EncodedRequest) :
    (format made.payloadFormat (made.payloadArgs own requestId)).length =
      made.textLength own requestId := by
  cases made with
  | dynamicAuth productSecret => exact length_dynRegPayload ..
  | logInOut logOp => exact length_logInOutPayload ..
  | topo op =>
    cases op with
    | get => exact length_topoOpPayload requestId []
    | add | delete =>
      rw [payloadFormat, payloadArgs, length_topoOpPayload, snprintf, List.length_take, length_subdevStr]
      · rfl
      all_goals exact fun same => by cases same

/-- The cut description leaves a topology request short. -/
theorem EncodeCall.length_topo_le (own : SubdevClient) (requestId : UInt32) (op : TopoOperation) :
    (EncodeCall.request own requestId (.topo op)).length ≤ 139 := by
  have digits := decimal_length_le requestId
  cases op with
  | get =>
    simp only [length, EncodedRequest.textLength]
    omega
  | add | delete =>
    simp only [length, EncodedRequest.textLength]
    omega

/-! ## The end of the buffer -/

/-- The most bytes whose encoding leaves the last byte of a buffer as it was. -/
def encodableLength : Nat := 3 * ((natsMsgMaxLen - 1) / 4)

example : encodableLength = 1533 := rfl

/-- A call writes below the last byte of the buffer, which stays the terminator. -/
structure EncodesInside (sign : CharSign) (call : EncodeCall) : Prop where
  inside : ∀ index ∈ writtenPositions call.indata call.inlen, index < natsMsgMaxLen - 1
  terminated : ∀ coded, base64Encode sign call.indata call.inlen = some coded →
    Memory.zero.storeAll coded.stores (natsMsgMaxLen - 1) = 0

private theorem written_inside_iff (indata : Memory) (inlen : Nat) :
    (∀ index ∈ writtenPositions (some indata) inlen, index < natsMsgMaxLen - 1) ↔
      inlen ≤ encodableLength := by
  have bound : natsMsgMaxLen - 1 = 2047 ∧ encodableLength = 1533 := by decide
  rw [writtenPositions_eq, bound.1, bound.2]
  constructor
  · intro inside
    by_contra longer
    have last := inside 2047 (List.mem_range.mpr (by omega))
    exact absurd last (by decide)
  · intro short index written
    have below := List.mem_range.mp written
    omega

private theorem call_inside_iff (call : EncodeCall) :
    (∀ index ∈ writtenPositions call.indata call.inlen, index < natsMsgMaxLen - 1) ↔
      call.length ≤ encodableLength := by
  cases call with
  | edgePublish topic data dataLen => exact written_inside_iff data dataLen
  | natsPublish subject data dataLen =>
    cases data with
    | none =>
      constructor
      · exact fun _ => Nat.zero_le _
      · exact fun _ index written => absurd written List.not_mem_nil
    | some data => exact written_inside_iff data dataLen
  | request own requestId made =>
    have bound : natsMsgMaxLen - 1 = 2047 ∧ encodableLength = 1533 := by decide
    rw [EncodeCall.indata, written_inside_iff, EncodeCall.inlen, EncodeCall.length, snprintf,
      List.length_take, EncodedRequest.length_text, bound.1, bound.2]
    omega

/-- The stores of a call go to the positions written, and these are below the last byte of
the buffer exactly when no more than 1533 bytes are to be encoded. -/
theorem encodesInside_iff (sign : CharSign) (call : EncodeCall) :
    (∀ coded, base64Encode sign call.indata call.inlen = some coded →
      coded.stores.map Prod.fst = writtenPositions call.indata call.inlen) ∧
    (EncodesInside sign call ↔ call.length ≤ encodableLength) := by
  refine ⟨fun coded encoded => base64Encode_positions encoded, ?_⟩
  rw [← call_inside_iff]
  constructor
  · exact EncodesInside.inside
  · intro inside
    refine ⟨inside, fun coded encoded => ?_⟩
    refine storeAll_of_notMem _ fun written => ?_
    rw [base64Encode_positions encoded] at written
    exact absurd (inside _ written) (Nat.lt_irrefl _)

/-- The encoding of 1534 bytes fills the buffer to its end. -/
theorem encoding_fills_buffer : ¬ ∀ sign call, EncodesInside sign call := by
  intro always
  have inside := (always .unsigned (.edgePublish (.literal "/t") .zero 1534)).inside
  exact absurd ((call_inside_iff _).mp inside) (by decide)

end IotstackDriver.Edge
