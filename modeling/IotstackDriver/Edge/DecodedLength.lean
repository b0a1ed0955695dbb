import IotstackDriver.Edge.DecodedText
import IotstackDriver.Edge.DecodeResult
import IotstackDriver.Edge.Issued

/-! How far `base64_decode` writes for a text, in the buffers of the callbacks and in the
copy of a reply. -/

namespace IotstackDriver.Edge

open Libc Support Program

/-- The stores `base64_decode` makes up to its end or an access outside its table. -/
def decodeStores (sign : CharSign) (indata : Bytes) (inlen : Int) : List (Nat × UInt8) :=
  ((base64Decode sign (some (indata.takeWhile fun byte => 0 ≤ sign.value byte)) inlen).map
    Coded.stores).getD []

/-- The characters the decoder takes into groups. -/
def readable (text : Bytes) : Bytes := significant (text.takeWhile fun byte => !unknown byte)

/-- The characters before that many paddings. -/
def beforePadding : Nat → Bytes → Bytes
  | 0, _ => []
  | _ + 1, [] => []
  | paddings + 1, byte :: rest =>
    if byte = Rfc4648.pad then if paddings = 0 then [] else byte :: beforePadding paddings rest
    else byte :: beforePadding (paddings + 1) rest

/-- A group stores one byte, a second one unless two paddings were read, and a third one
unless one was. -/
def decodedLength (text : Bytes) (inlen : Int) : Nat :=
  if inlen ≤ 0 ∨ inlen % 4 ≠ 0 then 0
  else (readable text).length / 4 + (beforePadding 2 (readable text)).length / 4 +
    (beforePadding 1 (readable text)).length / 4

example : decodedLength (ascii "QUJD\nRA==") 9 = 0 := by decide
example : decodedLength (ascii "QUJDRA==") 8 = 4 := by decide

/-- The groups completed before that many paddings, with so many characters of a group read. -/
private def groupsBefore (paddings y : Nat) (text : Bytes) : Nat :=
  if paddings = 0 then 0 else (y + (beforePadding paddings text).length) / 4

private theorem groupsBefore_cons (paddings : Nat) {y : Nat} (unfinished : y < 4) (byte : UInt8)
    (rest : Bytes) : groupsBefore paddings y (byte :: rest) =
      let remaining := if byte = Rfc4648.pad then paddings - 1 else paddings
      if y + 1 = 4 then (if remaining = 0 then 0 else 1) + groupsBefore remaining 0 rest
      else groupsBefore remaining (y + 1) rest := by
  unfold groupsBefore
  cases paddings with
  | zero => simp
  | succ paddings =>
    rw [beforePadding]
    by_cases padded : byte = Rfc4648.pad
    · by_cases last : paddings = 0
      · simp [padded, last]
        omega
      · simp [padded, last]
        split <;> omega
    · simp [padded]
      split <;> omega

private theorem groupsBefore_nil (paddings : Nat) {y : Nat} (unfinished : y < 4) :
    groupsBefore paddings y [] = 0 := by
  unfold groupsBefore
  cases paddings with
  | zero => rfl
  | succ paddings =>
    simp [beforePadding]
    omega

/-- The bytes stored for a text by a loop that has `3 - g` paddings behind it. -/
private def storedLength (g : Int) (y : Nat) (text : Bytes) : Nat :=
  (y + text.length) / 4 + groupsBefore (g - 1).toNat y text + groupsBefore (g - 2).toNat y text

/-- An unfinished group is not stored. -/
private theorem storedLength_nil (g : Int) {y : Nat} (unfinished : y < 4) :
    storedLength g y [] = 0 := by
  rw [storedLength, groupsBefore_nil _ unfinished, groupsBefore_nil _ unfinished]
  simp
  omega

private theorem decodeGroup_length (t i : Nat) (g : Int) : (decodeGroup t i g).length =
    1 + (if (g - 1).toNat = 0 then 0 else 1) + if (g - 2).toNat = 0 then 0 else 1 := by
  have second : (g - 1).toNat = 0 ↔ ¬ g > 1 := by omega
  have third : (g - 2).toNat = 0 ↔ ¬ g > 2 := by omega
  rw [decodeGroup]
  simp only [second, third]
  by_cases two : g > 1 <;> by_cases three : g > 2 <;> simp [two, three]

private theorem readable_unknown {byte : UInt8} (strange : unknown byte = true) (rest : Bytes) :
    readable (byte :: rest) = [] := by
  simp [readable, strange, significant]

private theorem readable_skipped {byte : UInt8} (known : unknown byte = false)
    (skipped : skippable byte = true) (rest : Bytes) : readable (byte :: rest) = readable rest := by
  simp [readable, known, significant, skipped]

private theorem readable_cons {byte : UInt8} (known : unknown byte = false)
    (kept : skippable byte = false) (rest : Bytes) :
    readable (byte :: rest) = byte :: readable rest := by
  simp [readable, known, significant, kept]

private theorem storedLength_cons (t i : Nat) (g : Int) {y : Nat} (unfinished : y < 4)
    (byte : UInt8) (rest : Bytes) : storedLength g y (byte :: rest) =
      let next := if byte = Rfc4648.pad then g - 1 else g
      if y + 1 = 4 then (decodeGroup t i next).length + storedLength next 0 rest
      else storedLength next (y + 1) rest := by
  have second : (if byte = Rfc4648.pad then (g - 1).toNat - 1 else (g - 1).toNat) =
      ((if byte = Rfc4648.pad then g - 1 else g) - 1).toNat := by split <;> omega
  have third : (if byte = Rfc4648.pad then (g - 2).toNat - 1 else (g - 2).toNat) =
      ((if byte = Rfc4648.pad then g - 1 else g) - 2).toNat := by split <;> omega
  simp only [storedLength, groupsBefore_cons _ unfinished, second, third, decodeGroup_length,
    List.length_cons]
  split <;> omega

private theorem decodeLoop_length (sign : CharSign) (text : Bytes) (t i : Nat) {y : Nat} (g : Int)
    (unfinished : y < 4) :
    ∃ coded, decodeLoop sign (text.takeWhile fun byte => 0 ≤ sign.value byte) t y i g = some coded ∧
      coded.stores.length = storedLength g y (readable text) := by
  induction text generalizing t y i g with
  | nil => exact ⟨⟨i, []⟩, rfl, (storedLength_nil g unfinished).symm⟩
  | cons byte rest ih =>
    cases strange : unknown byte with
    | true =>
      rw [readable_unknown strange, storedLength_nil g unfinished]
      by_cases nonneg : 0 ≤ sign.value byte
      · rw [List.takeWhile_cons_of_pos (by simpa using nonneg), decodeLoop, suffixAt_eq,
          if_pos nonneg, (suffixCode_eq_unknown byte).mpr strange]
        split
        · exact ⟨⟨i, []⟩, rfl, rfl⟩
        · exact ⟨⟨-1, []⟩, rfl, rfl⟩
      · rw [List.takeWhile_cons_of_neg (by simpa using nonneg)]
        exact ⟨⟨i, []⟩, rfl, rfl⟩
    | false =>
      have nonneg := known_nonneg sign strange
      have notNul : byte ≠ 0 := by
        rintro rfl
        cases strange
      rw [List.takeWhile_cons_of_pos (by simpa using nonneg)]
      cases skipped : skippable byte with
      | true =>
        rw [decodeLoop_skip skipped, readable_skipped strange skipped]
        exact ih t i g unfinished
      | false =>
        have known := mt (suffixCode_eq_unknown byte).mp (by simp [strange])
        have kept := mt (suffixCode_eq_skipped byte).mp (by simp [skipped])
        rw [decodeLoop, if_neg notNul, suffixAt_eq, if_pos nonneg, readable_cons strange skipped]
        simp only [Option.bind_eq_bind, Option.bind_some, if_neg known, if_neg kept,
          suffixCode_eq_padding]
        rw [storedLength_cons (t <<< 6 ||| if byte = Rfc4648.pad then 0 else suffixCode byte) i g
          unfinished]
        by_cases complete : y + 1 = 4
        · simp only [complete, ↓reduceIte]
          obtain ⟨later, stored, length⟩ := 
            ih 0 (i + (decodeGroup _ i _).length) _ (y := 0) (by decide)
          rw [stored]
          refine ⟨_, rfl, ?_⟩
          rw [List.length_append, length]
        · simp only [complete, ↓reduceIte]
          exact ih _ i _ (by omega)

/-- As many bytes are stored as the text has characters for, one after the other. -/
theorem decodeStores_eq (sign : CharSign) (text : Bytes) (inlen : Int) :
    ∃ bytes : Bytes, decodeStores sign text inlen = consecutive 0 bytes ∧
      bytes.length = decodedLength text inlen := by
  rw [decodeStores, decodedLength, base64Decode]
  by_cases unread : inlen ≤ 0
  · rw [if_pos unread, if_pos (.inl unread)]
    exact ⟨[], rfl, rfl⟩
  have remainder : inlen.tmod 4 = inlen % 4 := Int.tmod_eq_emod_of_nonneg (by omega)
  rw [if_neg unread, remainder]
  by_cases whole : inlen % 4 = 0
  · obtain ⟨coded, decoded, length⟩ := decodeLoop_length sign text 0 0 3 (y := 0) (by decide)
    have ordered := (decodeLoop_ordered decoded).stores
    rw [if_neg (not_not.mpr whole), if_neg (by simp [unread, whole]), decoded]
    refine ⟨coded.stores.map Prod.snd, ordered, ?_⟩
    rw [List.length_map, length, storedLength]
    simp [groupsBefore]
  · rw [if_pos whole, if_pos (.inr whole)]
    exact ⟨[], rfl, rfl⟩

private theorem decodeLoop_takeWhile {sign : CharSign} {text : Bytes} {t y i : Nat} {g : Int}
    {coded : Coded} (decoded : decodeLoop sign text t y i g = some coded) :
    decodeLoop sign (text.takeWhile fun byte => 0 ≤ sign.value byte) t y i g = some coded := by
  induction text generalizing t y i g coded with
  | nil => exact decoded
  | cons byte rest ih =>
    by_cases nonneg : 0 ≤ sign.value byte
    · rw [List.takeWhile_cons_of_pos (by simpa using nonneg)]
      rw [decodeLoop] at decoded ⊢
      by_cases ended : byte = 0
      · rwa [if_pos ended] at decoded ⊢
      rw [if_neg ended, suffixAt_eq, if_pos nonneg, Option.bind_eq_bind, Option.bind_some] at decoded ⊢
      by_cases strange : suffixCode byte = 255
      · rwa [if_pos strange] at decoded ⊢
      rw [if_neg strange] at decoded ⊢
      by_cases skipped : suffixCode byte = 253
      · rw [if_pos skipped] at decoded ⊢
        exact ih decoded
      rw [if_neg skipped] at decoded ⊢
      dsimp only at decoded ⊢
      by_cases complete : y + 1 = 4
      · rw [if_pos complete] at decoded ⊢
        obtain ⟨later, stored, same⟩ := Option.bind_eq_some_iff.mp decoded
        rw [ih stored]
        exact same
      · rw [if_neg complete] at decoded ⊢
        exact ih decoded
    · have notNul : byte ≠ 0 := by
        rintro rfl
        cases sign <;> exact nonneg (by decide)
      rw [decodeLoop, if_neg notNul, suffixAt_eq, if_neg nonneg] at decoded
      cases decoded

/-- Where the decoder stays in its table, these are the stores it makes. -/
theorem decodeStores_of_decoded {sign : CharSign} {text : Bytes} {inlen : Int} {coded : Coded}
    (decoded : base64Decode sign (some text) inlen = some coded) :
    decodeStores sign text inlen = coded.stores := by
  rw [base64Decode] at decoded
  rw [decodeStores, base64Decode]
  by_cases unread : inlen ≤ 0
  · rw [if_pos unread] at decoded ⊢
    cases decoded
    rfl
  rw [if_neg unread] at decoded ⊢
  by_cases whole : inlen.tmod 4 ≠ 0
  · rw [if_pos whole] at decoded ⊢
    cases decoded
    rfl
  · rw [if_neg whole] at decoded ⊢
    rw [decodeLoop_takeWhile decoded]
    rfl

private theorem beforePadding_length_le (paddings : Nat) (text : Bytes) :
    (beforePadding paddings text).length ≤ text.length := by
  induction text generalizing paddings with
  | nil => cases paddings <;> simp [beforePadding]
  | cons byte rest ih =>
    cases paddings with
    | zero => simp [beforePadding]
    | succ paddings =>
      have fewer := ih paddings
      have same := ih (paddings + 1)
      rw [beforePadding]
      split
      · split <;> simp only [List.length_cons, List.length_nil] <;> omega
      · simpa using same

/-- Fewer than 2732 characters fit in every case. -/
theorem decodedLength_le (text : Bytes) (inlen : Int) :
    decodedLength text inlen ≤ 3 * (text.length / 4) := by
  have kept : (readable text).length ≤ text.length :=
    Nat.le_trans (List.length_filter_le _ _) (List.takeWhile_sublist _).length_le
  have second := beforePadding_length_le 2 (readable text)
  have first := beforePadding_length_le 1 (readable text)
  rw [decodedLength]
  split <;> omega

private theorem beforePadding_digits (paddings : Nat) {text : Bytes}
    (digits : ∀ byte ∈ text, byte ≠ Rfc4648.pad) : beforePadding (paddings + 1) text = text := by
  induction text with
  | nil => rfl
  | cons byte rest ih =>
    rw [beforePadding, if_neg (digits byte (by simp)),
      ih fun other member => digits other (by simp [member])]

/-- Unpadded groups store three bytes each. -/
theorem decodedLength_digits {text : Bytes} (whole : text.length % 4 = 0)
    (digits : ∀ byte ∈ text, (Rfc4648.digit? byte).isSome = true) :
    decodedLength text text.length = 3 * (text.length / 4) := by
  have table : ∀ value < 64, unknown (Rfc4648.digit value) = false ∧
      skippable (Rfc4648.digit value) = false := by decide +kernel
  have plain : ∀ byte ∈ text, unknown byte = false ∧ skippable byte = false ∧
      byte ≠ Rfc4648.pad := by
    intro byte member
    obtain ⟨value, found⟩ := Option.isSome_iff_exists.mp (digits byte member)
    obtain ⟨small, rfl⟩ := Rfc4648.digit_of_digit? found
    exact ⟨(table value small).1, (table value small).2, Rfc4648.digit_ne_pad small⟩
  have known : text.takeWhile (fun byte => !unknown byte) = text :=
    List.takeWhile_eq_self_iff.mpr fun byte member => by simp [(plain byte member).1]
  have kept : readable text = text := by
    rw [readable, known, significant]
    exact List.filter_eq_self.mpr fun byte member => by simp [(plain byte member).2.1]
  have unpadded := fun byte member => (plain byte member).2.2
  rw [decodedLength, kept, beforePadding_digits 1 unpadded, beforePadding_digits 0 unpadded]
  split <;> omega

/-- The string of an item, and its length, as `base64_decode` is given them. -/
def handedItem (item : CJson) : Option (Bytes × Int) :=
  item.valuestring.map fun text => (text.bytes, text.strlen)

/-- What `_on_local_message` gives to `base64_decode`, if it comes to that. -/
def localHanded (config : DriverConfig) (msg : NatsMsg) : Option (Bytes × Int) := do
  let msgJson ← config.cJsonParse msg.text
  let _ ← msgJson.getObjectItem "topic"
  let _ ← msgJson.getObjectItem "deviceSN"
  handedItem (← msgJson.getObjectItem "payload")

/-- The same for `_on_broadcast_message`. -/
def broadcastHanded (config : DriverConfig) (msg : NatsMsg) : Option (Bytes × Int) := do
  let msgJson ← config.cJsonParse msg.text
  let _ ← msgJson.getObjectItem "topic"
  handedItem (← msgJson.getObjectItem "payload")

/-- `_on_nats_message` gives the data of every message. -/
def natsHanded (msg : NatsMsg) : Option (Bytes × Int) := some (msg.data, msg.data.length)

def replyCopy : Request → Option (List (Nat × UInt8))
  | .writePayload _ stores => some stores
  | _ => none

/-- The decoder leaves the last byte of its buffer alone, and the copy of a reply stays in
the buffer of its entry. -/
structure StoresInside (config : DriverConfig) (env : Env) (callback : Program edge Unit)
    (handed : Option (Bytes × Int)) (world : World) : Prop where
  decoded : env.malloc (.buffer .msgBase64decode) = true →
    ∀ text inlen, handed = some (text, inlen) →
      ∀ store ∈ decodeStores config.charSign text inlen, store.1 < natsMsgMaxLen - 1
  copied : ∀ stores ∈ callback.observed (handle env) replyCopy world,
    ∀ store ∈ stores, store.1 < natsMsgMaxLen

/-- What is decoded into an allocated buffer leaves room for a NUL. -/
def HandedFits (env : Env) (handed : Option (Bytes × Int)) : Prop :=
  env.malloc (.buffer .msgBase64decode) = true →
    ∀ text inlen, handed = some (text, inlen) → decodedLength text inlen < natsMsgMaxLen

variable {config : DriverConfig} {env : Env} {world : World} {msg : NatsMsg}

/-- The buffer was zero-filled, so what is decoded is a string. -/
theorem StoresInside.terminated {callback : Program edge Unit} {text : Bytes} {inlen : Int}
    (inside : StoresInside config env callback (some (text, inlen)) world)
    (allocated : env.malloc (.buffer .msgBase64decode) = true) :
    Memory.zero.storeAll (decodeStores config.charSign text inlen) (natsMsgMaxLen - 1) = 0 := by
  apply storeAll_of_notMem
  intro member
  obtain ⟨store, stored, last⟩ := List.mem_map.mp member
  exact Nat.lt_irrefl _ (last ▸ inside.decoded allocated text inlen rfl store stored)

private theorem decodeStores_inside_iff (text : Bytes) (inlen : Int) :
    (∀ store ∈ decodeStores config.charSign text inlen, store.1 < natsMsgMaxLen - 1) ↔
      decodedLength text inlen < natsMsgMaxLen := by
  obtain ⟨bytes, stores, length⟩ := decodeStores_eq config.charSign text inlen
  rw [stores, consecutive_inside_iff, length]
  exact Nat.le_sub_one_iff_lt (by decide)

/-- The copy asks for nothing beyond what the decoder does. -/
private theorem storesInside_iff {callback : Program edge Unit} {handed : Option (Bytes × Int)}
    (copied : HandedFits env handed → ∀ stores ∈ callback.observed (handle env) replyCopy world,
      ∀ store ∈ stores, store.1 < natsMsgMaxLen) :
    StoresInside config env callback handed world ↔ HandedFits env handed := by
  constructor
  · intro inside allocated text inlen given
    exact (decodeStores_inside_iff text inlen).mp (inside.decoded allocated text inlen given)
  · intro fits
    refine ⟨fun allocated text inlen given => ?_, copied fits⟩
    exact (decodeStores_inside_iff text inlen).mpr (fits allocated text inlen given)

/-- A reading callback copies nothing. -/
private theorem copied_of_readsOnly {callback : Program edge Unit} (reads : ReadsOnly callback) :
    ∀ stores ∈ callback.observed (handle env) replyCopy world,
      ∀ store ∈ stores, store.1 < natsMsgMaxLen := by
  intro stores seen
  obtain ⟨request, quiet, observed⟩ := reads.of_mem_observed seen
  cases request <;> cases observed
  cases quiet.1

private theorem decodedItem_eq (item : CJson) : decodedItem config item =
    (handedItem item).bind fun given => base64Decode config.charSign (some given.1) given.2 := by
  rw [decodedItem, handedItem]
  cases item.valuestring <;> rfl

/-- What the callbacks decode is what they give to the decoder. -/
theorem decoded_eq_handed (config : DriverConfig) (msg : NatsMsg) :
    let decode (given : Bytes × Int) := base64Decode config.charSign (some given.1) given.2
    localDecoded config msg = (localHanded config msg).bind decode ∧
      broadcastDecoded config msg = (broadcastHanded config msg).bind decode ∧
      natsDecoded config msg = (natsHanded msg).bind decode := by
  refine ⟨?_, ?_, rfl⟩
  · simp only [localDecoded, localHanded, decodedItem_eq, Option.bind_eq_bind, Option.bind_assoc]
  · simp only [broadcastDecoded, broadcastHanded, decodedItem_eq, Option.bind_eq_bind,
      Option.bind_assoc]

private theorem broadcast_unallocated (failed : env.malloc (.buffer .msgBase64decode) = false) :
    (onBroadcastMessage config msg).observed (handle env) replyCopy world = [] := by
  refine List.prefix_nil.mp ((observed_guarded_begins _ _).trans (List.prefix_nil.mpr ?_))
  unfold onBroadcastMessage
  cases parsed : config.cJsonParse msg.text with
  | none => simp [observed_bind, replyCopy]
  | some msgJson =>
    cases topicItem : msgJson.getObjectItem "topic" with
    | none => simp [observed_bind, replyCopy, topicItem]
    | some topic =>
      cases payloadItem : msgJson.getObjectItem "payload" <;>
        simp [observed_bind, replyCopy, topicItem, payloadItem, failed]

/-- A text that leaves room for its NUL is copied inside the buffer. -/
private theorem copyAllowed {decoded : Bytes} (fits : decoded.length < natsMsgMaxLen) :
    CopyAllowed (fun request => ∀ stores, replyCopy request = some stores →
      ∀ store ∈ stores, store.1 < natsMsgMaxLen) decoded := by
  have taken : (decoded.take natsMsgMaxLen).length ≤ natsMsgMaxLen := List.length_take_le ..
  intro node
  constructor
  · rintro stores ⟨⟩
    exact (consecutive_inside_iff _ _).mpr taken
  · rintro stores ⟨⟩
    simpa using fits

private theorem broadcast_copied (fits : HandedFits env (broadcastHanded config msg)) :
    ∀ stores ∈ (onBroadcastMessage config msg).observed (handle env) replyCopy world,
      ∀ store ∈ stores, store.1 < natsMsgMaxLen := by
  cases allocated : env.malloc (.buffer .msgBase64decode) with
  | false => simp [broadcast_unallocated allocated]
  | true =>
    intro stores seen
    have issues : Issues (I := edge) (fun request => ∀ stores, replyCopy request = some stores →
        ∀ store ∈ stores, store.1 < natsMsgMaxLen) (onBroadcastMessage config msg) fun _ => True := by
      refine issues_onBroadcastMessage ?_ fun coded decoded => copyAllowed ?_
      · intro request quiet stores copy
        cases request <;> cases copy
        cases quiet.1
      · rw [(decoded_eq_handed config msg).2.1] at decoded
        obtain ⟨⟨text, inlen⟩, given, decoded⟩ := Option.bind_eq_some_iff.mp decoded
        obtain ⟨bytes, stored, length⟩ := decodeStores_eq config.charSign text inlen
        rw [decodeStores_of_decoded decoded] at stored
        have short := fits allocated text inlen given
        have most := (base64Decode_ordered decoded).text_length
        rw [stored, consecutive_length] at most
        omega
    obtain ⟨request, inside, observed⟩ := issues.of_mem_observed seen
    exact inside stores observed

/-- The stores of each callback stay inside exactly where what it is given to decode does. -/
theorem buffersInside_iff (config : DriverConfig) (env : Env) (world : World) (msg : NatsMsg) :
    (StoresInside config env (onLocalMessage config msg) (localHanded config msg) world ↔
      HandedFits env (localHanded config msg)) ∧
    (StoresInside config env (onBroadcastMessage config msg) (broadcastHanded config msg) world ↔
      HandedFits env (broadcastHanded config msg)) ∧
    (StoresInside config env (onNatsMessage config msg) (natsHanded msg) world ↔
      HandedFits env (natsHanded msg)) := by
  refine ⟨?_, ?_, ?_⟩
  · exact storesInside_iff fun _ => copied_of_readsOnly readsOnly_onLocalMessage
  · exact storesInside_iff broadcast_copied
  · exact storesInside_iff fun _ => copied_of_readsOnly readsOnly_onNatsMessage

/-- 683 groups of digits are more than the buffer holds. -/
theorem longMessage_overruns :
    ¬ StoresInside .plain .calm (onNatsMessage .plain ⟨.literal "edge.app", List.replicate 2732 65⟩)
      (natsHanded ⟨.literal "edge.app", List.replicate 2732 65⟩) .initial := by
  intro inside
  have whole : (List.replicate 2732 (65 : UInt8)).length % 4 = 0 := by rw [List.length_replicate]
  have digits : ∀ byte ∈ List.replicate 2732 (65 : UInt8), (Rfc4648.digit? byte).isSome = true := by
    intro byte member
    rw [List.eq_of_mem_replicate member]
    rfl
  have stored := inside.decoded rfl (List.replicate 2732 65) (List.replicate 2732 65).length rfl
  rw [decodeStores_inside_iff, decodedLength_digits whole digits, List.length_replicate] at stored
  exact absurd stored (by decide)

end IotstackDriver.Edge
