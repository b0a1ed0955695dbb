import IotstackDriver.Edge.LocalDispatch

/-! How the callbacks use the entries they find: each use is of the entry that the last
search found, whatever the other threads do in the meantime. -/

namespace IotstackDriver.Edge

open Libc Support

/-- The uses of an entry outside the locked sections: of a request's buffer, and of a
client and its handlers. -/
def Request.uses : Request → Option (RegistryList × Ref)
  | readPayload node _ | writePayload node _ => some (.requestid, node)
  | readClient client => some (.connDevice, client)
  | invoke call => call.target.map fun target => (.connDevice, target.1)
  | _ => none

def Request.searches : Request → Bool
  | find _ _ => true
  | _ => false

/-- The entry a thread holds after a request: the one found, once it has searched. -/
def heldAfter (held : Option (RegistryList × Ref)) :
    (request : Request) → request.Reply → Option (RegistryList × Ref)
  | .find list _, found => found.map fun node => (list, node)
  | _, _ => held

/-- A callback uses an entry only when its last search found it. -/
def callbackProtocol : Program.Protocol edge (Option (RegistryList × Ref)) where
  allowed held request := ∀ entry, request.uses = some entry → held = some entry
  step held request reply next := next = heldAfter held request reply

def UsesFound (program : Program edge α) (post : α → Option (RegistryList × Ref) → Prop)
    (held : Option (RegistryList × Ref)) : Prop :=
  Program.Meets callbackProtocol program post held

section Requests

variable {held : Option (RegistryList × Ref)}

@[simp] theorem usesFound_pure {value : α} {post : α → Option (RegistryList × Ref) → Prop} :
    UsesFound (pure value) post held ↔ post value held := Iff.rfl

@[simp] theorem usesFound_bind {program : Program edge α} {next : α → Program edge β}
    {post : β → Option (RegistryList × Ref) → Prop} : UsesFound (program >>= next) post held ↔
      UsesFound program (fun value held => UsesFound (next value) post held) held :=
  Program.meets_bind ..

@[simp] theorem usesFound_ite {condition : Prop} [Decidable condition]
    {left right : Program edge α} {post : α → Option (RegistryList × Ref) → Prop} :
    UsesFound (if condition then left else right) post held ↔
      if condition then UsesFound left post held else UsesFound right post held := by
  split <;> rfl

@[simp] theorem usesFound_malloc {site : AllocSite}
    {post : Bool → Option (RegistryList × Ref) → Prop} :
    UsesFound (malloc site) post held ↔ ∀ reply, post reply held :=
  Program.meets_quiet (fun _ use => by cases use) fun _ _ => Iff.rfl

@[simp] theorem usesFound_logWrite {level : LogLevel} {format : String} {args : List Arg}
    {post : Unit → Option (RegistryList × Ref) → Prop} :
    UsesFound (logWrite level format args) post held ↔ post () held :=
  Program.meets_silent (fun _ use => by cases use) (fun _ _ => Iff.rfl) fun _ => rfl

@[simp] theorem usesFound_free {resource : Resource}
    {post : Unit → Option (RegistryList × Ref) → Prop} :
    UsesFound (free resource) post held ↔ post () held :=
  Program.meets_silent (fun _ use => by cases use) (fun _ _ => Iff.rfl) fun _ => rfl

@[simp] theorem usesFound_fault {post : α → Option (RegistryList × Ref) → Prop} :
    UsesFound fault post held :=
  ⟨fun _ use => (by cases use), fun reply => reply.elim⟩

@[simp] theorem usesFound_findInList {list : RegistryList} {key : list.Key}
    {post : Option Ref → Option (RegistryList × Ref) → Prop} :
    UsesFound (findInList list key) post held ↔
      ∀ found, post found (found.map fun node => (list, node)) := by
  constructor
  · exact fun tracks found => tracks.2 found _ rfl
  · rintro all
    refine ⟨fun _ use => (by cases use), ?_⟩
    rintro found next rfl
    exact all found

private theorem usesFound_writePayload {node : Ref} {stores : List (Nat × UInt8)}
    {post : Unit → Option (RegistryList × Ref) → Prop} (owned : held = some (.requestid, node)) :
    UsesFound (writePayload node stores) post held ↔ post () held :=
  Program.meets_silent (fun _ use => by cases use; exact owned) (fun _ _ => Iff.rfl) fun _ => rfl

private theorem usesFound_readPayload {node : Ref} {look : Look}
    {post : Bytes → Option (RegistryList × Ref) → Prop} (owned : held = some (.requestid, node)) :
    UsesFound (readPayload node look) post held ↔ ∀ payload, post payload held :=
  Program.meets_quiet (fun _ use => by cases use; exact owned) fun _ _ => Iff.rfl

private theorem usesFound_readClient {client : Ref}
    {post : SubdevClient → Option (RegistryList × Ref) → Prop}
    (owned : held = some (.connDevice, client)) :
    UsesFound (readClient client) post held ↔ ∀ own, post own held :=
  Program.meets_quiet (fun _ use => by cases use; exact owned) fun _ _ => Iff.rfl

private theorem usesFound_invoke {call : HandlerCall}
    {post : Unit → Option (RegistryList × Ref) → Prop}
    (owned : ∀ target, call.target = some target → held = some (.connDevice, target.1)) :
    UsesFound (invoke call) post held ↔ post () held := by
  refine Program.meets_silent ?_ (fun _ _ => Iff.rfl) fun _ => rfl
  intro entry use
  obtain ⟨target, aimed, rfl⟩ := Option.map_eq_some_iff.mp use
  exact owned target aimed

end Requests

private theorem usesFound_decodeMsg {config : DriverConfig} {text : Bytes} {inlen : Int}
    {held : Option (RegistryList × Ref)} {post : Coded → Option (RegistryList × Ref) → Prop}
    (continues : ∀ coded, post coded held) :
    UsesFound (base64DecodeMsg config text inlen) post held := by
  rcases base64DecodeMsg_cases config text inlen with stops | ⟨coded, -, -, decodes⟩
  · rw [stops]
    exact usesFound_fault
  · rw [decodes]
    exact continues coded

private theorem usesFound_decode {config : DriverConfig} {text : Option CString}
    {held : Option (RegistryList × Ref)} {post : Coded → Option (RegistryList × Ref) → Prop}
    (continues : ∀ coded, post coded held) : UsesFound (base64DecodeString config text) post held := by
  cases text with
  | none => exact usesFound_fault
  | some text => exact usesFound_decodeMsg continues

/-- A call of a handler of the client found. -/
private theorem usesFound_handler {call : HandlerCall} {client : Ref}
    {post : Unit → Option (RegistryList × Ref) → Prop}
    (own : ∀ target, call.target = some target → target.1 = client)
    (continues : post () (some (.connDevice, client))) :
    UsesFound (invoke call) post (some (.connDevice, client)) := by
  rw [usesFound_invoke]
  · exact continues
  · intro target aimed
    rw [own target aimed]

private theorem usesFound_dispatchLocal {client : Ref} {topic : Option CString} {payload : Memory}
    {payloadLen : Int} {post : Unit → Option (RegistryList × Ref) → Prop}
    (continues : post () (some (.connDevice, client))) :
    UsesFound (dispatchLocal client topic payload payloadLen) post (some (.connDevice, client)) := by
  rw [dispatchLocal.eq_def, usesFound_bind, usesFound_readClient rfl]
  intro own
  have normal : ∀ handler, UsesFound (invoke (.normal client handler topic payload payloadLen)) post
      (some (.connDevice, client)) :=
    fun handler => usesFound_handler (fun target aimed => by cases aimed; rfl) continues
  have rrpc : ∀ handler, UsesFound (invoke (.rrpc client handler topic payload payloadLen)) post
      (some (.connDevice, client)) :=
    fun handler => usesFound_handler (fun target aimed => by cases aimed; rfl) continues
  cases own.rrpcMsgHandle with
  | none => cases own.normalMsgHandle <;> simp [normal, continues]
  | some handler =>
    cases topic with
    | none => simp
    | some name =>
      by_cases named : edgeRrpcCheck name.bytes = .ok
      · simpa [named] using rrpc handler
      · cases own.normalMsgHandle <;> simp [named, normal, continues]

private theorem usesFound_deliverLocal {deviceSn topic : Option CString} {payload : Memory}
    {payloadLen : Int} {held : Option (RegistryList × Ref)}
    {post : Unit → Option (RegistryList × Ref) → Prop} (continues : ∀ held, post () held) :
    UsesFound (deliverLocal deviceSn topic payload payloadLen) post held := by
  rw [deliverLocal, usesFound_bind, usesFound_findInList]
  intro found
  cases found with
  | none => simpa using continues none
  | some client => exact usesFound_dispatchLocal (continues _)

theorem onLocalMessage_usesFound (config : DriverConfig) (msg : NatsMsg)
    (held : Option (RegistryList × Ref)) :
    UsesFound (onLocalMessage config msg) (fun _ _ => True) held := by
  simp only [onLocalMessage, usesFound_bind, usesFound_logWrite]
  split
  · simp
  · split
    · simp
    · simp only [usesFound_bind, usesFound_logWrite]
      split
      · simp
      · simp only [usesFound_bind, usesFound_logWrite]
        split
        · simp
        · simp only [usesFound_bind, usesFound_logWrite, usesFound_malloc]
          intro allocated
          cases allocated with
          | false => simp
          | true =>
            simp only [Bool.not_true, Bool.false_eq_true, ↓reduceIte, usesFound_bind]
            refine usesFound_decode fun coded => ?_
            simp only [usesFound_logWrite]
            refine usesFound_deliverLocal fun held => ?_
            simp

private theorem usesFound_storeReply {config : DriverConfig} {decoded : Bytes}
    {held : Option (RegistryList × Ref)} {post : Unit → Option (RegistryList × Ref) → Prop}
    (continues : ∀ held, post () held) : UsesFound (storeReply config decoded) post held := by
  rw [storeReply.eq_def]
  split
  · simpa using continues held
  · split
    · exact usesFound_fault
    · simp only [usesFound_bind, usesFound_logWrite]
      split
      · exact usesFound_fault
      · simp only [usesFound_bind, usesFound_free, usesFound_findInList]
        intro found
        cases found with
        | none => simpa using continues none
        | some node =>
          simp only [Option.map_some, usesFound_bind]
          rw [usesFound_writePayload rfl, usesFound_writePayload rfl, usesFound_readPayload rfl]
          simpa using continues _

private theorem usesFound_notice {handler : Option HandlerPtr} {call : HandlerPtr → HandlerCall}
    {held : Option (RegistryList × Ref)} {post : Unit → Option (RegistryList × Ref) → Prop}
    (noClient : ∀ handler, (call handler).target = none) (continues : post () held) :
    UsesFound (handler.forM fun handler => invoke (call handler)) post held := by
  cases handler with
  | none => exact continues
  | some handler =>
    refine (usesFound_invoke ?_).mpr continues
    intro target aimed
    cases (noClient handler).symm.trans aimed

theorem onBroadcastMessage_usesFound (config : DriverConfig) (msg : NatsMsg)
    (held : Option (RegistryList × Ref)) :
    UsesFound (onBroadcastMessage config msg) (fun _ _ => True) held := by
  simp only [onBroadcastMessage, usesFound_bind, usesFound_logWrite]
  split
  · simp
  · split
    · simp
    · simp only [usesFound_bind, usesFound_logWrite]
      split
      · simp
      · simp only [usesFound_bind, usesFound_logWrite, usesFound_malloc]
        intro allocated
        cases allocated with
        | false => simp
        | true =>
          simp only [Bool.not_true, Bool.false_eq_true, ↓reduceIte, usesFound_bind]
          refine usesFound_decode fun coded => ?_
          simp only [usesFound_logWrite]
          split
          · simp
          · simp only [usesFound_ite, usesFound_bind, usesFound_logWrite]
            apply broadcast_branches (motive := id)
            · intro _
              refine ⟨?_, ?_, ?_, ?_⟩ <;> exact usesFound_notice (fun _ => rfl) (by simp)
            · exact fun _ => usesFound_storeReply fun held => by simp

end IotstackDriver.Edge
