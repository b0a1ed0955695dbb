import IotstackDriver.Edge.Topo

/-! Rules for the runs of a program against the shared state: one for each request,
and one for each procedure the operations share. -/

namespace IotstackDriver.Edge

open Libc Support

/-- The requests that change a list, or what the objects of its kind hold. -/
def Request.changes : RegistryList → Request → Bool
  | .requestid, newMsgParse _ | .requestid, push .requestid _ | .requestid, remove .requestid _
  | .requestid, writePayload _ _ => true
  | .connDevice, newSubdevClient _ | .connDevice, push .connDevice _
  | .connDevice, remove .connDevice _ | .connDevice, setOnline _ _ => true
  | _, _ => false

/-- Any other request only reads. -/
theorem handle_sameContent {env : Env} {request : Request} {reply : request.Reply}
    {world after : World} (answered : respond env request world = some (reply, after)) :
    (request.changes .requestid = false → SameContent world.requests after.requests) ∧
      (request.changes .connDevice = false → SameContent world.devices after.devices) := by
  cases request
  case newMsgParse requestId =>
    cases answered
    exact ⟨fun quiet => (by cases quiet), fun _ => .refl _⟩
  case newSubdevClient client =>
    cases answered
    exact ⟨fun _ => .refl _, fun quiet => by cases quiet⟩
  case push list node =>
    cases list
    all_goals
      simp only [respond] at answered
      split at answered <;> cases answered
    · exact ⟨fun quiet => (by cases quiet), fun _ => .refl _⟩
    · exact ⟨fun _ => .refl _, fun quiet => by cases quiet⟩
  case remove list node =>
    cases list
    all_goals
      simp only [respond, Option.bind_eq_bind, Option.bind_eq_some_iff] at answered
      obtain ⟨own, -, answered⟩ := answered
    · refine ⟨fun quiet => (by cases quiet), fun _ => ?_⟩
      split at answered <;> cases answered <;> exact .refl _
    · refine ⟨fun _ => ?_, fun quiet => by cases quiet⟩
      split at answered <;> cases answered <;> exact .refl _
  case find list key =>
    cases list
    · simp only [respond] at answered
      split at answered <;> cases answered
      · exact ⟨fun _ => .touchAll _, fun _ => .refl _⟩
      · exact ⟨fun _ => .refl _, fun _ => .refl _⟩
    · simp only [respond] at answered
      split at answered
      · split at answered
        · cases answered
          exact ⟨fun _ => .refl _, fun _ => .touchAll _⟩
        · split at answered <;> cases answered
          exact ⟨fun _ => .refl _, fun _ => .refl _⟩
      · cases answered
        exact ⟨fun _ => .refl _, fun _ => .refl _⟩
  case readPayload node look =>
    simp only [respond, Option.bind_eq_bind, Option.bind_eq_some_iff] at answered
    obtain ⟨own, -, answered⟩ := answered
    cases answered
    exact ⟨fun _ => .touch _, fun _ => .refl _⟩
  case writePayload node stores =>
    simp only [respond, Option.bind_eq_bind, Option.bind_eq_some_iff] at answered
    obtain ⟨own, -, answered⟩ := answered
    split at answered <;> cases answered
    exact ⟨fun quiet => (by cases quiet), fun _ => .refl _⟩
  case readClient client =>
    simp only [respond, Option.bind_eq_bind, Option.bind_eq_some_iff] at answered
    obtain ⟨own, -, answered⟩ := answered
    cases answered
    exact ⟨fun _ => .refl _, fun _ => .touch _⟩
  case setOnline client online =>
    simp only [respond, Option.bind_eq_bind, Option.bind_eq_some_iff] at answered
    obtain ⟨own, -, answered⟩ := answered
    cases answered
    exact ⟨fun _ => .refl _, fun quiet => by cases quiet⟩
  case fault => cases answered
  all_goals
    cases answered
    exact ⟨fun _ => .refl _, fun _ => .refl _⟩

/-- What an answered request makes of the entries and of `requestid_list`. -/
inductive RequestsChange (env : Env) (requests : Registry MsgParse) :
    Request → Registry MsgParse → Prop
  | reads {request : Request} {after : Registry MsgParse}
      (quiet : request.changes .requestid = false) (same : SameContent requests after) :
      RequestsChange env requests request after
  | creates {requestId : UInt32} :
      RequestsChange env requests (.newMsgParse requestId) (requests.alloc ⟨requestId, .zero⟩)
  | pushes {node : Ref} (allocated : node < requests.size) :
      RequestsChange env requests (.push .requestid node) (requests.push node)
  | removes {node : Ref} {own : MsgParse} (present : requests.value? node = some own)
      (iterates : env.malloc (.listIterator .requestid) = true) :
      RequestsChange env requests (.remove .requestid node)
        (extractFromList requests node (msgParseMatch own.requestId)).2
  | refuses {node : Ref} {own : MsgParse} (present : requests.value? node = some own)
      (refused : ¬ env.malloc (.listIterator .requestid) = true) :
      RequestsChange env requests (.remove .requestid node) requests
  | writes {node : Ref} {stores : List (Nat × UInt8)} {own : MsgParse}
      (present : requests.value? node = some own)
      (inside : (stores.all fun store => store.1 < natsMsgMaxLen) = true) :
      RequestsChange env requests (.writePayload node stores)
        ((requests.touch node).modify node fun entry => entry.storeAll stores)

/-- What an answered request makes of the clients and of `conn_device_list`. -/
inductive DevicesChange (env : Env) (devices : Registry SubdevClient) :
    Request → Registry SubdevClient → Prop
  | reads {request : Request} {after : Registry SubdevClient}
      (quiet : request.changes .connDevice = false) (same : SameContent devices after) :
      DevicesChange env devices request after
  | creates {client : SubdevClient} :
      DevicesChange env devices (.newSubdevClient client) (devices.alloc client)
  | pushes {node : Ref} (allocated : node < devices.size) :
      DevicesChange env devices (.push .connDevice node) (devices.push node)
  | removes {node : Ref} {own : SubdevClient} (present : devices.value? node = some own)
      (iterates : env.malloc (.listIterator .connDevice) = true) :
      DevicesChange env devices (.remove .connDevice node)
        (extractFromList devices node (subdevClientMatch own.deviceSn)).2
  | refuses {node : Ref} {own : SubdevClient} (present : devices.value? node = some own)
      (refused : ¬ env.malloc (.listIterator .connDevice) = true) :
      DevicesChange env devices (.remove .connDevice node) devices
  | flags {client : Ref} {online : Bool} {own : SubdevClient}
      (present : devices.value? client = some own) :
      DevicesChange env devices (.setOnline client online)
        ((devices.touch client).modify client fun own => own.withOnline online)

section Changes

variable {env : Env} {request : Request} {reply : request.Reply} {world after : World}

theorem handle_requests (answered : respond env request world = some (reply, after)) :
    RequestsChange env world.requests request after.requests := by
  have kept (quiet : request.changes .requestid = false) :
      RequestsChange env world.requests request after.requests :=
    .reads quiet ((handle_sameContent answered).1 quiet)
  cases request
  case newMsgParse requestId =>
    cases answered
    exact .creates
  case push list node =>
    cases list
    · simp only [respond] at answered
      split at answered <;> cases answered
      exact .pushes ‹_›
    · exact kept rfl
  case remove list node =>
    cases list
    · simp only [respond, Option.bind_eq_bind, Option.bind_eq_some_iff] at answered
      obtain ⟨own, present, answered⟩ := answered
      split at answered <;> cases answered
      · exact .removes present ‹_›
      · exact .refuses present ‹_›
    · exact kept rfl
  case writePayload node stores =>
    simp only [respond, Option.bind_eq_bind, Option.bind_eq_some_iff] at answered
    obtain ⟨own, present, answered⟩ := answered
    split at answered <;> cases answered
    exact .writes present ‹_›
  all_goals exact kept rfl

theorem handle_devices (answered : respond env request world = some (reply, after)) :
    DevicesChange env world.devices request after.devices := by
  have kept (quiet : request.changes .connDevice = false) :
      DevicesChange env world.devices request after.devices :=
    .reads quiet ((handle_sameContent answered).2 quiet)
  cases request
  case newSubdevClient client =>
    cases answered
    exact .creates
  case push list node =>
    cases list
    · exact kept rfl
    · simp only [respond] at answered
      split at answered <;> cases answered
      exact .pushes ‹_›
  case remove list node =>
    cases list
    · exact kept rfl
    · simp only [respond, Option.bind_eq_bind, Option.bind_eq_some_iff] at answered
      obtain ⟨own, present, answered⟩ := answered
      split at answered <;> cases answered
      · exact .removes present ‹_›
      · exact .refuses present ‹_›
  case setOnline client online =>
    simp only [respond, Option.bind_eq_bind, Option.bind_eq_some_iff] at answered
    obtain ⟨own, present, answered⟩ := answered
    cases answered
    exact .flags present
  all_goals exact kept rfl

end Changes

/-- Every finished run of the program from the state ends in the postcondition. A
checked program in addition accesses no released client, finished or not. -/
def Ends (env : Env) (checked : Prop) (program : Program edge α) (post : α → World → Prop)
    (world : World) : Prop :=
  Program.Meets (Program.Protocol.ofHandler (respond env) fun world next =>
    checked → next.devices.misuse = world.devices.misuse) program post world

variable {env : Env} {checked : Prop} {world : World}

theorem Ends.of_run {program : Program edge α} {post : α → World → Prop}
    (ends : Ends env checked program post world)
    (ran : program.run (respond env) world = some (value, final)) : post value final :=
  Program.Meets.of_run ends ran

theorem Ends.misuse {program : Program edge α} {post : α → World → Prop}
    (ends : Ends env True program post world) (clean : world.devices.misuse = []) :
    (program.reached (handle env) world).devices.misuse = [] := by
  have kept : ∀ state next : World, (True → next.devices.misuse = state.devices.misuse) →
      state.devices.misuse = [] → next.devices.misuse = [] :=
    fun state next same clean => (same trivial).trans clean
  exact Program.Meets.reached (Program.Meets.guarded ends) kept clean

theorem Ends.weaken {program : Program edge α} {post weaker : α → World → Prop}
    (ends : Ends env checked program post world)
    (implied : ∀ value final, post value final → weaker value final) :
    Ends env checked program weaker world :=
  Program.Meets.weaken ends implied

@[simp] theorem ends_pure {value : α} {post : α → World → Prop} :
    Ends env checked (pure value) post world ↔ post value world := Iff.rfl

@[simp] theorem ends_bind {program : Program edge α} {next : α → Program edge β}
    {post : β → World → Prop} : Ends env checked (program >>= next) post world ↔
      Ends env checked program (fun value final => Ends env checked (next value) post final) world :=
  Program.meets_bind ..

@[simp] theorem ends_ite {condition : Prop} [Decidable condition] {left right : Program edge α}
    {post : α → World → Prop} : Ends env checked (if condition then left else right) post world ↔
      if condition then Ends env checked left post world
      else Ends env checked right post world := by
  split <;> rfl

private theorem ends_request {request : Request} {post : request.Reply → World → Prop} :
    Ends env checked (.call request .done) post world ↔ ∀ reply final,
      respond env request world = some (reply, final) →
        (checked → final.devices.misuse = world.devices.misuse) ∧ post reply final := by
  simp only [Ends, Program.meets_call, Program.meets_done, Program.Protocol.ofHandler]
  constructor
  · exact fun meets reply final answered =>
      ⟨meets.1 reply final answered, meets.2 reply final answered⟩
  · exact fun meets => ⟨fun reply final answered => (meets reply final answered).1,
      fun reply final answered => (meets reply final answered).2⟩

section Requests

/-- A request that keeps the clients. -/
private theorem answered {reply : ρ} {next : World} {post : ρ → World → Prop}
    (same : next.devices.misuse = world.devices.misuse) :
    (∀ value final, some (reply, next) = some (value, final) →
      (checked → final.devices.misuse = world.devices.misuse) ∧ post value final) ↔
      post reply next := by
  simp [same]

@[simp] theorem ends_malloc {site : AllocSite} {post : Bool → World → Prop} :
    Ends env checked (malloc site) post world ↔ post (env.malloc site) world :=
  ends_request.trans (answered rfl)

@[simp] theorem ends_rand {draw : Draw} {post : Fin randBound → World → Prop} :
    Ends env checked (rand draw) post world ↔ post (env.rand draw) world :=
  ends_request.trans (answered rfl)

@[simp] theorem ends_publishString {subject text : Bytes} {post : EdgeStatus → World → Prop} :
    Ends env checked (publishString subject text) post world ↔
      post env.publishStatus world :=
  ends_request.trans (answered rfl)

@[simp] theorem ends_flush {post : EdgeStatus → World → Prop} :
    Ends env checked flush post world ↔ post env.flushStatus world :=
  ends_request.trans (answered rfl)

@[simp] theorem ends_sleep {ms : UInt32} {post : Unit → World → Prop} :
    Ends env checked (sleep ms) post world ↔ post () world :=
  ends_request.trans (answered rfl)

@[simp] theorem ends_logWrite {level : LogLevel} {format : String} {args : List Arg}
    {post : Unit → World → Prop} : Ends env checked (logWrite level format args) post world ↔
      post () world :=
  ends_request.trans (answered rfl)

@[simp] theorem ends_newMsgParse {requestId : UInt32} {post : Ref → World → Prop} :
    Ends env checked (newMsgParse requestId) post world ↔ post world.requests.size
      { world with requests := world.requests.alloc ⟨requestId, .zero⟩ } :=
  ends_request.trans (answered rfl)

@[simp] theorem ends_newSubdevClient {client : SubdevClient} {post : Ref → World → Prop} :
    Ends env checked (newSubdevClient client) post world ↔
      post world.devices.size { world with devices := world.devices.alloc client } :=
  ends_request.trans (answered rfl)

@[simp] theorem ends_invoke {call : HandlerCall} {post : Unit → World → Prop} :
    Ends env checked (invoke call) post world ↔ post () world :=
  ends_request.trans (answered rfl)

@[simp] theorem ends_free {resource : Resource} {post : Unit → World → Prop} :
    Ends env checked (free resource) post world ↔ post () world :=
  ends_request.trans (answered rfl)

@[simp] theorem ends_fault {post : α → World → Prop} : Ends env checked fault post world :=
  ⟨fun reply => reply.elim, fun reply => reply.elim⟩

@[simp] theorem ends_push_requestid {node : Ref} {post : Unit → World → Prop} :
    Ends env checked (push .requestid node) post world ↔ (node < world.requests.size →
      post () { world with requests := world.requests.push node }) := by
  apply ends_request.trans
  by_cases valid : node < world.requests.size
  · simp only [respond, valid, ↓reduceIte, forall_const]
    exact answered rfl
  · simp [respond, valid]

@[simp] theorem ends_push_connDevice {node : Ref} {post : Unit → World → Prop} :
    Ends env checked (push .connDevice node) post world ↔ (node < world.devices.size →
      post () { world with devices := world.devices.push node }) := by
  apply ends_request.trans
  by_cases valid : node < world.devices.size
  · simp only [respond, valid, ↓reduceIte, forall_const]
    exact answered Registry.push_misuse
  · simp [respond, valid]

@[simp] theorem ends_readClient {client : Ref} {post : SubdevClient → World → Prop} :
    Ends env checked (readClient client) post world ↔
      ∀ own, world.devices.value? client = some own →
        (checked → world.devices.live client = true) ∧
          post own { world with devices := world.devices.touch client } := by
  apply ends_request.trans
  cases found : world.devices.value? client <;>
    simp [respond, found, Registry.touch_misuse_eq_iff]

@[simp] theorem ends_setOnline {client : Ref} {online : Bool} {post : Unit → World → Prop} :
    Ends env checked (setOnline client online) post world ↔ (client < world.devices.size →
      (checked → world.devices.live client = true) ∧ post () { world with
        devices := (world.devices.touch client).modify client fun own => own.withOnline online }) := by
  apply ends_request.trans
  have known : (world.devices.value? client).isSome = true ↔ client < world.devices.size :=
    Registry.value?_isSome
  cases found : world.devices.value? client with
  | none =>
    have outside : ¬ client < world.devices.size := by simpa [found] using known
    simp [respond, found, outside]
  | some own =>
    have inside : client < world.devices.size := by simpa [found] using known
    simp only [respond, found, inside, forall_const, Option.bind_eq_bind, Option.bind_some,
      Option.some.injEq, Prod.mk.injEq, true_and, forall_eq', Registry.modify_misuse,
      Registry.touch_misuse_eq_iff]
    exact ⟨fun kept => kept (), fun kept _ => kept⟩

@[simp] theorem ends_readPayload {node : Ref} {look : Look} {post : Bytes → World → Prop} :
    Ends env checked (readPayload node look) post world ↔
      ∀ own, world.requests.value? node = some own →
        post (env.look look (own.payload.cString natsMsgMaxLen))
          { world with requests := world.requests.touch node } := by
  apply ends_request.trans
  cases found : world.requests.value? node <;> simp [respond, found]

@[simp] theorem ends_writePayload {node : Ref} {stores : List (Nat × UInt8)}
    {post : Unit → World → Prop} : Ends env checked (writePayload node stores) post world ↔
      ∀ own, world.requests.value? node = some own →
        (stores.all fun store => store.1 < natsMsgMaxLen) = true → post () { world with
          requests := (world.requests.touch node).modify node fun entry => entry.storeAll stores } := by
  apply ends_request.trans
  cases found : world.requests.value? node with
  | none => simp [respond, found]
  | some own =>
    cases inside : stores.all fun store => decide (store.1 < natsMsgMaxLen) with
    | false => simp [respond, found, inside]
    | true =>
      simp only [respond, found, inside, ↓reduceIte, Option.bind_eq_bind, Option.bind_some]
      refine (answered rfl).trans ⟨fun continues _ _ _ => continues, fun continues => ?_⟩
      exact continues own rfl trivial

@[simp] theorem ends_find_requestid {requestId : UInt32} {post : Option Ref → World → Prop} :
    Ends env checked (find .requestid requestId) post world ↔
      if env.malloc (.listIterator .requestid) then
        post (world.requests.find? (msgParseMatch requestId))
          { world with requests := (searchList world.requests (msgParseMatch requestId)).2 }
      else post none world := by
  apply ends_request.trans
  cases allocated : env.malloc (.listIterator .requestid) with
  | false => simp [respond, allocated]
  | true =>
    simp only [respond, allocated, ↓reduceIte]
    exact answered rfl

@[simp] theorem ends_remove_requestid {node : Ref} {post : Bool → World → Prop} :
    Ends env checked (remove .requestid node) post world ↔
      ∀ own, world.requests.value? node = some own →
        if env.malloc (.listIterator .requestid) then
          let (found, requests) :=
            extractFromList world.requests node (msgParseMatch own.requestId)
          post found { world with requests }
        else post false world := by
  apply ends_request.trans
  cases found : world.requests.value? node <;>
    cases allocated : env.malloc (.listIterator .requestid) <;> simp [respond, found, allocated]

/-- The accesses of a removal are the node's, if anything is listed, and those of the
entries visited. -/
@[simp] theorem ends_remove_connDevice {node : Ref} {post : Bool → World → Prop} :
    Ends env checked (remove .connDevice node) post world ↔
      ∀ own, world.devices.value? node = some own →
        if env.malloc (.listIterator .connDevice) then
          let (found, devices) :=
            extractFromList world.devices node (subdevClientMatch own.deviceSn)
          (checked → devices.misuse = world.devices.misuse) ∧ post found { world with devices }
        else post false world := by
  apply ends_request.trans
  cases found : world.devices.value? node <;>
    cases allocated : env.malloc (.listIterator .connDevice) <;> simp [respond, found, allocated]

end Requests

end IotstackDriver.Edge
