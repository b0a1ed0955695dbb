import IotstackDriver.Edge.Ledger
import IotstackDriver.Edge.LockedCalls
import IotstackDriver.Edge.StatusSync

/-! The scratch buffers over whole runs: which work gives back what it allocated, and what the
rest keeps. -/

namespace IotstackDriver.Edge

open Libc Support Program

/-- The buffers held after a reply. A buffer that is not held cannot be freed. -/
def bookBuffers (held : List Buffer) : (request : Request) → request.Reply → Option (List Buffer)
  | .malloc (.buffer buffer), allocated => some (if allocated then buffer :: held else held)
  | .free (.buffer buffer), _ => if buffer ∈ held then some (held.erase buffer) else none
  | _, _ => some held

/-- The reply is the one the environment has for an allocation. -/
def Env.Allocates (env : Env) : (request : Request) → request.Reply → Prop
  | .malloc site, allocated => allocated = env.malloc site
  | _, _ => True

/-- What is freed is held. -/
def scratchProtocol (env : Env) : Protocol edge (List Buffer) where
  allowed held request := match request with
    | .free (.buffer buffer) => buffer ∈ held
    | _ => True
  step held request reply after := bookBuffers held request reply = some after ∧ env.Allocates request reply

/-- What the driver does at a time: a message, a call, or the periodic notice. -/
inductive Job where
  | duty (duty : Locking.Duty)
  | statusSync

namespace Job

def program (config : DriverConfig) : Job → Program edge Unit
  | duty inner => inner.program config
  | statusSync => handleStatusSync config

/-- The buffers allocated and never given back. -/
def keeps (env : Env) : Job → List Buffer
  | duty (.natsPublish ..) =>
    if env.malloc (.buffer .normalPayloadBase64) then [.normalPayloadBase64] else []
  | statusSync =>
    if env.malloc (.buffer .deviceListMsg) && env.malloc (.buffer .tmpMsg) &&
      env.malloc (.buffer .syncMsg) then [.syncMsg, .tmpMsg, .deviceListMsg] else []
  | _ => []

end Job

variable {config : DriverConfig} {env : Env} {held : List Buffer}

section Steps

/-- A request that neither allocates nor frees a buffer. -/
def Unheld : Request → Prop
  | .malloc (.buffer _) | .free (.buffer _) => False
  | _ => True

theorem meets_unheld {program : Program edge α} {post : α → List Buffer → Prop}
    (unheld : Issues (I := edge) Unheld program fun _ => True) (continues : ∀ result, post result held) :
    Meets (scratchProtocol env) program post held := by
  refine .of_issues unheld (fun request free => ?_) fun result _ => continues result
  have stays {reply : request.Reply} {next : List Buffer} (same : bookBuffers held request reply = some held)
      (stepped : (scratchProtocol env).step held request reply next) : next = held :=
    Option.some.inj (stepped.1.symm.trans same)
  cases request with
  | malloc site =>
    cases site with
    | buffer => cases free
    | _ => exact ⟨trivial, fun reply next => stays rfl⟩
  | free resource =>
    cases resource with
    | buffer => cases free
    | _ => exact ⟨trivial, fun reply next => stays rfl⟩
  | _ => exact ⟨trivial, fun reply next => stays rfl⟩

theorem holds_buffer {buffer : Buffer} {post : Bool → List Buffer → Prop} :
    Meets (scratchProtocol env) (malloc (.buffer buffer)) post held ↔
      post (env.malloc (.buffer buffer))
        (if env.malloc (.buffer buffer) then buffer :: held else held) := by
  constructor
  · exact fun meets => meets.2 _ _ ⟨rfl, rfl⟩
  · rintro met
    refine ⟨trivial, ?_⟩
    rintro reply next ⟨booked, rfl⟩
    cases booked
    exact met

theorem holds_free {buffer : Buffer} {post : Unit → List Buffer → Prop} :
    Meets (scratchProtocol env) (free (.buffer buffer)) post held ↔
      buffer ∈ held ∧ post () (held.erase buffer) := by
  refine and_congr_right fun (member : buffer ∈ held) => ⟨fun all => all () _ ⟨if_pos member, trivial⟩, ?_⟩
  rintro met reply next ⟨booked, -⟩
  rw [bookBuffers, if_pos member] at booked
  cases booked
  exact met

theorem holds_fault {post : α → List Buffer → Prop} :
    Meets (scratchProtocol env) (fault : Program edge α) post held :=
  ⟨trivial, fun reply => reply.elim⟩

theorem holds_pure {value : α} {post : α → List Buffer → Prop} :
    Meets (scratchProtocol env) (pure value) post held ↔ post value held := Iff.rfl

/-- The book enters what a handler of the environment answers. -/
theorem scratch_entered {world next : World} {request : Request} {reply : request.Reply}
    (allowed : (scratchProtocol env).allowed held request)
    (answered : respond env request world = some (reply, next)) :
    ∃ after, bookBuffers held request reply = some after ∧
      (scratchProtocol env).step held request reply after := by
  have entered : ∃ after, bookBuffers held request reply = some after := by
    cases request with
    | malloc site => cases site <;> exact ⟨_, rfl⟩
    | free resource =>
      cases resource with
      | buffer buffer => exact ⟨_, if_pos allowed⟩
      | _ => exact ⟨_, rfl⟩
    | _ => exact ⟨_, rfl⟩
  obtain ⟨after, booked⟩ := entered
  refine ⟨after, booked, booked, ?_⟩
  cases request with
  | malloc site =>
    cases answered
    rfl
  | _ => trivial

end Steps

/-- An operation that settles gives its buffers back. -/
theorem holds_of_settles {subject : Bytes} {limit : Nat} {program : Program edge α}
    (settles : Meets (ledgerProtocol subject limit) program (fun _ after => after.Settled limit) .start) :
    Meets (scratchProtocol env) program (fun _ after => after = held) held := by
  have related : Meets (scratchProtocol env) program (fun _ below => ∃ ledger : Ledger,
      below = ledger.held ++ held ∧ ledger.Settled limit) held := by
    have begins : held = Ledger.start.held ++ held := rfl
    refine settles.transport (fun ledger below request (same : below = ledger.held ++ held) allowed => ?_) begins
    subst same
    have stays {reply : request.Reply} {below' : List Buffer}
        (same : bookBuffers (ledger.held ++ held) request reply = some (ledger.held ++ held))
        (after : ((ledger.after request reply).held) = ledger.held)
        (stepped : (scratchProtocol env).step (ledger.held ++ held) request reply below') :
        ∃ next, (ledgerProtocol subject limit).step ledger request reply next ∧
          below' = next.held ++ held :=
      ⟨_, rfl, by rw [after]; exact Option.some.inj (stepped.1.symm.trans same)⟩
    cases request with
    | malloc site =>
      cases site with
      | buffer buffer =>
        refine ⟨trivial, fun reply below' stepped => ⟨_, rfl, ?_⟩⟩
        have booked := Option.some.inj stepped.1
        cases reply <;> exact booked.symm
      | _ => exact ⟨trivial, fun reply below' => stays rfl rfl⟩
    | free resource =>
      cases resource with
      | buffer buffer =>
        have own : buffer ∈ ledger.held := allowed
        have member : buffer ∈ ledger.held ++ held := List.mem_append_left _ own
        refine ⟨member, fun reply below' stepped => ⟨_, rfl, ?_⟩⟩
        have booked := stepped.1
        rw [bookBuffers, if_pos member, List.erase_append_left _ own] at booked
        exact (Option.some.inj booked).symm
      | _ => exact ⟨trivial, fun reply below' => stays rfl rfl⟩
    | _ => exact ⟨trivial, fun reply below' => stays rfl rfl⟩
  refine related.weaken fun _ below => ?_
  rintro ⟨ledger, rfl, settled⟩
  rw [settled.held, List.nil_append]

/-! ## The callbacks' parts -/

/-- A request that concerns no buffer, no handler, no new client and not the gateway's state. -/
def Inner : Request → Prop
  | .malloc (.buffer _) | .free (.buffer _) | .invoke _ | .newSubdevClient _ | .setEdgeState _ => False
  | _ => True

theorem Inner.unheld {request : Request} (inner : Inner request) : Unheld request := by
  cases request with
  | malloc site =>
    cases site with
    | buffer => cases inner
    | _ => exact trivial
  | free resource =>
    cases resource with
    | buffer => cases inner
    | _ => exact trivial
  | _ => exact trivial

/-- The program works on requests of that kind alone. -/
abbrev InnerOnly (program : Program edge α) : Prop := Issues (I := edge) Inner program fun _ => True

theorem InnerOnly.issues {program : Program edge α} {allowed : Request → Prop} (only : InnerOnly program)
    (admits : ∀ request, Inner request → allowed request) :
    Issues (I := edge) allowed program fun _ => True :=
  only.weaken admits fun _ _ => trivial

section Parts

variable {client : Ref} {deviceSn topic : Option CString} {payload : Memory} {payloadLen : Int}

theorem base64DecodeMsg_inner {text : Bytes} {inlen : Int} :
    InnerOnly (base64DecodeMsg config text inlen) := by
  rcases base64DecodeMsg_cases config text inlen with stops | ⟨coded, -, -, decodes⟩
  · simp [stops, Inner]
  · simp [decodes]

theorem base64DecodeString_inner {text : Option CString} : InnerOnly (base64DecodeString config text) := by
  cases text with
  | none => simp [base64DecodeString, Inner]
  | some text => exact base64DecodeMsg_inner

theorem storeReply_inner {decoded : Bytes} : InnerOnly (storeReply config decoded) := by
  rw [storeReply.eq_def]
  split
  · simp [Inner]
  · split
    · simp [Inner]
    · refine .bind (by simp [Inner]) fun _ => ?_
      split
      · simp [Inner]
      · refine .bind (by simp [Inner]) fun _ => .bind (by simp [Inner]) fun found => ?_
        split <;> simp [Inner]

theorem listDevices_inner {deviceListMsg : Bytes} {nodes : List Ref} :
    InnerOnly (listDevices deviceListMsg nodes) :=
  issues_listDevices (by simp [Inner]) (by simp [Inner]) (by simp [Inner]) deviceListMsg nodes

theorem deliverLocal_unheld :
    Issues (I := edge) Unheld (deliverLocal deviceSn topic payload payloadLen) fun _ => True := by
  refine .bind (by simp [Unheld]) fun found => ?_
  cases found with
  | none => simp [Unheld]
  | some client => exact issues_dispatchLocal trivial trivial fun _ => trivial

theorem notice_unheld (handler : Option HandlerPtr) (notice : HandlerPtr → HandlerCall) :
    Issues (I := edge) Unheld (handler.forM fun handler => invoke (notice handler)) fun _ => True := by
  cases handler <;> simp [Unheld]

theorem edgeSubdevConstruct_unheld {productSn deviceSn : Option CString}
    {normalMsgHandle rrpcMsgHandle : Option HandlerPtr} : Issues (I := edge) Unheld
      (edgeSubdevConstruct productSn deviceSn normalMsgHandle rrpcMsgHandle) fun _ => True := by
  unfold edgeSubdevConstruct
  split <;> simp [Unheld]

end Parts

section Callbacks

variable {msg : NatsMsg}

/-- The end of a callback, which frees its buffer and then the message. -/
private theorem holds_end {buffer : Buffer} {after : Program edge Unit}
    (ends : Issues (I := edge) Unheld after fun _ => True) :
    Meets (scratchProtocol env) (free (.buffer buffer) >>= fun _ => after) (fun _ after => after = held)
      (buffer :: held) := by
  rw [meets_bind, holds_free]
  exact ⟨List.mem_cons_self, meets_unheld ends fun _ => List.erase_cons_head ..⟩

/-- A buffer that cannot be had is not held. -/
private theorem holds_guarded {buffer : Buffer} {refused rest : Program edge Unit}
    (refuses : Issues (I := edge) Unheld refused fun _ => True)
    (continues : Meets (scratchProtocol env) rest (fun _ after => after = held) (buffer :: held)) :
    Meets (scratchProtocol env) (malloc (.buffer buffer) >>= fun allocated =>
      if (!allocated) = true then refused else rest) (fun _ after => after = held) held := by
  rw [meets_bind, holds_buffer]
  cases env.malloc (.buffer buffer) with
  | false => exact meets_unheld refuses fun _ => rfl
  | true => exact continues

/-- Work that leaves the buffers alone. -/
private theorem holds_then {work : Program edge α} {rest : α → Program edge Unit}
    {post : Unit → List Buffer → Prop} (works : Issues (I := edge) Unheld work fun _ => True)
    (continues : ∀ value, Meets (scratchProtocol env) (rest value) post held) :
    Meets (scratchProtocol env) (work >>= rest) post held := by
  rw [meets_bind]
  exact meets_unheld works fun value => continues value

theorem onNatsMessage_holds :
    Meets (scratchProtocol env) (onNatsMessage config msg) (fun _ after => after = held) held := by
  refine holds_then (by simp [Unheld]) fun _ => holds_guarded (by simp [Unheld]) ?_
  have ends : Issues (I := edge) Unheld (pure ()) fun _ => True := trivial
  refine holds_then (base64DecodeMsg_inner.issues fun _ => Inner.unheld) fun coded => ?_
  exact holds_then (by simp [Unheld]) fun _ => holds_then (notice_unheld _ _) fun _ => holds_end ends

theorem onEdgeStateMessage_unheld :
    Issues (I := edge) Unheld (onEdgeStateMessage config msg) fun _ => True := by
  refine .bind (by simp [Unheld]) fun _ => ?_
  split
  · simp [Unheld]
  · split
    · simp [Unheld]
    · refine .bind (by simp [Unheld]) fun allocated => .bind (by simp [Unheld]) fun _ => ?_
      split
      · simp [Unheld]
      · exact .bind ⟨trivial, fun _ => trivial⟩ fun _ => by simp [Unheld]

theorem onLocalMessage_holds :
    Meets (scratchProtocol env) (onLocalMessage config msg) (fun _ after => after = held) held := by
  have stops {program : Program edge Unit} (unheld : Issues (I := edge) Unheld program fun _ => True) :
      Meets (scratchProtocol env) program (fun _ after => after = held) held :=
    meets_unheld unheld fun _ => rfl
  refine holds_then (by simp [Unheld]) fun _ => ?_
  split
  · exact stops (by simp [Unheld])
  · split
    · exact stops (by simp [Unheld])
    · refine holds_then (by simp [Unheld]) fun _ => ?_
      split
      · exact stops (by simp [Unheld])
      · refine holds_then (by simp [Unheld]) fun _ => ?_
        split
        · exact stops (by simp [Unheld])
        · refine holds_then (by simp [Unheld]) fun _ => holds_guarded (by simp [Unheld]) ?_
          refine holds_then (base64DecodeString_inner.issues fun _ => Inner.unheld) fun coded => ?_
          refine holds_then (by simp [Unheld]) fun _ => ?_
          exact holds_then deliverLocal_unheld fun _ => holds_then (by simp [Unheld]) fun _ =>
            holds_end (by simp [Unheld])

theorem onBroadcastMessage_holds :
    Meets (scratchProtocol env) (onBroadcastMessage config msg) (fun _ after => after = held) held := by
  have stops {program : Program edge Unit} (unheld : Issues (I := edge) Unheld program fun _ => True) :
      Meets (scratchProtocol env) program (fun _ after => after = held) held :=
    meets_unheld unheld fun _ => rfl
  refine holds_then (by simp [Unheld]) fun _ => ?_
  split
  · exact stops (by simp [Unheld])
  · split
    · exact stops (by simp [Unheld])
    · refine holds_then (by simp [Unheld]) fun _ => ?_
      split
      · exact stops (by simp [Unheld])
      · refine holds_then (by simp [Unheld]) fun _ => holds_guarded (by simp [Unheld]) ?_
        refine holds_then (base64DecodeString_inner.issues fun _ => Inner.unheld) fun coded => ?_
        refine holds_then (by simp [Unheld]) fun _ => ?_
        split
        · rw [meets_bind]
          exact holds_fault
        · have ends : Meets (scratchProtocol env) (do
              free .msgJson
              free (.buffer .msgBase64decode)
              free .msg) (fun _ after => after = held) (.msgBase64decode :: held) :=
            holds_then (by simp [Unheld]) fun _ => holds_end (by simp [Unheld])
          apply broadcast_branches
            (motive := fun branch => Meets (scratchProtocol env) branch _ (.msgBase64decode :: held))
          · intro _
            refine ⟨?_, ?_, ?_, ?_⟩ <;>
              exact holds_then (by simp [Unheld]) fun _ => holds_then (notice_unheld _ _) fun _ => ends
          · exact fun _ => holds_then (storeReply_inner.issues fun _ => Inner.unheld) fun _ => ends

/-- The periodic notice gives back what it has where an allocation fails, and nothing at its end. -/
theorem handleStatusSync_holds : Meets (scratchProtocol env) (handleStatusSync config)
    (fun _ after => after = Job.statusSync.keeps env ++ held) held := by
  rw [handleStatusSync, meets_bind, holds_buffer]
  cases listed : env.malloc (.buffer .deviceListMsg) with
  | false =>
    exact meets_unheld (by simp [Unheld]) fun _ => by simp [Job.keeps, listed]
  | true =>
    change Meets (scratchProtocol env) (malloc (.buffer .tmpMsg) >>= _) _ (.deviceListMsg :: held)
    rw [meets_bind, holds_buffer]
    cases named : env.malloc (.buffer .tmpMsg) with
    | false =>
      exact holds_then (by simp [Unheld]) fun _ => by simp [holds_free, holds_pure, Job.keeps, named]
    | true =>
      change Meets (scratchProtocol env) (malloc (.buffer .syncMsg) >>= _) _ (.tmpMsg :: .deviceListMsg :: held)
      rw [meets_bind, holds_buffer]
      cases synced : env.malloc (.buffer .syncMsg) with
      | false =>
        exact holds_then (by simp [Unheld]) fun _ => by simp [holds_free, holds_pure, Job.keeps, synced]
      | true =>
        have kept : Job.statusSync.keeps env ++ held = .syncMsg :: .tmpMsg :: .deviceListMsg :: held := by
          simp [Job.keeps, listed, named, synced]
        rw [kept]
        have gathers : Issues (I := edge) Unheld (iterate .connDevice) fun _ => True :=
          ⟨trivial, fun _ => trivial⟩
        refine holds_then gathers fun iterated => ?_
        cases iterated with
        | none => exact rfl
        | some nodes =>
          refine holds_then (listDevices_inner.issues fun _ => Inner.unheld) fun deviceListMsg => ?_
          exact meets_unheld (by simp [publishAndFlush, Unheld]) fun _ => rfl

theorem natsPublish_holds {subject : CString} {data : Option Memory} {dataLen : Int} :
    Meets (scratchProtocol env) (natsPublish config subject data dataLen)
      (fun _ after => after = (Job.duty (.natsPublish subject data dataLen)).keeps env ++ held) held := by
  rw [natsPublish.eq_def, meets_bind, holds_buffer]
  cases allocated : env.malloc (.buffer .normalPayloadBase64) with
  | false =>
    exact meets_unheld (by simp [Unheld]) fun _ => by simp [Job.keeps, allocated]
  | true =>
    have kept : (Job.duty (.natsPublish subject data dataLen)).keeps env ++ held =
        .normalPayloadBase64 :: held := by simp [Job.keeps, allocated]
    rw [kept]
    cases encodedMsg config data dataLen with
    | none => exact holds_fault
    | some coded =>
      exact meets_unheld (by simp [publishAndFlush, Unheld]) fun _ => rfl

end Callbacks

namespace Job

theorem holds (job : Job) : Meets (scratchProtocol env) (job.program config)
    (fun _ after => after = job.keeps env ++ held) held := by
  have settles (operation : Operation) : Meets (scratchProtocol env) (operation.program config)
      (fun _ after => after = held) held := holds_of_settles operation.owes
  cases job with
  | statusSync => exact handleStatusSync_holds
  | duty duty =>
    cases duty with
    | handle process =>
      cases process with
      | onBroadcastMessage msg => exact onBroadcastMessage_holds
      | onLocalMessage msg => exact onLocalMessage_holds
      | request inner => exact settles (.request inner)
      | device inner =>
        cases inner with
        | construct productSn deviceSn normalMsgHandle rrpcMsgHandle =>
          refine holds_then edgeSubdevConstruct_unheld fun _ => rfl
        | loginSync client timeOutMs => exact settles (.request (.loginSync (some client) timeOutMs))
        | logoutSync client timeOutMs => exact settles (.request (.logoutSync (some client) timeOutMs))
        | loginAsync client => exact settles (.loginAsync (some client))
        | logoutAsync client => exact settles (.logoutAsync (some client))
        | dynamicAuth client productSecret timeOutMs =>
          exact settles (.request (.dynamicAuth (some client) productSecret timeOutMs))
    | onEdgeStateMessage msg => exact meets_unheld onEdgeStateMessage_unheld fun _ => rfl
    | onNatsMessage msg => exact onNatsMessage_holds
    | publish topic data dataLen => exact settles (.publish topic data dataLen)
    | natsPublish subject data dataLen =>
      change Meets _ (Edge.natsPublish config subject data dataLen >>= fun _ => pure ()) _ _
      rw [meets_bind]
      exact natsPublish_holds

end Job

/-- Over any run of the driver's work, no buffer is freed that is not held, and what stays
allocated is what each call of `nats_publish` and each periodic notice keeps. -/
theorem run_buffers (jobs : List (Env × Job)) (world : World) :
    Program.runEach (fun env => (handle env).booked bookBuffers)
        (jobs.map fun job => (job.1, job.2.program config)) (world, held) =
      (Program.runEach handle (jobs.map fun job => (job.1, job.2.program config)) world).map fun result =>
        (result.1, result.2, (jobs.reverse.flatMap fun job => job.2.keeps job.1) ++ held) := by
  induction jobs generalizing world held with
  | nil => rfl
  | cons first rest ih =>
    obtain ⟨env, job⟩ := first
    have step : (job.program config).run ((handle env).booked bookBuffers) (world, held) =
        ((job.program config).run (handle env) world).map fun result =>
          (result.1, result.2, job.keeps env ++ held) :=
      job.holds.run_booked fun _ _ _ _ _ allowed answered =>
        scratch_entered allowed (respond_of_handle answered)
    simp only [List.map_cons, Program.runEach, step]
    cases ran : (job.program config).run (handle env) world with
    | none => rfl
    | some result =>
      simp only [Option.map_some, Option.bind_eq_bind, Option.bind_some, ih, List.reverse_cons,
        List.flatMap_append, List.flatMap_cons, List.flatMap_nil, List.append_nil, List.append_assoc]
      cases Program.runEach handle (rest.map fun job => (job.1, job.2.program config)) result.2 <;> rfl

end IotstackDriver.Edge
