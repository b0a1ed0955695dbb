import IotstackDriver.Edge.DeviceCalls
import IotstackDriver.Edge.Issued
import IotstackDriver.Edge.Observed
import Mathlib.Algebra.Order.Ring.Rat
import Mathlib.Algebra.Order.Ring.Unbundled.Rat
import Mathlib.Tactic.Linarith

/-! What the operations that wait for a `RetCode` make of the reply they parse. -/

namespace IotstackDriver.Edge

open Libc Support Program

namespace CJson

private theorem tdiv_eq_zero_iff (number : Rat) :
    number.num.tdiv number.den = 0 ↔ -1 < number ∧ number < 1 := by
  have above : number < 1 ↔ number.num < number.den := Rat.num_lt_denom_iff.symm
  have below : -1 < number ↔ -number.num < number.den := by
    rw [neg_lt, ← Rat.num_lt_denom_iff, Rat.neg_num, Rat.neg_den]
  have positive : (0 : Int) < number.den := by exact_mod_cast number.den_pos
  have quotient := Nat.div_eq_zero_iff (a := number.num.natAbs) (b := (number.den : Int).natAbs)
  rw [← Int.natAbs_eq_zero, Int.natAbs_tdiv, above, below]
  change number.num.natAbs / _ = 0 ↔ _
  omega

/-- The fractions between -1 and 1 are cut to 0. -/
theorem truncated_eq_zero_iff (number : Rat) : truncated number = 0 ↔ -1 < number ∧ number < 1 := by
  have positive : (1 : Rat) ≤ intMax := by decide +kernel
  have negative : (intMin : Rat) ≤ -1 := by decide +kernel
  unfold truncated
  split
  · rename_i large
    have beyond : ¬ number < 1 := by linarith
    simp [intMax, beyond]
  · split
    · rename_i small
      have beyond : ¬ -1 < number := by linarith
      simp [intMin, beyond]
    · exact tdiv_eq_zero_iff number

/-- A value whose `valueint` is 0 only where it is the number 0. -/
def ReadsTrue : CJson → Prop
  | bool value => value = true
  | number valuedouble => valuedouble = 0 ∨ valuedouble ≤ -1 ∨ 1 ≤ valuedouble
  | _ => False

theorem readsTrue_iff (item : CJson) : item.ReadsTrue ↔ (item.valueint = 0 ↔ item = .number 0) := by
  cases item with
  | number valuedouble =>
    simp only [ReadsTrue, valueint, truncated_eq_zero_iff, number.injEq]
    constructor
    · rintro (zero | below | above)
      · simp [zero]
      · exact ⟨fun cut => by linarith, fun zero => by linarith⟩
      · exact ⟨fun cut => by linarith, fun zero => by linarith⟩
    · intro same
      by_contra outside
      push Not at outside
      exact outside.1 (same.mp ⟨outside.2.1, outside.2.2⟩)
  | bool value => cases value <;> simp [ReadsTrue, valueint]
  | _ => simp [ReadsTrue, valueint]

end CJson

/-- One call of an operation that expects a `RetCode`. -/
inductive CodedCall where
  | dynamicAuth (productSecret : Option CString) (timeOutMs : UInt32)
  | loginSync (timeOutMs : UInt32)
  | logoutSync (timeOutMs : UInt32)
  | addTopo (timeOutMs : UInt32)
  | deleteTopo (timeOutMs : UInt32)

def CodedCall.program (config : DriverConfig) (client : Option Ref) :
    CodedCall → Program edge EdgeStatus
  | dynamicAuth productSecret timeOutMs => edgeSubdevDynamicAuth config client productSecret timeOutMs
  | loginSync timeOutMs => edgeSubdevLoginSync config client timeOutMs
  | logoutSync timeOutMs => edgeSubdevLogoutSync config client timeOutMs
  | addTopo timeOutMs => edgeAddTopo config client timeOutMs
  | deleteTopo timeOutMs => edgeDeleteTopo config client timeOutMs

/-- The read of the reply that is to be parsed. -/
def parseRead : Request → Option Unit
  | .readPayload _ .parse => some ()
  | _ => none

/-- The run comes to parse what was stored in the call's entry, if its logs fit. -/
def ComesToParse (env : Env) (program : Program edge α) (world : World) : Prop :=
  program.observed (respond env) parseRead world ≠ []

/-- How an operation answers a parsed reply: it stops without a result where there is no
`RetCode`, and else goes by the code as an `int`. -/
def Answers (document : CJson) (node client : Ref) (result : Option (EdgeStatus × World)) : Prop :=
  match document.getObjectItem "RetCode" with
  | none => result = none
  | some retCode => ∃ status final, result = some (status, final) ∧
    (status = .ok ↔ retCode.valueint = 0) ∧
    node < final.requests.size ∧ client < final.devices.size

variable {config : DriverConfig} {env : Env} {world : World} {node client : Ref} {document : CJson}

section Completion

/-- The requests on one entry and one client that any state holding both answers. -/
def Answered (node client : Ref) : Request → Prop
  | .newMsgParse _ | .newSubdevClient _ | .writePayload _ _ | .find _ _ | .fault => False
  | .push .requestid ref | .remove .requestid ref | .readPayload ref _ => ref = node
  | .push .connDevice ref | .remove .connDevice ref | .readClient ref | .setOnline ref _ =>
    ref = client
  | _ => True

/-- The entry and the client of a call exist. -/
def Holds (node client : Ref) (world : World) : Prop :=
  node < world.requests.size ∧ client < world.devices.size

theorem handle_answered (env : Env) (request : Request) (world : World)
    (answered : Answered node client request) (holds : Holds node client world) :
    ∃ reply next, respond env request world = some (reply, next) ∧ Holds node client next := by
  obtain ⟨entry, found⟩ := Option.isSome_iff_exists.mp (Registry.value?_isSome.mpr holds.1)
  obtain ⟨own, present⟩ := Option.isSome_iff_exists.mp (Registry.value?_isSome.mpr holds.2)
  cases request
  case push list ref =>
    cases list <;> cases answered <;> simp [respond, Holds, holds.1, holds.2]
  case remove list ref =>
    cases list
    · cases answered
      cases allocated : env.malloc (.listIterator .requestid) <;>
        simpa [respond, found, allocated, extractFromList, Holds] using holds
    · cases answered
      cases allocated : env.malloc (.listIterator .connDevice) <;>
        simpa [respond, present, allocated, extractFromList, Holds] using holds
  case readPayload ref look =>
    cases answered
    simpa [respond, found, Holds] using holds
  case readClient ref =>
    cases answered
    simpa [respond, present, Holds] using holds
  case setOnline ref online =>
    cases answered
    simpa [respond, present, Holds] using holds
  case newMsgParse => cases answered
  case newSubdevClient => cases answered
  case writePayload => cases answered
  case find => cases answered
  case fault => cases answered
  all_goals exact ⟨_, _, rfl, holds⟩

/-- A program on the call's entry and client finishes. -/
theorem completes {program : Program edge α} {post : α → Prop}
    (issues : Issues (I := edge) (Answered node client) program post) (holds : Holds node client world) :
    ∃ value final, program.run (respond env) world = some (value, final) ∧ post value ∧
      Holds node client final :=
  issues.completes (fun request state => handle_answered env request state) holds

end Completion

section Stages

private theorem run_readPayload {look : Look} {entry : MsgParse}
    (found : world.requests.value? node = some entry) (live : world.requests.live node = true) :
    (readPayload node look).run (respond env) world =
      some (env.look look (entry.payload.cString natsMsgMaxLen), world) := by
  rw [readPayload, Program.run_call, respond, found]
  simp [Registry.touch_of_live live, Program.run]

private theorem unseen_wait {timeOutMs : UInt32} : Issues (I := edge)
    (fun request => parseRead request = none) (waitPayloadIsTimeout node timeOutMs) fun _ => True :=
  issues_waitPayloadIsTimeout (fun _ => rfl) fun _ => rfl

/-- The shared tail, once it parses a reply. -/
private theorem awaitRetCode_answers {timeOutMs : UInt32} {timeoutLog : String}
    {accepted rejected : Program edge EdgeStatus} {requests : Registry MsgParse}
    (same : world.requests = env.registered requests) (holds : Holds requests.size client world)
    (parsed : config.cJsonParse (env.look .parse []) = some document)
    (accepts : Issues (I := edge) (Answered requests.size client) accepted (· = .ok))
    (rejects : Issues (I := edge) (Answered requests.size client) rejected (· ≠ .ok))
    (parses : ComesToParse env
      (awaitRetCode config requests.size timeOutMs timeoutLog accepted rejected) world) :
    Answers document requests.size client
      ((awaitRetCode config requests.size timeOutMs timeoutLog accepted rejected).run (respond env)
        world) := by
  obtain ⟨entry, found, empty⟩ := registered_quiet env requests
  rw [← same] at found
  have live : world.requests.live requests.size = true := same ▸ registered_live requests
  obtain ⟨status, middle, waited, seen, ran⟩ := observed_bind_rest unseen_wait parses
  have outcome : status = (if env.timedOut then .invalidTimeout else .ok) ∧ middle = world := by
    have waits : Ends env False (waitPayloadIsTimeout requests.size timeOutMs)
        (fun status final => status = (if env.timedOut then .invalidTimeout else .ok) ∧ final = world)
        world := waitPayloadIsTimeout_ends found empty live ⟨rfl, rfl⟩
    exact waits.of_run waited
  obtain ⟨rfl, rfl⟩ := outcome
  rw [awaitRetCode, ran]
  cases late : env.timedOut with
  | true =>
    refine absurd ?_ seen
    simp [late, observed_bind, parseRead]
  | false =>
    have onTime : ¬ EdgeStatus.ok = EdgeStatus.invalidTimeout := by decide
    have fetched : (readPayload requests.size .parse).run (respond env) middle = _ :=
      run_readPayload found live
    rw [empty] at fetched
    simp only [Bool.false_eq_true, ↓reduceIte, onTime, run_bind, fetched, Option.bind_some, parsed]
    unfold Answers
    cases document.getObjectItem "RetCode" with
    | none => rfl
    | some retCode =>
      by_cases zero : retCode.valueint = 0
      · obtain ⟨status, final, ended, accepted, kept⟩ := completes accepts holds
        exact ⟨status, final, by simpa [zero] using ended, by simp [zero, accepted], kept⟩
      · obtain ⟨status, final, ended, rejected, kept⟩ := completes rejects holds
        exact ⟨status, final, by simpa [zero] using ended, by simp [zero, rejected], kept⟩

/-- What follows the answer keeps it. -/
private theorem Answers.cleanup {body : Program edge EdgeStatus}
    {cleanup : EdgeStatus → Program edge EdgeStatus}
    (answers : Answers document node client (body.run (respond env) world))
    (cleans : ∀ status, Issues (I := edge) (Answered node client) (cleanup status) (· = status)) :
    Answers document node client ((body >>= cleanup).run (respond env) world) := by
  rw [run_bind]
  unfold Answers at answers ⊢
  cases found : document.getObjectItem "RetCode" with
  | none =>
    simp only [found] at answers ⊢
    rw [answers, Option.bind_none]
  | some retCode =>
    simp only [found] at answers ⊢
    obtain ⟨status, middle, ran, code, holds⟩ := answers
    obtain ⟨returned, final, cleaned, same, kept⟩ := completes (cleans status) holds
    exact ⟨status, final, by rw [ran, Option.bind_some, cleaned, same], code, kept⟩

/-- The stage that follows a finished one, in the state its specification gives. -/
private theorem ComesToParse.rest {program : Program edge α} {next : α → Program edge β}
    {post : α → World → Prop} (parses : ComesToParse env (program >>= next) world)
    (unseen : Issues (I := edge) (fun request => parseRead request = none) program fun _ => True)
    (ends : Ends env False program post world) : ∃ value middle, post value middle ∧
      ComesToParse env (next value) middle ∧
      (program >>= next).run (respond env) world = (next value).run (respond env) middle := by
  obtain ⟨value, middle, ran, seen, same⟩ := observed_bind_rest unseen parses
  exact ⟨value, middle, ends.of_run ran, seen, same⟩

/-- The same where the state is all the specification says. -/
private theorem ComesToParse.restAt {program : Program edge α} {next : α → Program edge β}
    (parses : ComesToParse env (program >>= next) world) (after : World)
    (unseen : Issues (I := edge) (fun request => parseRead request = none) program fun _ => True)
    (ends : Ends env False program (fun _ final => final = after) world) : ∃ value,
      ComesToParse env (next value) after ∧
      (program >>= next).run (respond env) world = (next value).run (respond env) after := by
  obtain ⟨value, middle, rfl, seen, same⟩ := parses.rest unseen ends
  exact ⟨value, seen, same⟩

/-- What the operations begin with: an entry under a new id, and its listing. -/
private def openEntry (rest : Ref → UInt32 → Program edge EdgeStatus) : Program edge EdgeStatus := do
  let requestId ← genRequestid
  match ← msgParseStrInit requestId with
  | none => return .noMemory
  | some node =>
    let _ ← addToList .requestid node
    rest node requestId

/-- The state in which the entry of a call is created and listed. -/
private def opened (env : Env) (world : World) : World :=
  ⟨env.registered world.requests, world.devices⟩

/-- A call with an entry, by what follows the listing. -/
private theorem openEntry_answers {rest : Ref → UInt32 → Program edge EdgeStatus}
    (during : ComesToParse env (rest world.requests.size env.requestId) (opened env world) →
      Answers document world.requests.size client
        ((rest world.requests.size env.requestId).run (respond env) (opened env world)))
    (parses : ComesToParse env (openEntry rest) world) :
    Answers document world.requests.size client ((openEntry rest).run (respond env) world) := by
  have draws : Ends env False genRequestid
      (fun requestId final => env.requestId = requestId ∧ world = final) world :=
    genRequestid_ends.mpr ⟨rfl, rfl⟩
  have creates : Ends env False (msgParseStrInit env.requestId)
      (fun created final => (created = none ∧ final = world) ∨ (created = some world.requests.size ∧
        final = { world with requests := world.requests.alloc ⟨env.requestId, .zero⟩ })) world := by
    rw [msgParseStrInit_ends]
    split
    · exact .inr ⟨rfl, rfl⟩
    · exact .inl ⟨rfl, rfl⟩
  obtain ⟨_, _, ⟨rfl, rfl⟩, afterDraws, first⟩ :=
    parses.rest (by simp [genRequestid, parseRead]) draws
  obtain ⟨_, _, outcome, afterInit, second⟩ :=
    afterDraws.rest (by simp [msgParseStrInit, parseRead]) creates
  rcases outcome with ⟨rfl, rfl⟩ | ⟨rfl, rfl⟩
  · exact absurd rfl afterInit
  · obtain ⟨_, afterAdd, third⟩ := ComesToParse.restAt afterInit (opened env world)
      (by simp [addToList, parseRead]) (addToList_requestid_ends fun _ => rfl)
    rw [openEntry, first, second, third]
    exact during afterAdd

private theorem withRequest_eq (body : Ref → UInt32 → Program edge EdgeStatus) :
    withRequest body = openEntry fun node requestId => do
      let status ← body node requestId
      let _ ← removeFromList .requestid node
      return status := rfl

/-- A call in the shared frame, by its body. -/
private theorem withRequest_answers {body : Ref → UInt32 → Program edge EdgeStatus}
    (during : ComesToParse env (body world.requests.size env.requestId) (opened env world) →
      Answers document world.requests.size client
        ((body world.requests.size env.requestId).run (respond env) (opened env world)))
    (parses : ComesToParse env (withRequest body) world) :
    Answers document world.requests.size client ((withRequest body).run (respond env) world) := by
  rw [withRequest_eq] at parses ⊢
  refine openEntry_answers (fun seen => ?_) parses
  rw [ComesToParse, observed_bind_unseen (by simp [removeFromList, parseRead])] at seen
  exact (during seen).cleanup fun status => by simp [removeFromList, Answered]

private theorem opened_holds (live : world.devices.live client = true) :
    Holds world.requests.size client (opened env world) :=
  ⟨Registry.lt_of_live (registered_live _), Registry.lt_of_live live⟩

end Stages

section Operations

private theorem issues_base64Text {allowed : Request → Prop} {data : Memory} {dataLen : Int}
    {post : Bytes → Prop} (faults : allowed .fault) (all : ∀ text, post text) :
    Issues (I := edge) allowed (base64Text config data dataLen) post := by
  unfold base64Text
  split
  · exact all _
  · exact issues_fault.mpr faults

private theorem unseen_logInOut {logOp : SubdevLogInOut} {requestId : UInt32} : Issues (I := edge)
    (fun request => parseRead request = none) (logInOut config client logOp requestId)
    fun _ => True := by
  simp [logInOut, publishAndFlush, issues_base64Text, parseRead]

private theorem unseen_dynRegPublish {productSecret : CString} {requestId : UInt32} :
    Issues (I := edge) (fun request => parseRead request = none)
      (dynRegPublish config client productSecret requestId) fun _ => True := by
  simp [dynRegPublish, publishAndFlush, issues_base64Text, parseRead]

private theorem unseen_topoMsgCommon {client : Option Ref} {requestId : UInt32} {op : TopoOperation} :
    Issues (I := edge) (fun request => parseRead request = none)
      (topoMsgCommon config client requestId op) fun _ => True := by
  have texts {post : Bytes → Prop} (all : ∀ text, post text) : Issues (I := edge)
      (fun request => parseRead request = none) (topoMsg config client requestId op) post := by
    rw [topoMsg.eq_def]
    split <;> simp [issues_base64Text, parseRead, all]
  simp only [parseRead] at texts
  simp [topoMsgCommon, publishAndFlush, parseRead, texts]

/-- A call that gets to a reply has sent its request, and goes on to what follows. -/
private theorem sent_answers {status : EdgeStatus} {failLog : String} {rest : Program edge EdgeStatus}
    (during : ComesToParse env rest world → Answers document node client (rest.run (respond env) world))
    (parses : ComesToParse env (if status ≠ .ok then do
        logWrite .error failLog []
        return status
      else rest) world) :
    Answers document node client ((if status ≠ .ok then do
        logWrite .error failLog []
        return status
      else rest).run (respond env) world) := by
  by_cases failed : status ≠ .ok
  · rw [if_pos failed] at parses
    exact absurd (by simp [observed_bind, parseRead]) parses
  · rw [if_neg failed] at parses ⊢
    exact during parses

variable {timeOutMs : UInt32}

private theorem loginSync_answers (live : world.devices.live client = true)
    (parsed : config.cJsonParse (env.look .parse []) = some document)
    (parses : ComesToParse env (edgeSubdevLoginSync config (some client) timeOutMs) world) :
    Answers document world.requests.size client
      ((edgeSubdevLoginSync config (some client) timeOutMs).run (respond env) world) := by
  refine withRequest_answers (fun seen => ?_) parses
  obtain ⟨status, afterSend, sent⟩ := ComesToParse.restAt seen (opened env world) unseen_logInOut
    (logInOut_ends False.elim fun _ _ _ same => by rw [same live])
  rw [sent]
  refine sent_answers (fun afterStatus => ?_) afterSend
  obtain ⟨_, afterAdd, added⟩ := ComesToParse.restAt afterStatus
    ⟨env.registered world.requests, env.listed world.devices client⟩
    (by simp [addToList, parseRead]) (addToList_connDevice_ends fun _ _ => rfl)
  rw [added]
  refine awaitRetCode_answers rfl ?_ parsed ?_ ?_ afterAdd
  · exact ⟨(opened_holds live).1, by simpa using Registry.lt_of_live live⟩
  · simp [Answered]
  · simp [Answered]

private theorem logoutSync_answers (live : world.devices.live client = true)
    (parsed : config.cJsonParse (env.look .parse []) = some document)
    (parses : ComesToParse env (edgeSubdevLogoutSync config (some client) timeOutMs) world) :
    Answers document world.requests.size client
      ((edgeSubdevLogoutSync config (some client) timeOutMs).run (respond env) world) := by
  obtain ⟨own, afterRead, begun⟩ := parses.restAt world (by simp [parseRead])
    (ends_readClient.mpr fun own _ => ⟨False.elim, by rw [Registry.touch_of_live live]⟩)
  rw [edgeSubdevLogoutSync, begun]
  cases flag : own.natsOnline with
  | false =>
    refine absurd ?_ afterRead
    simp [flag]
  | true =>
    simp only [flag, Bool.true_eq_false, ↓reduceIte] at afterRead ⊢
    refine withRequest_answers (fun seen => ?_) afterRead
    obtain ⟨status, afterSend, sent⟩ := ComesToParse.restAt seen (opened env world) unseen_logInOut
      (logInOut_ends False.elim fun _ _ _ same => by rw [same live])
    rw [sent]
    refine sent_answers (fun afterStatus => ?_) afterSend
    have removes : Ends env False (removeFromList .connDevice client) (fun _ final => ∃ deviceSn,
        final = ⟨env.registered world.requests, env.delisted world.devices client deviceSn⟩)
        (opened env world) :=
      removeFromList_connDevice_ends fun _ _ _ _ => ⟨False.elim, _, rfl⟩
    obtain ⟨_, _, ⟨deviceSn, rfl⟩, afterRemove, removed⟩ :=
      ComesToParse.rest afterStatus (by simp [removeFromList, parseRead]) removes
    rw [removed]
    refine awaitRetCode_answers rfl ?_ parsed ?_ ?_ afterRemove
    · exact ⟨(opened_holds live).1, by simpa using Registry.lt_of_live live⟩
    · simp [Answered]
    · simp [Answered]

private theorem dynamicAuth_eq (productSecret : CString) :
    edgeSubdevDynamicAuth config (some client) (some productSecret) timeOutMs =
      openEntry fun node requestId => do
        match ← dynRegPublish config client productSecret requestId with
        | none => return .noMemory
        | some status =>
          let status ← dynRegReply config client node status timeOutMs
          let _ ← removeFromList .requestid node
          free (.buffer .dynRegPayload)
          free (.buffer .dynRegPayloadBase64)
          free (.buffer .dynRegMsg)
          return status := rfl

private theorem dynamicAuth_answers (productSecret : CString) (live : world.devices.live client = true)
    (parsed : config.cJsonParse (env.look .parse []) = some document)
    (parses : ComesToParse env
      (edgeSubdevDynamicAuth config (some client) (some productSecret) timeOutMs) world) :
    Answers document world.requests.size client
      ((edgeSubdevDynamicAuth config (some client) (some productSecret) timeOutMs).run (respond env)
        world) := by
  rw [dynamicAuth_eq] at parses ⊢
  refine openEntry_answers (fun seen => ?_) parses
  obtain ⟨status, afterSend, sent⟩ := ComesToParse.restAt seen (opened env world) unseen_dynRegPublish
    (dynRegPublish_ends False.elim (fun _ _ same => by rw [same live])
      fun _ _ _ _ same => by rw [same live])
  rw [sent]
  cases status with
  | none => exact absurd rfl afterSend
  | some status =>
    simp only at afterSend ⊢
    rw [ComesToParse, observed_bind_unseen (by simp [removeFromList, parseRead])] at afterSend
    refine Answers.cleanup ?_ fun status => by simp [removeFromList, Answered]
    rw [dynRegReply] at afterSend ⊢
    refine sent_answers (fun afterStatus => ?_) afterSend
    refine awaitRetCode_answers rfl (opened_holds live) parsed ?_ ?_ afterStatus
    · simp [Answered]
    · simp [Answered]

/-- The body of a topology operation, by its two ends. -/
private theorem topo_answers {op : TopoOperation} {failLog timeoutLog : String}
    {accepted rejected : Program edge EdgeStatus} (live : world.devices.live client = true)
    (parsed : config.cJsonParse (env.look .parse []) = some document)
    (accepts : Issues (I := edge) (Answered world.requests.size client) accepted (· = .ok))
    (rejects : Issues (I := edge) (Answered world.requests.size client) rejected (· ≠ .ok))
    (parses : ComesToParse env (withRequest fun node requestId => do
      let status ← topoMsgCommon config (some client) requestId op
      if status ≠ .ok then
        logWrite .error failLog []
        return status
      awaitRetCode config node timeOutMs timeoutLog accepted rejected) world) :
    Answers document world.requests.size client ((withRequest fun node requestId => do
      let status ← topoMsgCommon config (some client) requestId op
      if status ≠ .ok then
        logWrite .error failLog []
        return status
      awaitRetCode config node timeOutMs timeoutLog accepted rejected).run (respond env) world) := by
  refine withRequest_answers (fun seen => ?_) parses
  obtain ⟨status, afterSend, sent⟩ := ComesToParse.restAt seen (opened env world) unseen_topoMsgCommon
    (topoMsgCommon_ends (fun _ _ => False.elim) fun _ _ _ same => by rw [same client rfl live])
  rw [sent]
  refine sent_answers (fun afterStatus => ?_) afterSend
  exact awaitRetCode_answers rfl (opened_holds live) parsed accepts rejects afterStatus

/-- Every operation answers the reply it parses by the reply's code. -/
theorem codedCall_answers (call : CodedCall) (live : world.devices.live client = true)
    (parsed : config.cJsonParse (env.look .parse []) = some document)
    (parses : ComesToParse env (call.program config (some client)) world) :
    Answers document world.requests.size client
      ((call.program config (some client)).run (respond env) world) := by
  cases call with
  | dynamicAuth productSecret timeOutMs =>
    cases productSecret with
    | none => exact absurd rfl parses
    | some productSecret => exact dynamicAuth_answers productSecret live parsed parses
  | loginSync timeOutMs => exact loginSync_answers live parsed parses
  | logoutSync timeOutMs => exact logoutSync_answers live parsed parses
  | addTopo timeOutMs => exact topo_answers live parsed (by simp [Answered]) (by simp [Answered]) parses
  | deleteTopo timeOutMs =>
    exact topo_answers live parsed (by simp [Answered]) (by simp [Answered]) parses

end Operations

/-- The run comes to parse what was stored in the call's entry. -/
def ParsesReply (env : Env) (program : Program edge α) (world : World) : Prop :=
  program.observed (handle env) parseRead world ≠ []

/-- The logs up to there fit. -/
theorem ParsesReply.comes {program : Program edge α} (parses : ParsesReply env program world) :
    ComesToParse env program world := by
  intro nothing
  have part : program.observed (handle env) parseRead world <+:
      program.observed (respond env) parseRead world := observed_guarded_begins program world
  rw [nothing] at part
  exact parses (List.prefix_nil.mp part)

/-- A call that parses a JSON reply finishes, and returns `EDGE_OK` for the number 0
alone, exactly when the reply has a `RetCode` whose `valueint` does not cut, replace
or hide another value, and what is logged fits. -/
theorem retCode_answered_iff (config : DriverConfig) (env : Env) (world : World) (call : CodedCall)
    (client : Option Ref) (document : CJson)
    (live : ∀ own, client = some own → world.devices.live own = true)
    (parsed : config.cJsonParse (env.look .parse []) = some document)
    (parses : ParsesReply env (call.program config client) world) :
    (∃ status final, (call.program config client).run (handle env) world = some (status, final) ∧
        (status = .ok ↔ document.getObjectItem "RetCode" = some (.number 0))) ↔
      LogsFit env (call.program config client) world ∧
        ∃ retCode, document.getObjectItem "RetCode" = some retCode ∧ retCode.ReadsTrue := by
  simp only [run_handle_iff, and_assoc, exists_and_left]
  refine and_congr_right fun _ => ?_
  cases client with
  | none =>
    refine absurd ?_ parses.comes
    cases call with
    | dynamicAuth productSecret => cases productSecret <;> rfl
    | _ => rfl
  | some client =>
    have answers := codedCall_answers call (live client rfl) parsed parses.comes
    unfold Answers at answers
    cases found : document.getObjectItem "RetCode" with
    | none =>
      simp only [found] at answers
      simp [answers]
    | some retCode =>
      simp only [found] at answers
      obtain ⟨status, final, ran, code, -⟩ := answers
      simp [ran, code, CJson.readsTrue_iff]

/-- A parser that knows two replies. -/
private def codedConfig : DriverConfig :=
  { DriverConfig.plain with
    cJsonParse := fun text =>
      if text = ascii "\x7b\"RetCode\": 0\x7d" then some (.object [(.literal "RetCode", .number 0)])
      else if text = ascii "\x7b\x7d" then some (.object [])
      else none }

/-- The reply is stored by the first look. -/
private def repliedEnv (reply : Bytes) : Env := { Env.calm with look := fun _ _ => reply }

theorem retCode_answered_iff_zero : ∃ status final,
    ((CodedCall.loginSync 1000).program codedConfig (some 0)).run
      (handle (repliedEnv (ascii "\x7b\"RetCode\": 0\x7d"))) constructed = some (status, final) ∧
    (status = .ok ↔ (CJson.object [(.literal "RetCode", .number 0)]).getObjectItem "RetCode" =
      some (.number 0)) := by
  refine (retCode_answered_iff codedConfig (repliedEnv (ascii "\x7b\"RetCode\": 0\x7d")) constructed
    (.loginSync 1000) (some 0) _ constructed_live rfl ?_).mpr ?_
  · unfold ParsesReply
    decide +kernel
  · exact ⟨by decide +kernel, .number 0, rfl, .inl rfl⟩

/-- A reply without a `RetCode` ends the driver. -/
theorem missing_retCode_stops : ¬ ∀ config env world (call : CodedCall) client document,
    (∀ own, client = some own → world.devices.live own = true) →
    config.cJsonParse (env.look .parse []) = some document →
    ParsesReply env (call.program config client) world →
    ∃ status final, (call.program config client).run (handle env) world = some (status, final) ∧
      (status = .ok ↔ document.getObjectItem "RetCode" = some (.number 0)) := by
  intro always
  have parses : ParsesReply (repliedEnv (ascii "\x7b\x7d"))
      ((CodedCall.loginSync 1000).program codedConfig (some 0)) constructed := by
    unfold ParsesReply
    decide +kernel
  obtain ⟨status, final, ran, -⟩ :=
    always codedConfig _ constructed (.loginSync 1000) (some 0) (.object []) constructed_live rfl parses
  have stops : ((CodedCall.loginSync 1000).program codedConfig (some 0)).run
      (handle (repliedEnv (ascii "\x7b\x7d"))) constructed |>.isNone := by
    decide +kernel
  simp [ran] at stops

end IotstackDriver.Edge
