import IotstackDriver.Edge.LocalDispatch

/-! The steps of `_on_local_message` for a well-formed message: one search, and one call
of a handler of the client found, if any is. -/

namespace IotstackDriver.Edge

open Libc Support Program

/-- The call is one of the handler that the topic chooses among the client's. -/
def HandlerCall.Chosen (client : Ref) (own : SubdevClient) (topic : CString) (call : HandlerCall) : Prop :=
  ∃ handler, call.target = some (client, own.chosen topic, handler) ∧
    own.handler? (own.chosen topic) = some handler

/-- How far the handling of a message has come. -/
inductive LocalPhase where
  | searching
  | dropped
  | found (client : Ref)
  | read (client : Ref) (own : SubdevClient)
  | called (call : HandlerCall)

namespace LocalPhase

def searched : Option Ref → LocalPhase
  | none => dropped
  | some client => found client

def finished : LocalPhase → Prop
  | dropped | called _ => True
  | _ => False

end LocalPhase

/-- What is decoded and the logs before the search fit their buffers. -/
def LocalFits (config : DriverConfig) (env : Env) (msg : NatsMsg) (topic deviceSn payload : CString) :
    Prop :=
  ∃ coded, base64Decode config.charSign (some payload.bytes) payload.strlen = some coded ∧
    coded.Fits ∧ env.logsFit (localLogs msg (some topic) (some deviceSn) (some payload) coded) = true

/-- The requests a message is handled with. The search is made where what comes before it
fits, and only there. -/
def localProtocol (env : Env) (fits : Prop) (deviceSn topic : CString) : Protocol edge LocalPhase where
  allowed
    | _, .malloc _ | _, .free _ => True
    | .searching, .logWrite _ text args => fits → env.logFits text args = true
    | .searching, .fault => ¬ fits
    | .searching, .find .connDevice key => fits ∧ key = some deviceSn
    | .dropped, .logWrite _ text args =>
      text = "cannot find conn device[%s]" ∧ args = [.str deviceSn.bytes]
    | .found client, .readClient other => other = client
    | .read client own, .invoke made => made.Chosen client own topic
    | _, _ => False
  step
    | phase, .malloc _, reply, next => reply = true ∧ next = phase
    | phase, .logWrite _ text args, _, next => env.logFits text args = true ∧ next = phase
    | .searching, .find .connDevice _, reply, next => next = .searched reply
    | .found client, .readClient _, own, next => next = .read client own
    | .read _ _, .invoke made, _, next => next = .called made
    | phase, _, _, next => next = phase

variable {env : Env} {fits : Prop} {deviceSn topic : CString} {phase : LocalPhase}

section Requests

private theorem meets_malloc {site : AllocSite} {post : Bool → LocalPhase → Prop} :
    Meets (localProtocol env fits deviceSn topic) (malloc site) post phase ↔ post true phase := by
  constructor
  · intro meets
    apply meets.2
    cases phase <;> exact ⟨rfl, rfl⟩
  · intro continues
    constructor
    · cases phase <;> trivial
    · intro reply next stepped
      cases phase <;> exact stepped.1 ▸ stepped.2 ▸ continues

/-- A log before the search. -/
private theorem meets_logWrite {level : LogLevel} {text : String} {args : List Arg}
    {post : Unit → LocalPhase → Prop} :
    Meets (localProtocol env fits deviceSn topic) (logWrite level text args) post .searching ↔
      (fits → env.logFits text args = true) ∧ (env.logFits text args = true → post () .searching) := by
  constructor
  · exact fun meets => ⟨meets.1, fun inside => meets.2 () _ ⟨inside, rfl⟩⟩
  · rintro ⟨allowed, continues⟩
    refine ⟨allowed, ?_⟩
    rintro _ _ ⟨inside, rfl⟩
    exact continues inside

private theorem meets_fault {post : Coded → LocalPhase → Prop} :
    Meets (localProtocol env fits deviceSn topic) (fault : Program edge Coded) post .searching ↔
      ¬ fits :=
  ⟨fun meets => meets.1, fun unfit => ⟨unfit, fun impossible => impossible.elim⟩⟩

private theorem meets_free {resource : Resource} {post : Unit → LocalPhase → Prop} :
    Meets (localProtocol env fits deviceSn topic) (free resource) post phase ↔ post () phase := by
  cases phase <;> exact meets_silent trivial (fun _ _ => Iff.rfl) fun _ => rfl

private theorem meets_readClient {client : Ref} {post : SubdevClient → LocalPhase → Prop} :
    Meets (localProtocol env fits deviceSn topic) (readClient client) post (.found client) ↔
      ∀ own, post own (.read client own) := by
  constructor
  · exact fun meets own => meets.2 own _ rfl
  · intro all
    refine ⟨rfl, ?_⟩
    rintro own _ rfl
    exact all own

private theorem meets_findInList {post : Option Ref → LocalPhase → Prop} :
    Meets (localProtocol env fits deviceSn topic) (findInList .connDevice (some deviceSn)) post
        .searching ↔
      fits ∧ post none .dropped ∧ ∀ client, post (some client) (.found client) := by
  constructor
  · exact fun meets =>
      ⟨meets.1.1, meets.2 none _ rfl, fun client => meets.2 (some client) _ rfl⟩
  · rintro ⟨fit, dropped, found⟩
    refine ⟨⟨fit, rfl⟩, ?_⟩
    rintro reply _ rfl
    cases reply with
    | none => exact dropped
    | some client => exact found client

end Requests

/-- A found client is read, and the handler the topic chooses is called. -/
private theorem dispatchLocal_follows (client : Ref) (payload : Memory) (payloadLen : Int) :
    Meets (localProtocol env fits deviceSn topic) (dispatchLocal client (some topic) payload payloadLen)
      (fun _ phase => phase.finished) (.found client) := by
  have called {made : HandlerCall} {own : SubdevClient} (chosen : made.Chosen client own topic) :
      Meets (localProtocol env fits deviceSn topic) (invoke made) (fun _ phase => phase.finished)
        (.read client own) := by
    refine ⟨chosen, ?_⟩
    rintro _ _ rfl
    trivial
  rw [dispatchLocal, meets_bind, meets_readClient]
  intro own
  obtain ⟨normal, normalSet⟩ := Option.isSome_iff_exists.mp own.normalSet
  cases rrpc : own.rrpcMsgHandle with
  | none =>
    simp only [normalSet]
    apply called
    exact ⟨normal, by simp [SubdevClient.chosen, rrpc, HandlerCall.target],
      by simp [SubdevClient.chosen, rrpc, SubdevClient.handler?, normalSet]⟩
  | some handler =>
    by_cases named : edgeRrpcCheck topic.bytes = .ok
    · have request := (edgeRrpcCheck_ok topic).mp named
      simp only [named, ↓reduceIte]
      apply called
      exact ⟨handler, by simp [SubdevClient.chosen, rrpc, request, HandlerCall.target],
        by simp [SubdevClient.chosen, rrpc, request, SubdevClient.handler?]⟩
    · have other : ¬ ascii "/rrpc/request/" <:+: topic.bytes := by rwa [← edgeRrpcCheck_ok]
      simp only [named, ↓reduceIte, normalSet]
      apply called
      exact ⟨normal, by simp [SubdevClient.chosen, other, HandlerCall.target],
        by simp [SubdevClient.chosen, other, SubdevClient.handler?, normalSet]⟩

private theorem deliverLocal_follows (fit : fits) (payload : Memory) (payloadLen : Int) :
    Meets (localProtocol env fits deviceSn topic)
      (deliverLocal (some deviceSn) (some topic) payload payloadLen) (fun _ phase => phase.finished)
      .searching := by
  rw [deliverLocal, meets_bind, meets_findInList]
  refine ⟨fit, ⟨⟨rfl, rfl⟩, ?_⟩, fun client => dispatchLocal_follows client payload payloadLen⟩
  rintro _ _ ⟨-, rfl⟩
  trivial

/-- A well-formed message is handled by the protocol to its end. -/
theorem onLocalMessage_follows {config : DriverConfig} {msg : NatsMsg} {payload : CString}
    (message : LocalMessage config msg topic deviceSn payload) :
    Meets (localProtocol env (LocalFits config env msg topic deviceSn payload) deviceSn topic)
      (onLocalMessage config msg) (fun _ phase => phase.finished) .searching := by
  obtain ⟨document, parsed, topicItem, serialItem, payloadItem⟩ := message
  simp only [onLocalMessage, meets_bind, meets_logWrite, parsed, topicItem, serialItem, payloadItem,
    meets_malloc, Bool.not_true, Bool.false_eq_true, ↓reduceIte, CJson.valuestring,
    base64DecodeString, meets_free]
  rcases base64DecodeMsg_cases config payload.bytes payload.strlen with stops | ⟨coded, decoded, inside, decodes⟩
  · have unfit : ¬ LocalFits config env msg topic deviceSn payload := by
      rintro ⟨coded, decoded, inside, -⟩
      rw [base64DecodeMsg_fits decoded inside] at stops
      cases stops
    simp only [stops, meets_fault, unfit, false_implies, not_false_eq_true, implies_true, and_self]
  · have fits : LocalFits config env msg topic deviceSn payload ↔ env.logsFit
        (localLogs msg (some topic) (some deviceSn) (some payload) coded) = true := by
      simp [LocalFits, decoded, inside]
    simp only [localLogs, Env.logsFit, List.all_cons, List.all_nil, Bool.and_true,
      Bool.and_eq_true] at fits
    rw [decodes]
    refine ⟨fun fit => (fits.mp fit).1, fun received => ⟨fun fit => (fits.mp fit).2.1, fun named => ?_⟩⟩
    refine ⟨fun fit => (fits.mp fit).2.2.1, fun serial => ⟨fun fit => (fits.mp fit).2.2.2.1, fun code => ?_⟩⟩
    refine meets_logWrite.mpr ⟨fun fit => (fits.mp fit).2.2.2.2, fun text => ?_⟩
    exact deliverLocal_follows (fits.mpr ⟨received, named, serial, code, text⟩) _ _

end IotstackDriver.Edge
