import IotstackDriver.Edge.Calls
import IotstackDriver.Edge.Issued
import IotstackDriver.Edge.Observed

/-! What the message callbacks release: the received message, the documents parsed from it,
and parts of these. -/

namespace IotstackDriver.Edge

open Libc Support Program

def released : Request → Option Resource
  | .free resource => some resource
  | _ => none

/-- The releases of a callback that owns its message and the documents it parsed: the
message once, each document once and as a whole. -/
structure Disciplined (document reply : Option CJson) (releases : List Resource) : Prop where
  message : releases.count .msg = 1
  document : releases.count .msgJson = if document.isSome then 1 else 0
  reply : releases.count .msgBase64decodeJson = if reply.isSome then 1 else 0
  whole : .stateItem ∉ releases

/-- The releases of a callback, up to where it stops. -/
def releases (env : Env) (callback : Program edge Unit) (world : World) : List Resource :=
  callback.observed (handle env) released world

/-- The document `_on_broadcast_message` parses from a payload it decoded. -/
def replyDocument (config : DriverConfig) (env : Env) (msg : NatsMsg) : Option CJson := do
  let msgJson ← config.cJsonParse msg.text
  let topic ← (← msgJson.getObjectItem "topic").valuestring
  let payload ← msgJson.getObjectItem "payload"
  let coded ← fittingItem config payload
  if env.malloc (.buffer .msgBase64decode) &&
      !(noticeTopics.any fun notice => (strstr topic.bytes notice).isSome) then
    config.cJsonParse coded.text
  else none

/-- The search for the addressed client compares names only, and a client with an RRPC handler
is given a topic to check. -/
def Addressed (env : Env) (world : World) : Option CString → Option CString → Prop
  | none, _ => env.malloc (.listIterator .connDevice) = false ∨ world.devices.entries = []
  | some deviceSn, topic => env.malloc (.listIterator .connDevice) = true →
    ∀ client own, world.devices.find? (subdevClientMatch deviceSn) = some client →
      world.devices.value? client = some own → own.rrpcMsgHandle.isSome = true → topic.isSome = true

/-- A local message that gets as far as its payload is decoded and delivered. -/
def LocalHandled (config : DriverConfig) (env : Env) (world : World) (msg : NatsMsg) : Prop :=
  ∀ msgJson, config.cJsonParse msg.text = some msgJson →
    ∀ topic, msgJson.getObjectItem "topic" = some topic →
      ∀ deviceSn, msgJson.getObjectItem "deviceSN" = some deviceSn →
        ∀ payload, msgJson.getObjectItem "payload" = some payload →
          env.malloc (.buffer .msgBase64decode) = true → (fittingItem config payload).isSome = true ∧
            Addressed env world deviceSn.valuestring topic.valuestring

/-- A reply has an id, and is stored where there is room for it. -/
def ReplyHandled (config : DriverConfig) (env : Env) (world : World) (decoded : Bytes) : Prop :=
  ∀ reply, config.cJsonParse decoded = some reply → ∃ requestIdStr,
    (reply.getObjectItem "RequestID").bind CJson.valuestring = some requestIdStr ∧
    (env.malloc (.listIterator .requestid) = true →
      (world.requests.find? (msgParseMatch (replyRequestId config requestIdStr))).isSome = true →
      decoded.length < natsMsgMaxLen)

/-- The same for a broadcast. -/
def BroadcastHandled (config : DriverConfig) (env : Env) (world : World) (msg : NatsMsg) : Prop :=
  ∀ msgJson, config.cJsonParse msg.text = some msgJson →
    ∀ topic, msgJson.getObjectItem "topic" = some topic →
      ∀ payload, msgJson.getObjectItem "payload" = some payload →
        env.malloc (.buffer .msgBase64decode) = true →
        ∃ coded, fittingItem config payload = some coded ∧
          ∃ name, topic.valuestring = some name ∧
            ((noticeTopics.any fun notice => (strstr name.bytes notice).isSome) = true ∨
              ReplyHandled config env world coded.text)

section Last

variable {config : DriverConfig} {env : Env} {world : World} {msg : NatsMsg}

/-- From the release of the message on, nothing is left that could stop the callback. -/
private abbrev ReleasesLast (env : Env) (callback : Program edge Unit) : Prop :=
  callback.Clears env.fits fun request => released request = some .msg

/-- A callback that releases its message last has released it as its owner only where its
logs fit. -/
private theorem disciplined_iff {callback : Program edge Unit} (last : ReleasesLast env callback)
    {document reply : Option CJson} : Disciplined document reply (releases env callback world) ↔
      LogsFit env callback world ∧
        Disciplined document reply (callback.observed (respond env) released world) := by
  constructor
  · intro disciplined
    have destroyed : .msg ∈ releases env callback world :=
      List.count_pos_iff.mp (by rw [disciplined.message]; exact Nat.one_pos)
    have fit : LogsFit env callback world := last.passes (fun _ destroys => destroys) destroyed
    rw [releases, fit.observed] at disciplined
    exact ⟨fit, disciplined⟩
  · rintro ⟨fit, disciplined⟩
    rwa [releases, fit.observed]

/-- Requests none of which destroys the message. -/
private abbrev KeepsMsg (program : Program edge α) : Prop :=
  Issues (I := edge) (fun request => released request ≠ some .msg) program fun _ => True

private theorem keepsMsg_fault : KeepsMsg (fault : Program edge α) :=
  ⟨by simp [released], fun impossible => impossible.elim⟩

private theorem keepsMsg_decode {payload : CJson} :
    KeepsMsg (base64DecodeString config payload.valuestring) := by
  rw [base64DecodeString_item]
  split
  · trivial
  · exact keepsMsg_fault

private theorem keepsMsg_deliverLocal {deviceSn topic : Option CString} {payload : Memory}
    {payloadLen : Int} : KeepsMsg (deliverLocal deviceSn topic payload payloadLen) := by
  refine .bind (by simp [released]) fun found => ?_
  split
  · simp [released]
  · exact issues_dispatchLocal (by simp [released]) (by simp [released]) (by simp [released])

private theorem keepsMsg_notice (handler : Option HandlerPtr) (call : HandlerPtr → HandlerCall) :
    KeepsMsg (handler.forM fun handler => invoke (call handler)) := by
  cases handler <;> simp [released]

private theorem keepsMsg_storeReply {decoded : Bytes} : KeepsMsg (storeReply config decoded) := by
  rw [storeReply.eq_def]
  split
  · simp [released]
  · split
    · simp [released]
    · refine .bind (by simp [released]) fun _ => ?_
      split
      · simp [released]
      · refine .bind (by simp [released]) fun _ => .bind (by simp [released]) fun found => ?_
        split <;> simp [released]

private theorem last_log {level : LogLevel} {text : String} {args : List Arg}
    {next : Unit → Program edge Unit} (rest : ReleasesLast env (next ())) :
    ReleasesLast env (logWrite level text args >>= next) :=
  clears_bind (by simp [released]) fun _ => rest

private theorem last_free {resource : Resource} {next : Unit → Program edge Unit}
    (kept : resource ≠ .msg) (rest : ReleasesLast env (next ())) :
    ReleasesLast env (free resource >>= next) :=
  clears_bind (by simp [released, kept]) fun _ => rest

private theorem last_msg : ReleasesLast env (free .msg) := clears_of_issues ⟨rfl, fun _ => trivial⟩

/-- The document, and the message. -/
private theorem last_illegal : ReleasesLast env (free .msgJson >>= fun _ => free .msg) :=
  last_free (by decide) last_msg

private theorem last_delivered {delivery : Program edge Unit} (kept : KeepsMsg delivery)
    (buffer : Buffer) : ReleasesLast env (delivery >>= fun _ => do
      free .msgJson
      free (.buffer buffer)
      free .msg) :=
  clears_bind kept fun _ => last_free (by decide) (last_free (by simp) last_msg)

private theorem local_last : ReleasesLast env (onLocalMessage config msg) := by
  refine last_log ?_
  split
  · exact last_log last_msg
  · split
    · exact last_log last_illegal
    · refine last_log ?_
      split
      · exact last_log last_illegal
      · refine last_log ?_
        split
        · exact last_log last_illegal
        · refine last_log (clears_bind (by simp [released]) fun allocated => ?_)
          split
          · exact last_log last_illegal
          · exact clears_bind keepsMsg_decode fun coded => last_log <|
              last_delivered keepsMsg_deliverLocal _

private theorem broadcast_last : ReleasesLast env (onBroadcastMessage config msg) := by
  refine last_log ?_
  split
  · exact last_log last_msg
  · split
    · exact last_log last_illegal
    · refine last_log ?_
      split
      · exact last_log last_illegal
      · refine last_log (clears_bind (by simp [released]) fun allocated => ?_)
        split
        · exact last_log last_illegal
        · refine clears_bind keepsMsg_decode fun coded => last_log ?_
          split
          · exact last_delivered keepsMsg_fault _
          · apply broadcast_branches (motive := fun branch : Program edge Unit =>
              ReleasesLast env branch)
            · exact fun _ => ⟨last_log (last_delivered (keepsMsg_notice _ _) _),
                last_log (last_delivered (keepsMsg_notice _ _) _),
                last_log (last_delivered (keepsMsg_notice _ _) _),
                last_log (last_delivered (keepsMsg_notice _ _) _)⟩
            · exact fun _ => last_delivered keepsMsg_storeReply _

private theorem edgeState_last : ReleasesLast env (onEdgeStateMessage config msg) := by
  refine last_log ?_
  split
  · exact last_log last_msg
  · split
    · exact last_log last_msg
    · refine clears_bind (by simp [released]) fun printed => last_log ?_
      split
      · exact clears_of_issues ⟨rfl, fun impossible => impossible.elim⟩
      · have kept (state : Bool) : KeepsMsg (setEdgeState state) := ⟨by simp [released], fun _ => trivial⟩
        exact clears_bind (kept _) fun _ => last_free (by decide) last_msg

end Last

section Local

variable {config : DriverConfig} {env : Env} {world : World} {msg : NatsMsg}

/-- A callback that stops does not get to the message. -/
theorem not_disciplined_nil (document reply : Option CJson) : ¬ Disciplined document reply [] :=
  fun disciplined => absurd disciplined.message (by decide)

private theorem disciplined_unparsed : Disciplined none none [.msg] := by
  constructor <;> decide

private theorem disciplined_early (document : CJson) :
    Disciplined (some document) none [.msgJson, .msg] := by
  constructor <;> simp

private theorem disciplined_end (document : CJson) (buffer : Buffer) :
    Disciplined (some document) none [.msgJson, .buffer buffer, .msg] := by
  constructor <;> simp

private theorem disciplined_reply (document reply : CJson) (buffer : Buffer) :
    Disciplined (some document) (some reply)
      [.msgBase64decodeJson, .msgJson, .buffer buffer, .msg] := by
  constructor <;> simp

/-- A client that is found is one that was created. -/
private theorem found_value {deviceSn : CString} {client : Ref}
    (found : world.devices.find? (subdevClientMatch deviceSn) = some client) :
    ∃ own, world.devices.value? client = some own :=
  Option.isSome_iff_exists.mp <| Registry.value?_isSome.mpr <|
    world.devices.entriesAllocated client (Registry.find?_mem found)

private theorem dispatchLocal_runs {client : Ref} {own : SubdevClient} {topic : Option CString}
    {payload : Memory} {payloadLen : Int} (found : world.devices.value? client = some own) :
    ((dispatchLocal client topic payload payloadLen).run (respond env) world).isSome = true ↔
      (own.rrpcMsgHandle.isSome = true → topic.isSome = true) := by
  rw [dispatchLocal.eq_def, run_bind, run_readClient found, Option.bind_some]
  cases own.rrpcMsgHandle with
  | none => cases own.normalMsgHandle <;> simp
  | some handler =>
    cases topic with
    | none => simp
    | some name =>
      by_cases named : edgeRrpcCheck name.bytes = .ok
      · simp [named]
      · cases own.normalMsgHandle <;> simp [named]

theorem deliverLocal_runs {deviceSn topic : Option CString} {payload : Memory} {payloadLen : Int} :
    ((deliverLocal deviceSn topic payload payloadLen).run (respond env) world).isSome = true ↔
      Addressed env world deviceSn topic := by
  rw [deliverLocal, run_bind, findInList, find, run_request, respond.eq_def]
  by_cases iterates : env.malloc (.listIterator .connDevice) = true
  · cases deviceSn with
    | none => by_cases empty : world.devices.entries = [] <;> simp [iterates, Addressed, empty]
    | some deviceSn =>
      simp only [iterates, if_true, Option.bind_some, searchList, Addressed, forall_true_left]
      cases found : world.devices.find? (subdevClientMatch deviceSn) with
      | none => simp
      | some client =>
        obtain ⟨own, present⟩ := found_value found
        have kept : (world.devices.touchAll (world.devices.visited (subdevClientMatch deviceSn))).value?
            client = some own := by
          rw [Registry.touchAll_value?, present]
        rw [dispatchLocal_runs kept]
        constructor
        · rintro given _ _ ⟨⟩ same
          cases present.symm.trans same
          exact given
        · exact fun given => given client own rfl present
  · cases deviceSn <;> simp [iterates, Addressed]

theorem deliverLocal_releases {deviceSn topic : Option CString} {payload : Memory} {payloadLen : Int} :
    (deliverLocal deviceSn topic payload payloadLen).observed (respond env) released world = [] := by
  have unseen : Issues (fun request => released request = none)
      (deliverLocal deviceSn topic payload payloadLen) fun _ => True := by
    refine .bind (by simp [released]) fun found => ?_
    cases found with
    | none => simp [released]
    | some client => exact issues_dispatchLocal rfl rfl fun _ => rfl
  exact unseen.observed world

theorem local_disciplined_iff :
    Disciplined (config.cJsonParse msg.text) none (releases env (onLocalMessage config msg) world) ↔
      LogsFit env (onLocalMessage config msg) world ∧ LocalHandled config env world msg := by
  refine (disciplined_iff local_last).trans (and_congr_right fun _ => ?_)
  unfold onLocalMessage LocalHandled
  cases parsed : config.cJsonParse msg.text with
  | none => simp [observed_bind, released, disciplined_unparsed]
  | some msgJson =>
    cases topicItem : msgJson.getObjectItem "topic" with
    | none => simp [observed_bind, released, topicItem, disciplined_early]
    | some topic =>
      cases snItem : msgJson.getObjectItem "deviceSN" with
      | none => simp [observed_bind, released, topicItem, snItem, disciplined_early]
      | some deviceSn =>
        cases payloadItem : msgJson.getObjectItem "payload" with
        | none => simp [observed_bind, released, topicItem, snItem, payloadItem, disciplined_early]
        | some payload =>
          cases allocated : env.malloc (.buffer .msgBase64decode) with
          | false =>
            simp [observed_bind, released, topicItem, snItem, payloadItem, allocated, disciplined_early]
          | true =>
            cases decoded : fittingItem config payload with
            | none =>
              simp [observed_bind, released, topicItem, snItem, payloadItem, allocated, base64DecodeString_item,
                decoded, not_disciplined_nil]
            | some coded =>
              simp [observed_bind, released, topicItem, snItem, payloadItem, allocated, base64DecodeString_item,
                decoded, deliverLocal_releases]
              rw [← @deliverLocal_runs env world _ _ (Memory.zero.storeAll coded.stores) coded.ret]
              cases (deliverLocal deviceSn.valuestring topic.valuestring
                (Memory.zero.storeAll coded.stores) coded.ret).run (respond env) world with
              | none => simp [not_disciplined_nil]
              | some result => simp [disciplined_end]

end Local

section Broadcast

variable {config : DriverConfig} {env : Env} {world : World} {msg : NatsMsg}

private theorem run_writePayload (node : Ref) (stores : List (Nat × UInt8)) :
    (writePayload node stores).run (respond env) world = respond env (.writePayload node stores) world :=
  run_request ..

private theorem run_readEntry (node : Ref) (look : Look) :
    (readPayload node look).run (respond env) world = respond env (.readPayload node look) world :=
  run_request ..

/-- A text is copied to an entry that is there if it fits, with its NUL. -/
private theorem copy_runs {node : Ref} {decoded : Bytes} (present : node < world.requests.size) :
    ((do
      writePayload node (consecutive 0 (decoded.take natsMsgMaxLen))
      writePayload node [(decoded.length, 0)]
      let payload ← readPayload node .log
      logWrite .debug "msg_parse_str->payload:%s" [.str payload] : Program edge Unit).run
        (respond env) world).isSome = true ↔ decoded.length < natsMsgMaxLen := by
  obtain ⟨own, found⟩ := Option.isSome_iff_exists.mp (Registry.value?_isSome.mpr present)
  have inside : ((consecutive 0 (decoded.take natsMsgMaxLen)).all fun store =>
      store.1 < natsMsgMaxLen) = true := by
    rw [List.all_eq_true]
    intro store member
    have bound := mem_consecutive member
    rw [List.length_take] at bound
    simp only [decide_eq_true_eq]
    omega
  obtain ⟨after, copied, entry, stillFound⟩ :
      ∃ after, (writePayload node (consecutive 0 (decoded.take natsMsgMaxLen))).run (respond env) world =
        some ((), after) ∧ ∃ entry, after.requests.value? node = some entry := by
    rw [run_writePayload, respond.eq_def]
    simp only [found, inside, if_true, Option.bind_eq_bind, Option.bind_some]
    refine ⟨_, rfl, ?_⟩
    simp [Registry.modify_value?, found]
  rw [run_bind, copied, Option.bind_some, run_bind, run_writePayload, respond.eq_def]
  by_cases fits : decoded.length < natsMsgMaxLen
  · simp [fits, stillFound, run_readEntry, respond.eq_def env (.readPayload node .log),
      Registry.modify_value?]
  · simp [fits, stillFound]

private theorem copy_releases {node : Ref} {decoded : Bytes} : (do
      writePayload node (consecutive 0 (decoded.take natsMsgMaxLen))
      writePayload node [(decoded.length, 0)]
      let payload ← readPayload node .log
      logWrite .debug "msg_parse_str->payload:%s" [.str payload] : Program edge Unit).observed
        (respond env) released world = [] := by
  refine Issues.observed (?_ : Issues _ _ fun _ => True) world
  simp [released]

/-- A notice is handed to its handler, if one is set, and nothing is released. -/
private theorem notice_runs (handler : Option HandlerPtr) (call : HandlerPtr → HandlerCall) :
    (forM handler fun handler => invoke (call handler)).observed (respond env) released world = [] ∧
      (forM handler fun handler => invoke (call handler)).run (respond env) world = some ((), world) := by
  cases handler <;> exact ⟨rfl, rfl⟩

/-- The search for a waiting request always ends, without one if it cannot iterate. -/
private theorem search_runs (requestId : UInt32) : ∃ after,
    (findInList .requestid requestId).run (respond env) world =
      some (if env.malloc (.listIterator .requestid) then
        world.requests.find? (msgParseMatch requestId) else none, after) ∧
    after.requests.size = world.requests.size := by
  rw [findInList, find, run_request, respond.eq_def]
  by_cases iterates : env.malloc (.listIterator .requestid) = true
  · simp only [iterates, if_true]
    exact ⟨_, rfl, Registry.touchAll_size _⟩
  · exact ⟨world, by simp [iterates], rfl⟩

/-- The reply branch releases the reply it parsed and finishes, or it stops. -/
theorem storeReply_releases (decoded : Bytes) :
    (ReplyHandled config env world decoded →
      ((storeReply config decoded).run (respond env) world).isSome = true ∧
      (storeReply config decoded).observed (respond env) released world =
        if (config.cJsonParse decoded).isSome then [.msgBase64decodeJson] else []) ∧
    (¬ ReplyHandled config env world decoded →
      (storeReply config decoded).run (respond env) world = none ∧
      .msg ∉ (storeReply config decoded).observed (respond env) released world) := by
  rw [storeReply.eq_def, ReplyHandled]
  cases parsed : config.cJsonParse decoded with
  | none => simp [released]
  | some reply =>
    cases idItem : reply.getObjectItem "RequestID" with
    | none => simp [idItem, released]
    | some item =>
      cases idText : item.valuestring with
      | none => simp [idItem, idText, released, observed_bind]
      | some requestIdStr =>
        obtain ⟨after, searched, size⟩ :=
          @search_runs env world (replyRequestId config requestIdStr)
        simp [idItem, idText, released, observed_bind, searched]
        by_cases iterates : env.malloc (.listIterator .requestid) = true
        · cases found : world.requests.find? (msgParseMatch (replyRequestId config requestIdStr)) with
          | none => simp [released]
          | some node =>
            have present : node < after.requests.size := by
              rw [size]
              exact world.requests.entriesAllocated node (Registry.find?_mem found)
            have runs := @copy_runs env after node decoded present
            simp only [iterates, if_true, Option.isSome_some, forall_true_left, copy_releases]
            refine ⟨fun fits => ⟨runs.mpr fits, trivial⟩, fun long => ⟨?_, List.not_mem_nil⟩⟩
            rw [← Option.not_isSome_iff_eq_none, runs]
            exact Nat.not_lt.mpr long
        · simp [iterates, released]

/-- The reply branch, with what is released after it. -/
private theorem reply_disciplined_iff (document : CJson) (decoded : Bytes) (buffer : Buffer) :
    Disciplined (some document) (config.cJsonParse decoded)
      ((storeReply config decoded).observed (respond env) released world ++
        (((storeReply config decoded).run (respond env) world).map fun _ =>
          [.msgJson, .buffer buffer, .msg]).getD []) ↔ ReplyHandled config env world decoded := by
  obtain ⟨handled, stopped⟩ := @storeReply_releases config env world decoded
  constructor
  · intro disciplined
    by_contra unhandled
    obtain ⟨stops, kept⟩ := stopped unhandled
    have once := disciplined.message
    rw [stops, Option.map_none, Option.getD_none, List.append_nil, List.count_eq_zero.mpr kept] at once
    cases once
  · intro readable
    obtain ⟨runs, releases⟩ := handled readable
    obtain ⟨result, ran⟩ := Option.isSome_iff_exists.mp runs
    rw [ran, releases, Option.map_some, Option.getD_some]
    cases config.cJsonParse decoded with
    | none => exact disciplined_end document _
    | some reply => exact disciplined_reply document reply _

theorem broadcast_disciplined_iff :
    Disciplined (config.cJsonParse msg.text) (replyDocument config env msg)
      (releases env (onBroadcastMessage config msg) world) ↔
        LogsFit env (onBroadcastMessage config msg) world ∧ BroadcastHandled config env world msg := by
  refine (disciplined_iff broadcast_last).trans (and_congr_right fun _ => ?_)
  unfold onBroadcastMessage BroadcastHandled replyDocument
  cases parsed : config.cJsonParse msg.text with
  | none => simp [observed_bind, released, disciplined_unparsed]
  | some msgJson =>
    cases topicItem : msgJson.getObjectItem "topic" with
    | none => simp [observed_bind, released, topicItem, disciplined_early]
    | some topic =>
      cases payloadItem : msgJson.getObjectItem "payload" with
      | none => simp [observed_bind, released, topicItem, payloadItem, disciplined_early]
      | some payload =>
        cases allocated : env.malloc (.buffer .msgBase64decode) with
        | false =>
          simp [observed_bind, released, topicItem, payloadItem, allocated, disciplined_early]
        | true =>
          cases decoded : fittingItem config payload with
          | none =>
            simp [observed_bind, released, topicItem, payloadItem, allocated, base64DecodeString_item, decoded,
              not_disciplined_nil]
          | some coded =>
            cases topicText : topic.valuestring with
            | none =>
              simp [observed_bind, released, topicItem, payloadItem, allocated, base64DecodeString_item, decoded,
                topicText, not_disciplined_nil]
            | some name =>
              simp [observed_bind, released, topicItem, payloadItem, allocated, base64DecodeString_item, decoded,
                topicText]
              apply broadcast_branches (motive := fun chosen => Disciplined _ _ chosen ↔ _)
              · intro notice
                obtain ⟨pattern, known, contained⟩ := List.any_eq_true.mp notice
                have noReply : ¬ ∀ notice ∈ noticeTopics, strstr name.bytes notice = none := by
                  intro absent
                  rw [absent pattern known] at contained
                  cases contained
                rw [if_neg noReply]
                refine ⟨?_, ?_, ?_, ?_⟩
                all_goals
                  refine iff_of_true ?_ (.inl ⟨pattern, known, contained⟩)
                  rw [(notice_runs _ _).1, (notice_runs _ _).2]
                  exact disciplined_end msgJson _
              · intro other
                have unknown : ¬ ∃ notice ∈ noticeTopics, (strstr name.bytes notice).isSome = true :=
                  mt List.any_eq_true.mpr (Bool.not_eq_true _ ▸ other)
                have replies : ∀ notice ∈ noticeTopics, strstr name.bytes notice = none := by
                  intro notice given
                  rw [← Option.not_isSome_iff_eq_none]
                  exact fun contained => unknown ⟨notice, given, contained⟩
                rw [if_pos replies, or_iff_right unknown]
                exact reply_disciplined_iff msgJson coded.text _

end Broadcast

section Others

variable {config : DriverConfig} {env : Env} {world : World} {msg : NatsMsg}

/-- A document that is parsed is not deleted as a whole. -/
theorem edgeState_disciplined_iff :
    Disciplined (config.cJsonParse msg.text) none (releases env (onEdgeStateMessage config msg) world) ↔
      LogsFit env (onEdgeStateMessage config msg) world ∧ config.cJsonParse msg.text = none := by
  refine (disciplined_iff edgeState_last).trans (and_congr_right fun _ => ?_)
  unfold onEdgeStateMessage
  cases parsed : config.cJsonParse msg.text with
  | none => simp [observed_bind, released, disciplined_unparsed]
  | some msgJson =>
    refine iff_of_false (fun disciplined => ?_) (by simp)
    have deleted := disciplined.document
    cases stateItem : msgJson.getObjectItem "state" with
    | none => simp [observed_bind, released, stateItem] at deleted
    | some state =>
      cases printed : env.malloc .cJsonPrint <;>
        simp [observed_bind, released, stateItem, printed] at deleted

/-- The received message is not destroyed. -/
theorem nats_undisciplined :
    ¬ Disciplined none none (releases env (onNatsMessage config msg) world) := by
  intro disciplined
  have issued : Issues (I := edge) (fun request => released request ≠ some .msg)
      (onNatsMessage config msg) fun _ => True := by
    refine .bind (by simp [released]) fun _ => .bind (by simp [released]) fun allocated => ?_
    rw [issues_ite]
    split
    · simp [released]
    · refine .bind ?_ fun coded => .bind (by simp [released]) fun _ =>
        .bind (keepsMsg_notice _ _) fun _ => by simp [released]
      rw [base64DecodeMsg]
      split
      · rw [issues_ite]
        split
        · trivial
        · exact keepsMsg_fault
      · exact keepsMsg_fault
  have destroyed : .msg ∈ releases env (onNatsMessage config msg) world :=
    List.count_pos_iff.mp (by rw [disciplined.message]; exact Nat.one_pos)
  obtain ⟨request, other, seen⟩ := issued.of_mem_observed destroyed
  exact other seen

end Others

/-- Who releases a message and its documents as their owner: the local callback and the
broadcast callback on the messages they handle to the end, the state callback on what is not
JSON, all where the logs fit, and the callback of the other subjects on no message. -/
theorem callbacks_disciplined_iff (config : DriverConfig) (env : Env) (world : World) (msg : NatsMsg) :
    (Disciplined (config.cJsonParse msg.text) none (releases env (onLocalMessage config msg) world) ↔
      LogsFit env (onLocalMessage config msg) world ∧ LocalHandled config env world msg) ∧
    (Disciplined (config.cJsonParse msg.text) (replyDocument config env msg)
      (releases env (onBroadcastMessage config msg) world) ↔
        LogsFit env (onBroadcastMessage config msg) world ∧ BroadcastHandled config env world msg) ∧
    (Disciplined (config.cJsonParse msg.text) none (releases env (onEdgeStateMessage config msg) world) ↔
      LogsFit env (onEdgeStateMessage config msg) world ∧ config.cJsonParse msg.text = none) ∧
    ¬ Disciplined none none (releases env (onNatsMessage config msg) world) :=
  ⟨local_disciplined_iff, broadcast_disciplined_iff, edgeState_disciplined_iff, nats_undisciplined⟩

private def onlineText : Bytes := ascii "\x7b\"state\":true\x7d"

/-- The news that the edge is online leaves its document, less the item it was read from. -/
theorem onlineNews_undisciplined : ¬ ∀ config env world msg,
    Disciplined (config.cJsonParse msg.text) none (releases env (onLocalMessage config msg) world) ∧
      Disciplined (config.cJsonParse msg.text) (replyDocument config env msg)
        (releases env (onBroadcastMessage config msg) world) ∧
      Disciplined (config.cJsonParse msg.text) none
        (releases env (onEdgeStateMessage config msg) world) ∧
      Disciplined none none (releases env (onNatsMessage config msg) world) := by
  intro always
  have disciplined := (always { DriverConfig.plain with
      cJsonParse := fun text =>
        if text = onlineText then some (.object [(.literal "state", .bool true)]) else none }
    .calm .initial ⟨.literal "edge.state.reply", onlineText⟩).2.2.1
  exact absurd disciplined.whole (by decide)

end IotstackDriver.Edge
