import IotstackDriver.Edge.Announcements

/-! Every client the threads of a driver have listed, taken off the list, or marked as in or
out of a session, against the notices that were published before. -/

namespace IotstackDriver.Edge.Locking

open Libc Support Program
open scoped List

namespace Worker

/-- The thread sets a session flag on a reply alone. -/
def waits : Worker → Bool
  | performs (.handle (.device (.loginAsync _))) => false
  | performs (.handle (.device (.logoutAsync _))) => false
  | _ => true

variable {config : DriverConfig}

private theorem handleStatusSync_spares : SparesDevices (Edge.handleStatusSync config) := by
  have lists (text : Bytes) (nodes : List Ref) : SparesDevices (Edge.listDevices text nodes) := by
    refine issues_listDevices (fun _ => ?_) (fun _ _ _ => ?_) ?_ text nodes <;> rfl
  rw [collected_eq]
  refine .bind (by simp [statusBuffers, Request.changes]) fun ready => ?_
  rw [issues_ite]
  split
  · refine ⟨rfl, fun collected => ?_⟩
    cases collected with
    | none => trivial
    | some nodes =>
      have sends : SparesDevices (Edge.listDevices [] nodes >>= sendStatus config) :=
        .bind (lists [] nodes) fun text => by simp [sendStatus, publishAndFlush, Request.changes]
      exact sends
  · trivial

private theorem onEdgeStateMessage_spares {msg : NatsMsg} :
    SparesDevices (Edge.onEdgeStateMessage config msg) := by
  refine .bind (by simp [Request.changes]) fun _ => ?_
  split
  · simp [Request.changes]
  · split
    · simp [Request.changes]
    · refine .bind (by simp [Request.changes]) fun allocated => ?_
      refine .bind (by simp [Request.changes]) fun _ => ?_
      split
      · simp [Request.changes]
      · exact .bind ⟨rfl, fun _ => trivial⟩ fun _ => by simp [Request.changes]

theorem notes (config : DriverConfig) (worker : Worker) :
    Meets (noticeProtocol config worker.waits) (worker.thread config).coarse (fun _ _ => True) [] := by
  have ends {α : Type} {waits : Bool} {program : Program edge α}
      (notes : Meets (noticeProtocol config waits) program (fun _ _ => True) []) :
      Meets (noticeProtocol config waits) (program >>= fun _ => pure ()) (fun _ _ => True) [] := by
    rw [meets_bind]
    exact notes.weaken fun _ _ _ => trivial
  cases worker with
  | statusSync => exact meets_of_spares handleStatusSync_spares
  | performs duty =>
    cases duty with
    | handle process =>
      cases process with
      | onBroadcastMessage msg =>
        exact meets_of_spares (issues_onBroadcastMessage (fun _ reads => reads.2) fun _ _ _ => ⟨rfl, rfl⟩)
      | onLocalMessage msg => exact meets_of_spares (spares_of_readsOnly readsOnly_onLocalMessage)
      | request call =>
        cases call with
        | dynamicAuth => exact ends edgeSubdevDynamicAuth_notes
        | loginSync => exact ends edgeSubdevLoginSync_notes
        | logoutSync => exact ends edgeSubdevLogoutSync_notes
        | getTopo => exact ends (meets_of_spares edgeGetTopo_spares)
        | addTopo => exact ends (meets_of_spares edgeAddTopo_spares)
        | deleteTopo => exact ends (meets_of_spares edgeDeleteTopo_spares)
      | device call =>
        cases call with
        | construct => exact ends edgeSubdevConstruct_notes
        | loginSync => exact ends edgeSubdevLoginSync_notes
        | logoutSync => exact ends edgeSubdevLogoutSync_notes
        | loginAsync => exact ends edgeSubdevLoginAsync_notes
        | logoutAsync => exact ends edgeSubdevLogoutAsync_notes
        | dynamicAuth => exact ends edgeSubdevDynamicAuth_notes
    | onEdgeStateMessage msg => exact meets_of_spares onEdgeStateMessage_spares
    | onNatsMessage msg => exact meets_of_spares (spares_of_readsOnly readsOnly_onNatsMessage)
    | publish topic data dataLen =>
      exact ends (meets_of_spares (spares_of_readsOnly edgePublish_readsOnly))
    | natsPublish subject data dataLen =>
      exact ends (meets_of_spares (spares_of_readsOnly natsPublish_readsOnly))

end Worker

/-! ## What one step brings about -/

section Steps

variable {env : Env} {world after : World} {request : Request} {reply : request.Reply} {client : Ref}

/-- The session flag of the client. -/
def inSession (client : Ref) (world : World) : Bool :=
  (world.devices.value? client).any SubdevClient.natsOnline

private theorem lists_step (answered : respond env request world = some (reply, after))
    (before : client ∉ world.devices.entries) (listed : client ∈ after.devices.entries) :
    request = .push .connDevice client := by
  have change := handle_devices answered
  generalize after.devices = devices at change listed
  cases change with
  | reads _ same => exact absurd (same.entries ▸ listed) before
  | creates | flags => exact absurd (by simpa using listed) before
  | pushes allocated =>
    rw [Registry.push_entries allocated] at listed
    rcases List.mem_append.mp listed with old | new
    · exact absurd old before
    · rw [List.mem_singleton.mp new]
  | removes =>
    rw [extractFromList, Registry.remove_entries] at listed
    exact absurd (by simpa using List.mem_of_mem_eraseP listed) before
  | refuses => exact absurd listed before

private theorem delists_step {own : SubdevClient}
    (answered : respond env request world = some (reply, after))
    (present : world.devices.value? client = some own) (before : client ∈ world.devices.entries)
    (gone : client ∉ after.devices.entries) : ∃ node other, request = .remove .connDevice node ∧
      world.devices.value? node = some other ∧ other.deviceSn.bytes <+: own.deviceSn.bytes := by
  have change := handle_devices answered
  generalize after.devices = devices at change gone
  cases change with
  | reads _ same => exact absurd before (same.entries ▸ gone)
  | creates | flags => exact absurd before (by simpa using gone)
  | pushes allocated =>
    rw [Registry.push_entries allocated] at gone
    exact absurd (List.mem_append_left _ before) gone
  | @removes node other found iterates =>
    refine ⟨node, other, rfl, found, ?_⟩
    rw [extractFromList] at gone
    have taken : world.devices.find? (subdevClientMatch other.deviceSn) = some client := by
      by_contra missed
      exact gone ((Registry.mem_remove_of_missed (by simpa using missed)).mpr (by simpa using before))
    rw [← subdevClientMatch_iff]
    simpa [Registry.matching, present] using Registry.find?_matching taken
  | refuses => exact absurd before gone

private theorem flags_step (answered : respond env request world = some (reply, after))
    (created : ∀ own, request = .newSubdevClient own → own.natsOnline = false)
    (turned : inSession client after ≠ inSession client world) :
    request = .setOnline client (inSession client after) := by
  have change := handle_devices answered
  unfold inSession at turned ⊢
  generalize after.devices = devices at change turned ⊢
  cases change with
  | reads _ same => exact absurd (by rw [Registry.value?, same.cells]; rfl) turned
  | @creates own =>
    refine absurd ?_ turned
    rw [Registry.alloc_value?]
    split
    · rename_i fresh
      simp [fresh, Registry.value?_fresh, created own rfl]
    · rfl
  | pushes => exact absurd (by simp) turned
  | removes => exact absurd (by simp [extractFromList]) turned
  | refuses => exact absurd rfl turned
  | @flags target online own present =>
    rw [Registry.modify_value?] at turned ⊢
    split at turned
    · rename_i same
      subst same
      simp [present, SubdevClient.withOnline]
    · exact absurd (by simp) turned

private theorem client_step {own : SubdevClient}
    (answered : respond env request world = some (reply, after))
    (known : ∃ flag, world.devices.value? client = some (own.withOnline flag)) :
    ∃ flag, after.devices.value? client = some (own.withOnline flag) := by
  obtain ⟨flag, present⟩ := known
  obtain ⟨now, present'⟩ := handle_client answered present
  exact ⟨now, present'⟩

end Steps

/-! ## Runs -/

variable {ι : Type}

/-- The thread published a notice that names the client, and flushed it. -/
def Crew.Published (crew : Crew ι) (thread : ι) (own : SubdevClient) (notice : Notice)
    (seen : List (ι × Answer edge)) : Prop :=
  ∃ requestId text, notice.Reads crew.config own own requestId text ∧
    [(thread, ⟨.publishString crew.config.edgeRouterSubject text, EdgeStatus.ok⟩),
      (thread, ⟨.flush, EdgeStatus.ok⟩)] <+ seen

/-- It published the notice under the id of an entry it made, and then read in that entry a
reply that accepts it. -/
def Crew.Accepted (crew : Crew ι) (thread : ι) (own : SubdevClient) (notice : Notice)
    (seen : List (ι × Answer edge)) : Prop :=
  ∃ requestId node text payload, notice.Reads crew.config own own requestId text ∧
    Accepts crew.config payload ∧
    [(thread, ⟨.newMsgParse requestId, node⟩),
      (thread, ⟨.publishString crew.config.edgeRouterSubject text, EdgeStatus.ok⟩),
      (thread, ⟨.flush, EdgeStatus.ok⟩), (thread, ⟨.readPayload node .parse, payload⟩)] <+ seen

theorem Crew.Published.later {crew : Crew ι} {thread : ι} {own : SubdevClient} {notice : Notice}
    {seen more : List (ι × Answer edge)} (published : crew.Published thread own notice seen) :
    crew.Published thread own notice (seen ++ more) := by
  obtain ⟨requestId, text, reads, sent⟩ := published
  exact ⟨requestId, text, reads, sent.trans (List.sublist_append_left ..)⟩

variable [DecidableEq ι] {crew : Crew ι} {history earlier later : History edge World ι Empty}
  {start pool first : Pool edge World ι} {thread : ι} {client : Ref} {own : SubdevClient} {notice : Notice}

private theorem client_run (run : crew.team.coarse.Run start history pool)
    (known : ∃ flag, start.shared.devices.value? client = some (own.withOnline flag)) :
    ∃ flag, pool.shared.devices.value? client = some (own.withOnline flag) := by
  induction run with
  | start => exact known
  | step run step ih =>
    cases step with
    | outside taken => exact Empty.elim ‹_›
    | request waiting answered => exact client_step answered ih

omit [DecidableEq ι] in
private theorem noted_seen (request : Request) (reply : request.Reply) (isNoted : noted request = true) :
    seenCoarse (.request thread request reply : Event edge ι Empty) = some (thread, ⟨request, reply⟩) := by
  cases request
  case newMsgParse | readClient | publishString | flush | readPayload => rfl
  all_goals cases isNoted

/-- What was read of a client still holds, but for its session flag. -/
private theorem read_current (run : crew.team.coarse.Run start history pool)
    (read : (thread, ⟨.readClient client, own⟩) ∈ System.seen seenCoarse history) :
    ∃ flag, pool.shared.devices.value? client = some (own.withOnline flag) := by
  induction run with
  | start => cases read
  | @step history pool next taken run step ih =>
    cases step with
    | outside taken => exact Empty.elim ‹_›
    | @request other asked rest reply shared waiting answered =>
      rw [System.seen_append] at read
      rcases List.mem_append.mp read with old | new
      · exact client_step answered (ih old)
      · obtain ⟨shows, rfl⟩ : visible asked reply = some ⟨.readClient client, own⟩ ∧ other = thread := by
          simpa [System.seen, seenCoarse] using new
        rw [visible] at shows
        split at shows
        · cases shows
        · cases shows
          obtain ⟨found, present, same⟩ := Option.bind_eq_some_iff.mp answered
          cases same
          exact ⟨own.natsOnline, by simpa [SubdevClient.withOnline] using present⟩

/-- The threads have kept to their protocols. -/
private theorem attested (run : crew.SectionRun history pool) {request : Request} {reply : request.Reply}
    (split : history = earlier ++ (first, .request thread request reply) :: later) :
    Attested crew.config (crew.workers thread).waits (System.recorded noted thread earlier) request :=
  (run.tallied ((crew.workers thread).notes crew.config)).1 _ _ _ _ _ split

private theorem reads_own {inner outer : SubdevClient} {requestId : UInt32} {text : Bytes}
    (run : crew.SectionRun (earlier ++ later) pool)
    (now : pool.shared.devices.value? client = some own)
    (noticed : (noticeSteps crew.config client inner outer text).map (thread, ·) <+
      System.seen seenCoarse earlier)
    (reads : notice.Reads crew.config inner outer requestId text) :
    notice.Reads crew.config own own requestId text := by
  have current (known : SubdevClient)
      (member : (thread, ⟨.readClient client, known⟩) ∈ System.seen seenCoarse earlier) :
      ∃ flag, known.withOnline flag = own := by
    have read := List.mem_append_left (System.seen seenCoarse later) member
    rw [← System.seen_append] at read
    obtain ⟨flag, same⟩ := read_current run read
    exact ⟨flag, Option.some.inj (same.symm.trans now)⟩
  obtain ⟨flag, left⟩ := current inner (noticed.subset (by simp [noticeSteps]))
  obtain ⟨flag', right⟩ := current outer (noticed.subset (by simp [noticeSteps]))
  rw [← Notice.reads_withOnline, left, right] at reads
  exact reads

/-- What is recorded of a thread is seen of the run. -/
private theorem shown_of_recorded {chain : List (Answer edge)}
    (recorded : chain <+ System.recorded noted thread history) :
    chain.map (thread, ·) <+ System.seen seenCoarse history :=
  (recorded.map (thread, ·)).trans (System.recorded_sublist noted_seen)

private theorem published_of_announced (run : crew.SectionRun (earlier ++ later) pool)
    (now : pool.shared.devices.value? client = some own)
    (announced : Announced crew.config client notice (System.recorded noted thread earlier)) :
    crew.Published thread own notice (System.seen seenCoarse earlier) := by
  obtain ⟨requestId, inner, outer, text, reads, sent⟩ := announced
  have shown := shown_of_recorded sent
  refine ⟨requestId, text, reads_own run now shown reads, List.Sublist.trans ?_ shown⟩
  exact List.sublist_append_right [_, _] _

private theorem accepted_of_granted (run : crew.SectionRun (earlier ++ later) pool)
    (now : pool.shared.devices.value? client = some own)
    (granted : Granted crew.config client notice (System.recorded noted thread earlier)) :
    crew.Accepted thread own notice (System.seen seenCoarse earlier) := by
  obtain ⟨requestId, node, inner, outer, text, payload, reads, accepts, sent⟩ := granted
  have shown := shown_of_recorded sent
  have inside : (noticeSteps crew.config client inner outer text).map (thread, ·) <+
      System.seen seenCoarse earlier := by
    refine List.Sublist.trans (List.Sublist.map _ ?_) shown
    exact (List.sublist_append_left ..).trans (List.sublist_cons_self ..)
  refine ⟨requestId, node, text, payload, reads_own run now inside reads, accepts, ?_⟩
  refine List.Sublist.trans ?_ shown
  simp [noticeSteps]

omit [DecidableEq ι] in
/-- What is seen of a run around one of its steps. -/
private theorem seen_split (step : Pool edge World ι × Event edge ι Empty) :
    System.seen seenCoarse (earlier ++ step :: later) = System.seen seenCoarse earlier ++
      ((seenCoarse step.2).toList ++ System.seen seenCoarse later) := by
  rw [System.seen_append]
  cases shown : seenCoarse step.2 <;> simp [System.seen, shown]

/-! ## Stretches of a run -/

section Stretches

variable {before more : History edge World ι Empty} {middle final : Pool edge World ι}

/-- What holds after a stretch and not before it was brought about by a request, and the thread
had recorded what the request needs. -/
private theorem section_brings (holds : World → Prop) (run : crew.SectionRun before middle)
    (further : crew.team.coarse.Run middle more final) (begins : ¬ holds middle.shared)
    (ends : holds final.shared) : ∃ thread request reply earlier first later after,
      more = earlier ++ (first, .request thread request reply) :: later ∧
      crew.SectionRun ((before ++ earlier) ++ (first, .request thread request reply) :: later) final ∧
      crew.team.coarse.Run after later final ∧
      Attested crew.config (crew.workers thread).waits
        (System.recorded noted thread (before ++ earlier)) request ∧
      respond (crew.envs thread) request first.shared = some (reply, after.shared) ∧
      ¬ holds first.shared ∧ holds after.shared := by
  rcases further.brought_about holds ends with
    there | ⟨earlier, first, event, later, after, rfl, step, remains, without, ends⟩
  · exact absurd there begins
  · have whole := run.append further
    rw [← List.append_assoc] at whole
    cases step with
    | outside taken => exact Empty.elim ‹_›
    | @request thread request rest reply shared waiting answered =>
      exact ⟨thread, request, reply, earlier, first, later, _, rfl, whole, remains, attested whole rfl,
        answered, without, ends⟩

private theorem section_lists (run : crew.SectionRun before middle)
    (further : crew.team.coarse.Run middle more final)
    (now : final.shared.devices.value? client = some own)
    (absent : client ∉ middle.shared.devices.entries) (listed : client ∈ final.shared.devices.entries) :
    ∃ thread first last, System.seen seenCoarse more =
        first ++ (thread, ⟨.push .connDevice client, ()⟩) :: last ∧
      crew.Published thread own .login (System.seen seenCoarse before ++ first) := by
  obtain ⟨thread, request, reply, earlier, first, later, after, rfl, whole, -, announced, answered,
    absent, listed⟩ := section_brings (fun world => client ∈ world.devices.entries) run further
      absent listed
  obtain rfl := lists_step answered absent listed
  refine ⟨thread, System.seen seenCoarse earlier, System.seen seenCoarse later, seen_split _, ?_⟩
  rw [← System.seen_append]
  exact published_of_announced whole now announced

private theorem section_delists (run : crew.SectionRun before middle)
    (further : crew.team.coarse.Run middle more final)
    (now : final.shared.devices.value? client = some own)
    (listed : client ∈ middle.shared.devices.entries) (absent : client ∉ final.shared.devices.entries) :
    ∃ thread node other, final.shared.devices.value? node = some other ∧
      other.deviceSn.bytes <+: own.deviceSn.bytes ∧
      crew.Published thread other .logout
        (System.seen seenCoarse before ++ System.seen seenCoarse more) := by
  obtain ⟨thread, request, reply, earlier, first, later, after, rfl, whole, remains, announced, answered,
    listed, absent⟩ := section_brings (fun world => client ∉ world.devices.entries) run further
      (not_not.mpr listed) absent
  have listed := not_not.mp listed
  obtain ⟨own', present⟩ := Option.isSome_iff_exists.mp
    (Registry.value?_isSome.mpr (first.shared.devices.entriesAllocated client listed))
  obtain ⟨node, other, rfl, found, starts⟩ := delists_step answered present listed absent
  -- Both clients are still what they were, but for their session flags.
  obtain ⟨flag, same⟩ := client_run remains (client_step answered ⟨own'.natsOnline, present⟩)
  obtain ⟨flag', now'⟩ := client_run remains (client_step answered ⟨other.natsOnline, found⟩)
  cases same.symm.trans now
  refine ⟨thread, node, other.withOnline flag', now', starts, ?_⟩
  rw [seen_split, ← List.append_assoc, ← System.seen_append]
  exact (published_of_announced whole now' announced).later

private theorem section_turns (run : crew.SectionRun before middle)
    (further : crew.team.coarse.Run middle more final)
    (now : final.shared.devices.value? client = some own)
    (turned : own.natsOnline ≠ inSession client middle.shared) :
    ∃ thread first last notice, System.seen seenCoarse more =
        first ++ (thread, ⟨.setOnline client own.natsOnline, ()⟩) :: last ∧
      notice.online = own.natsOnline ∧
      if (crew.workers thread).waits
      then crew.Accepted thread own notice (System.seen seenCoarse before ++ first)
      else crew.Published thread own notice (System.seen seenCoarse before ++ first) := by
  obtain ⟨thread, request, reply, earlier, first, later, after, rfl, whole, -, judged, answered, without,
    ends⟩ := section_brings (fun world => inSession client world = own.natsOnline) run further
      turned.symm (by simp [inSession, now])
  have turns := flags_step answered (fun created same => by rw [same] at judged; exact judged)
    (ends.trans_ne (Ne.symm without))
  rw [ends] at turns
  subst turns
  obtain ⟨notice, online, told⟩ := judged
  refine ⟨thread, System.seen seenCoarse earlier, System.seen seenCoarse later, notice, seen_split _,
    online, ?_⟩
  rw [← System.seen_append]
  by_cases waits : (crew.workers thread).waits = true
  · rw [if_pos waits] at told ⊢
    exact accepted_of_granted whole now told
  · rw [if_neg waits] at told ⊢
    exact published_of_announced whole now told

end Stretches

/-- Two runs with locks, one after the other, followed by two runs of sections. -/
private theorem follows_both {before more : History locked (Guarded World RegistryList ι) ι Empty}
    {middle final : Pool locked (Guarded World RegistryList ι) ι} (run : crew.LockedRun before middle)
    (further : crew.team.fine.Run middle more final) : ∃ before' above more' final',
      crew.SectionRun before' above ∧ crew.team.coarse.Run above more' final' ∧
        SameWorld middle.shared.world above.shared ∧ SameWorld final.shared.world final'.shared ∧
        System.seen seenCoarse before' = System.seen seenFine before ∧
        System.seen seenCoarse more' = System.seen seenFine more := by
  obtain ⟨before', above, held, reached, related, seen⟩ := crew.follows run
  obtain ⟨more', final', went, ⟨held', related'⟩, seen'⟩ :=
    (related_follows crew.team).run ⟨held, related⟩ further
  exact ⟨before', above, more', final', reached, went, related.world, related'.world, seen, seen'⟩

/-- In any stretch of a run, a client is listed by a thread that published its login before and
flushed it, and it leaves the list only after such a logout, of a client whose `device_sn` its
own begins with. -/
theorem listing_announced (crew : Crew ι)
    (before more : History locked (Guarded World RegistryList ι) ι Empty)
    (middle final : Pool locked (Guarded World RegistryList ι) ι) (run : crew.LockedRun before middle)
    (further : crew.team.fine.Run middle more final) (client : Ref) (own : SubdevClient)
    (now : final.shared.world.devices.value? client = some own) :
    (client ∉ middle.shared.world.devices.entries → client ∈ final.shared.world.devices.entries →
      ∃ thread first last, System.seen seenFine more =
          first ++ (thread, ⟨.push .connDevice client, ()⟩) :: last ∧
        crew.Published thread own .login (System.seen seenFine before ++ first)) ∧
    (client ∈ middle.shared.world.devices.entries → client ∉ final.shared.world.devices.entries →
      ∃ thread node other, final.shared.world.devices.value? node = some other ∧
        other.deviceSn.bytes <+: own.deviceSn.bytes ∧
        crew.Published thread other .logout (System.seen seenFine before ++ System.seen seenFine more)) := by
  obtain ⟨before', above, more', final', reached, went, begins, ends, seen, seen'⟩ :=
    follows_both run further
  rw [← begins.devices.entries, ← ends.devices.entries, ← ends.devices.value?, ← seen, ← seen']
  rw [← ends.devices.value?] at now
  exact ⟨section_lists reached went now, section_delists reached went now⟩

/-- A login that is accepted, beside a status notification that has just begun. -/
private def signingIn : Crew Bool where
  config :=
    { DriverConfig.plain with
      cJsonParse := fun text =>
        if text = ascii "ok" then some (.object [(.literal "RetCode", .number 0)]) else none }
  workers
    | false => .statusSync
    | true => .performs (.handle (.device (.loginSync 0 1000)))
  envs
    | false => .calm
    | true => { Env.calm with look := fun _ _ => ascii "ok" }
  world := constructed

/-- The login up to its buffers, and the rest of it. -/
private theorem signingIn_runs : ∃ before more middle final own, signingIn.LockedRun before middle ∧
    signingIn.team.fine.Run middle more final ∧
    final.shared.world.devices.value? 0 = some own ∧
    middle.shared.world.devices.entries = [] ∧ final.shared.world.devices.entries = [0] ∧
    inSession 0 middle.shared.world = false ∧ own.natsOnline = true := by
  have outcome : (signingIn.team.fine.follow signingIn.team.fineStart
      (List.replicate 3 (.thread false) ++ List.replicate 10 (.thread true))).bind (fun result =>
        (signingIn.team.fine.follow result.2 (List.replicate 28 (.thread true))).map fun further =>
          (result.2.shared.world.devices.entries, inSession 0 result.2.shared.world,
            further.2.shared.world.devices.entries, inSession 0 further.2.shared.world)) =
      some ([], false, [0], true) := by decide +kernel
  obtain ⟨⟨before, middle⟩, followed, continued⟩ := Option.bind_eq_some_iff.mp outcome
  obtain ⟨⟨more, final⟩, further, same⟩ := Option.map_eq_some_iff.mp continued
  simp only [Prod.mk.injEq] at same
  obtain ⟨unlisted, offline, listed, online⟩ := same
  obtain ⟨own, now, online⟩ := (Option.any_eq_true ..).mp online
  exact ⟨before, more, middle, final, own, System.run_of_follow followed, System.run_of_follow further,
    now, unlisted, listed, offline, online⟩

theorem listing_announced_login : ∃ before more middle final own thread first last,
    signingIn.LockedRun before middle ∧ signingIn.team.fine.Run middle more final ∧
    System.seen seenFine more = first ++ (thread, ⟨.push .connDevice 0, ()⟩) :: last ∧
    signingIn.Published thread own .login (System.seen seenFine before ++ first) := by
  obtain ⟨before, more, middle, final, own, run, further, now, unlisted, listed, -⟩ := signingIn_runs
  obtain ⟨arrives, -⟩ := listing_announced signingIn before more middle final run further 0 own now
  obtain ⟨thread, first, last, pushed, published⟩ := arrives (by simp [unlisted]) (by simp [listed])
  exact ⟨before, more, middle, final, own, thread, first, last, run, further, pushed, published⟩

/-- In any stretch of a run, the session flag of a client is turned by a thread that published
a notice of it before and flushed it. Unless the call is an asynchronous one, it also read a
reply that accepts the notice, in the entry it had made under the id of the notice. -/
theorem session_announced (crew : Crew ι)
    (before more : History locked (Guarded World RegistryList ι) ι Empty)
    (middle final : Pool locked (Guarded World RegistryList ι) ι) (run : crew.LockedRun before middle)
    (further : crew.team.fine.Run middle more final) (client : Ref) (own : SubdevClient)
    (now : final.shared.world.devices.value? client = some own)
    (turned : own.natsOnline ≠ inSession client middle.shared.world) :
    ∃ thread first last notice, System.seen seenFine more =
        first ++ (thread, ⟨.setOnline client own.natsOnline, ()⟩) :: last ∧
      notice.online = own.natsOnline ∧
      if (crew.workers thread).waits
      then crew.Accepted thread own notice (System.seen seenFine before ++ first)
      else crew.Published thread own notice (System.seen seenFine before ++ first) := by
  obtain ⟨before', above, more', final', reached, went, begins, ends, seen, seen'⟩ :=
    follows_both run further
  rw [← ends.devices.value?] at now
  rw [← seen, ← seen']
  refine section_turns reached went now ?_
  rwa [inSession, begins.devices.value?]

theorem session_announced_login : ∃ before more middle final own thread first last notice,
    signingIn.LockedRun before middle ∧ signingIn.team.fine.Run middle more final ∧
    System.seen seenFine more = first ++ (thread, ⟨.setOnline 0 own.natsOnline, ()⟩) :: last ∧
    notice.online = own.natsOnline ∧
    if (signingIn.workers thread).waits
    then signingIn.Accepted thread own notice (System.seen seenFine before ++ first)
    else signingIn.Published thread own notice (System.seen seenFine before ++ first) := by
  obtain ⟨before, more, middle, final, own, run, further, now, -, -, offline, online⟩ := signingIn_runs
  obtain ⟨thread, first, last, notice, turned⟩ := session_announced signingIn before more middle final
    run further 0 own now (by simp [offline, online])
  exact ⟨before, more, middle, final, own, thread, first, last, notice, run, further, turned⟩

end IotstackDriver.Edge.Locking
