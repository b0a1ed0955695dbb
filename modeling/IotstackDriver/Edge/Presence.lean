import IotstackDriver.Edge.DeviceCalls

/-! The session flag of a client against its presence in `conn_device_list`. -/

namespace IotstackDriver.Edge

open Libc Support

/-- No client's serial number is a prefix of another client's. -/
def PrefixFree (devices : Registry SubdevClient) : Prop :=
  ∀ first own second other, serial devices first = some own → serial devices second = some other →
    own.bytes <+: other.bytes → first = second

/-- A live client is online exactly when it is listed. -/
def Presence (devices : Registry SubdevClient) : Prop :=
  ∀ client, devices.live client = true → (online devices client = true ↔ client ∈ devices.entries)

/-- The outcomes with which a call changes flag and list together, or neither. -/
def keepsPresence (config : DriverConfig) (env : Env) (devices : Registry SubdevClient) :
    DeviceCall → Prop
  | .construct .. => True
  | .loginSync client _ => env.syncSent = true → client ∉ devices.entries →
      (env.malloc (.listNode .connDevice) = true ↔ env.retCode? config = some 0)
  | .loginAsync client => env.logInOutSent = true → client ∉ devices.entries →
      env.malloc (.listNode .connDevice) = true
  | .logoutSync client _ => online devices client = true → env.syncSent = true →
      env.retCode? config = some 0 → env.malloc (.listIterator .connDevice) = true
  | .logoutAsync client => online devices client = true → env.logInOutSent = true →
      env.malloc (.listIterator .connDevice) = true
  | .dynamicAuth client productSecret _ => env.registrationAccepted config productSecret = true →
      client ∈ devices.entries

variable {config : DriverConfig} {env : Env} {devices : Registry SubdevClient} {client : Ref}
  {own : SubdevClient}

/-- A search for a client's serial number finds no other client. -/
private theorem matching_iff (free : PrefixFree devices)
    (found : devices.value? client = some own) (ref : Ref) :
    devices.matching (subdevClientMatch own.deviceSn) ref = true ↔ ref = client := by
  constructor
  · intro matched
    obtain ⟨other, same, matched⟩ := (Option.any_eq_true ..).mp matched
    exact (free client _ ref _ (by simp [serial, found]) (by simp [serial, same])
      ((subdevClientMatch_iff ..).mp matched)).symm
  · intro same
    subst same
    rw [Registry.matching_of_value? found]
    exact (subdevClientMatch_iff own.deviceSn own).mpr List.prefix_rfl

private theorem find?_own (free : PrefixFree devices) (found : devices.value? client = some own)
    (member : client ∈ devices.entries) :
    devices.find? (subdevClientMatch own.deviceSn) = some client := by
  obtain ⟨ref, hit⟩ := Option.isSome_iff_exists.mp (List.find?_isSome.mpr
    ⟨client, member, (matching_iff free found client).mpr rfl⟩)
  rwa [← (matching_iff free found ref).mp (List.find?_some hit)]

/-- The flags and entries of the clients other than one agree. -/
private def Others (client : Ref) (devices : Registry SubdevClient) : Prop :=
  ∀ ref ≠ client, devices.live ref = true → (online devices ref = true ↔ ref ∈ devices.entries)

/-- The removal of a listed client releases it and leaves the other clients alone. -/
private theorem delisted_others (free : PrefixFree devices) (others : Others client devices)
    (found : devices.value? client = some own) (member : client ∈ devices.entries)
    (allocated : env.malloc (.listIterator .connDevice) = true) :
    (env.delisted devices client own.deviceSn).live client = false ∧
      Others client (env.delisted devices client own.deviceSn) := by
  have hit := find?_own free found member
  constructor
  · simp [delisted_live allocated, hit]
  · intro ref other live
    have mismatch : ¬ devices.matching (subdevClientMatch own.deviceSn) ref = true :=
      fun matched => other ((matching_iff free found ref).mp matched)
    rw [delisted_live allocated, Bool.and_eq_true] at live
    rw [delisted_entries allocated, List.mem_eraseP_of_neg mismatch, online_delisted]
    exact others ref other live.1

private theorem presence_of_dead (dead : devices.live client = false)
    (others : Others client devices) : Presence devices := by
  intro ref live
  refine others ref (fun same => ?_) live
  rw [same, dead] at live
  cases live

private theorem online_eq (found : devices.value? client = some own) :
    online devices client = own.natsOnline := by
  simp [online, found]

private theorem loginSync_presence (presence : Presence devices) (live : devices.live client = true)
    (timeOutMs : UInt32)
    (keeps : keepsPresence config env devices (.loginSync client timeOutMs)) :
    Presence ((DeviceCall.loginSync client timeOutMs).devicesAfter config env devices) := by
  have inside := Registry.lt_of_live live
  rw [DeviceCall.devicesAfter]
  split
  · rename_i sent
    have new := keeps sent
    intro ref alive
    by_cases accepted : env.retCode? config = some 0
    · rw [if_pos accepted] at alive ⊢
      rw [online_setFlag (by simpa using inside), online_listed, setFlag_entries,
        listed_entries inside]
      by_cases same : ref = client
      · subst same
        by_cases member : ref ∈ devices.entries
        · simp [member]
        · simp [(new member).mpr accepted]
      · rw [if_neg same, presence ref (by simpa using alive)]
        cases env.malloc (.listNode .connDevice) <;> simp [same]
    · rw [if_neg accepted] at alive ⊢
      rw [online_listed, listed_entries inside, presence ref (by simpa using alive)]
      by_cases same : ref = client
      · subst same
        by_cases member : ref ∈ devices.entries
        · simp [member]
        · have unlisted : ¬ env.malloc (.listNode .connDevice) = true :=
            fun listed => accepted ((new member).mp listed)
          simp [unlisted]
      · cases env.malloc (.listNode .connDevice) <;> simp [same]
  · exact presence

private theorem loginAsync_presence (presence : Presence devices)
    (live : devices.live client = true) (keeps : keepsPresence config env devices (.loginAsync client)) :
    Presence ((DeviceCall.loginAsync client).devicesAfter config env devices) := by
  have inside := Registry.lt_of_live live
  rw [DeviceCall.devicesAfter]
  split
  · rename_i sent
    intro ref alive
    rw [online_listed, online_setFlag inside, listed_entries (by simpa [setFlag] using inside),
      setFlag_entries]
    by_cases same : ref = client
    · subst same
      by_cases member : ref ∈ devices.entries
      · simp [member]
      · simp [keeps sent member]
    · rw [if_neg same, presence ref (by simpa using alive)]
      cases env.malloc (.listNode .connDevice) <;> simp [same]
  · exact presence

private theorem dynamicAuth_presence (presence : Presence devices)
    (live : devices.live client = true) (productSecret : Option CString) (timeOutMs : UInt32)
    (keeps : keepsPresence config env devices (.dynamicAuth client productSecret timeOutMs)) :
    Presence ((DeviceCall.dynamicAuth client productSecret timeOutMs).devicesAfter config env
      devices) := by
  rw [DeviceCall.devicesAfter]
  split
  · rename_i accepted
    intro ref alive
    rw [online_setFlag (Registry.lt_of_live live), setFlag_entries]
    by_cases same : ref = client
    · subst same
      simp [keeps accepted]
    · rw [if_neg same]
      exact presence ref (by simpa using alive)
  · exact presence

private theorem logoutSync_presence (free : PrefixFree devices) (presence : Presence devices)
    (live : devices.live client = true) (timeOutMs : UInt32)
    (keeps : keepsPresence config env devices (.logoutSync client timeOutMs)) :
    Presence ((DeviceCall.logoutSync client timeOutMs).devicesAfter config env devices) := by
  have inside := Registry.lt_of_live live
  obtain ⟨own, found⟩ := Option.isSome_iff_exists.mp (Registry.value?_isSome.mpr inside)
  simp only [DeviceCall.devicesAfter, found]
  split
  · rename_i ready
    obtain ⟨flag, sent⟩ := Bool.and_eq_true_iff.mp ready
    have on : online devices client = true := by rw [online_eq found, flag]
    cases allocated : env.malloc (.listIterator .connDevice) with
    | true =>
      obtain ⟨dead, others⟩ := delisted_others free (fun ref _ => presence ref) found
        ((presence client live).mp on) allocated
      split
      · exact presence_of_dead dead others
      · refine presence_of_dead (by simpa using dead) fun ref other live => ?_
        rw [online_touch, online_setFlag (by simpa using inside), if_neg other, online_touch]
        simpa using others ref other (by simpa using live)
      · refine presence_of_dead (by simpa using dead) fun ref other live => ?_
        simpa using others ref other (by simpa using live)
    | false =>
      rw [delisted_failed allocated, Registry.touch_of_live live]
      split
      · exact presence
      · rename_i accepted
        exact absurd (keeps on sent accepted) (by simp [allocated])
      · exact presence
  · exact presence

private theorem PrefixFree.of_serials {after : Registry SubdevClient} (free : PrefixFree devices)
    (same : ∀ ref, serial after ref = serial devices ref) : PrefixFree after := by
  intro first own second other firstFound secondFound
  rw [same] at firstFound secondFound
  exact free first own second other firstFound secondFound

private theorem logoutAsync_presence (free : PrefixFree devices) (presence : Presence devices)
    (live : devices.live client = true)
    (keeps : keepsPresence config env devices (.logoutAsync client)) :
    Presence ((DeviceCall.logoutAsync client).devicesAfter config env devices) := by
  have inside := Registry.lt_of_live live
  obtain ⟨own, found⟩ := Option.isSome_iff_exists.mp (Registry.value?_isSome.mpr inside)
  simp only [DeviceCall.devicesAfter, found]
  split
  · rename_i ready
    obtain ⟨flag, sent⟩ := Bool.and_eq_true_iff.mp ready
    have on : online devices client = true := by rw [online_eq found, flag]
    have changed : (setFlag devices client false).value? client = some (own.withOnline false) := by
      simp [setFlag, Registry.modify_value?, found]
    have others : Others client (setFlag devices client false) := by
      intro ref other live
      rw [online_setFlag inside, if_neg other]
      exact presence ref (by simpa using live)
    obtain ⟨dead, others⟩ := delisted_others (free.of_serials fun _ => serial_setFlag)
      others changed
      ((presence client live).mp on) (keeps on sent)
    exact presence_of_dead dead others
  · exact presence

/-- A new client is offline and not listed. -/
private theorem alloc_presence (presence : Presence devices) (offline : own.natsOnline = false) :
    Presence (devices.alloc own) := by
  intro ref alive
  rw [online, Registry.alloc_value?, Registry.alloc_entries]
  rw [Registry.alloc_live] at alive
  split
  · rename_i new
    have unlisted : ref ∉ devices.entries := fun member =>
      Nat.lt_irrefl _ (new ▸ devices.entriesAllocated ref member)
    simp [unlisted, offline]
  · rename_i old
    exact presence ref (by simpa [old] using alive)

private theorem construct_presence (presence : Presence devices)
    (productSn deviceSn : Option CString) (normalMsgHandle rrpcMsgHandle : Option HandlerPtr) :
    Presence ((DeviceCall.construct productSn deviceSn normalMsgHandle rrpcMsgHandle).devicesAfter
      config env devices) := by
  match productSn, deviceSn, normalMsgHandle with
  | some productSn, some deviceSn, some handler =>
    rw [DeviceCall.devicesAfter]
    split
    · exact alloc_presence presence rfl
    · exact presence
  | none, _, _ => exact presence
  | some _, none, _ => exact presence
  | some _, some _, none => exact presence

/-- What one call keeps. -/
theorem presence_step (call : DeviceCall) (free : PrefixFree devices) (presence : Presence devices)
    (live : ∀ client, call.client? = some client → devices.live client = true)
    (keeps : keepsPresence config env devices call) :
    Presence (call.devicesAfter config env devices) := by
  cases call with
  | construct productSn deviceSn normalMsgHandle rrpcMsgHandle =>
    exact construct_presence presence productSn deviceSn normalMsgHandle rrpcMsgHandle
  | loginSync client timeOutMs => exact loginSync_presence presence (live client rfl) timeOutMs keeps
  | logoutSync client timeOutMs =>
    exact logoutSync_presence free presence (live client rfl) timeOutMs keeps
  | loginAsync client => exact loginAsync_presence presence (live client rfl) keeps
  | logoutAsync client => exact logoutAsync_presence free presence (live client rfl) keeps
  | dynamicAuth client productSecret timeOutMs =>
    exact dynamicAuth_presence presence (live client rfl) productSecret timeOutMs keeps

/-- One completed call on a live client, among clients whose serial numbers do not
begin one another. -/
def SessionStep (config : DriverConfig)
    (condition : Env → Registry SubdevClient → DeviceCall → Prop) (world next : World) : Prop :=
  DeviceStep config condition world next ∧ PrefixFree next.devices

/-- In every run whose calls meet the condition, every live client is online exactly
when it is listed. -/
theorem presence_of_run {config : DriverConfig} {final : World}
    (run : Relation.ReflTransGen (SessionStep config (keepsPresence config)) .initial final) :
    Presence final.devices := by
  have both : PrefixFree final.devices ∧ Presence final.devices := by
    induction run with
    | refl =>
      constructor
      · intro first own second other found
        cases found
      · intro client live
        cases live
    | tail _ last ih =>
      obtain ⟨step, free⟩ := last
      obtain ⟨env, call, live, keeps, after⟩ := step.devices
      refine ⟨free, ?_⟩
      rw [after]
      exact presence_step call ih.1 ih.2 live keeps
  exact both.2

private theorem constructed_prefixFree : PrefixFree constructed.devices := by
  have only : ∀ ref sn, serial constructed.devices ref = some sn → ref = 0 := by
    intro ref sn found
    simp only [serial, constructed, Registry.alloc_value?] at found
    by_contra other
    have outside : ¬ ref = (Registry.empty : Registry SubdevClient).size := other
    rw [if_neg outside] at found
    cases found
  intro first own second other firstFound secondFound _
  rw [only first own firstFound, only second other secondFound]

private theorem session_step (condition : Env → Registry SubdevClient → DeviceCall → Prop)
    (call : DeviceCall) (older : call.client? = some 0)
    (met : condition .calm constructed.devices call)
    (completes : ((call.program .plain).run (handle .calm) constructed).isSome = true) :
    ∃ final, Relation.ReflTransGen (SessionStep .plain condition) constructed final ∧
      final.devices = call.devicesAfter .plain .calm constructed.devices := by
  obtain ⟨⟨_, final⟩, ran⟩ := Option.isSome_iff_exists.mp completes
  have live : ∀ client, call.client? = some client → constructed.devices.live client = true := by
    intro client same
    cases older.symm.trans same
    rfl
  have ends : Ends .calm False (call.program .plain) _ constructed :=
    deviceCall_devices call live False.elim
  have after := ends.of_run (run_respond ran)
  refine ⟨final, .single ⟨⟨.calm, call, live, met, ran⟩, ?_⟩, after⟩
  rw [after]
  exact constructed_prefixFree.of_serials fun _ => serial_devicesAfter call older

private theorem session_start {condition : Env → Registry SubdevClient → DeviceCall → Prop}
    (met : condition .calm .empty constructCall) :
    Relation.ReflTransGen (SessionStep .plain condition) .initial constructed :=
  .single ⟨constructed_step met, constructed_prefixFree⟩

theorem presence_of_run_loginAsync : ∃ final,
    Relation.ReflTransGen (SessionStep .plain (keepsPresence .plain)) .initial final ∧
      Presence final.devices ∧ final.devices.entries = [0] := by
  obtain ⟨final, login, after⟩ := session_step (keepsPresence .plain) (.loginAsync 0)
    rfl (fun _ _ => rfl) (by decide +kernel)
  have run := (session_start trivial).trans login
  exact ⟨final, run, presence_of_run run, after ▸ rfl⟩

/-- A synchronous login that times out leaves the client listed and offline. -/
theorem loginSync_timeout_breaks_presence : ¬ ∀ config final,
    Relation.ReflTransGen (SessionStep config fun _ _ _ => True) .initial final →
      Presence final.devices := by
  intro always
  obtain ⟨final, login, after⟩ := session_step (fun _ _ _ => True) (.loginSync 0 1000)
    rfl trivial (by decide +kernel)
  have presence := always .plain final ((session_start trivial).trans login)
  rw [after] at presence
  have listed := (presence 0 rfl).mpr (by decide)
  exact absurd listed (by decide)

end IotstackDriver.Edge
