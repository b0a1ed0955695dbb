import IotstackDriver.Edge.DeviceCalls

/-! What a login or a logout that fails leaves of `conn_device_list` and of the session. -/

namespace IotstackDriver.Edge

open Libc Support

/-- One call of the login and logout operations. -/
inductive SessionCall where
  | loginSync (timeOutMs : UInt32)
  | logoutSync (timeOutMs : UInt32)
  | loginAsync
  | logoutAsync

namespace SessionCall

def program (config : DriverConfig) (client : Option Ref) : SessionCall → Program edge EdgeStatus
  | loginSync timeOutMs => edgeSubdevLoginSync config client timeOutMs
  | logoutSync timeOutMs => edgeSubdevLogoutSync config client timeOutMs
  | loginAsync => edgeSubdevLoginAsync config client
  | logoutAsync => edgeSubdevLogoutAsync config client

/-- The call among all the operations on clients. -/
def deviceCall (client : Ref) : SessionCall → DeviceCall
  | loginSync timeOutMs => .loginSync client timeOutMs
  | logoutSync timeOutMs => .logoutSync client timeOutMs
  | loginAsync => .loginAsync client
  | logoutAsync => .logoutAsync client

/-- The call has changed the list or the flag by the time it fails: the synchronous
operations change the list before the reply, the asynchronous ones the flag before
the list. -/
def failsLate (config : DriverConfig) (env : Env) (devices : Registry SubdevClient) (client : Ref) :
    SessionCall → Bool
  | loginSync _ =>
    env.syncSent && env.malloc (.listNode .connDevice) && env.retCode? config != some 0
  | logoutSync _ =>
    online devices client && env.syncSent && DeviceCall.delists env devices client &&
      env.retCode? config != some 0
  | loginAsync =>
    env.logInOutSent && !env.malloc (.listNode .connDevice) && !online devices client
  | logoutAsync =>
    online devices client && env.logInOutSent && !DeviceCall.delists env devices client

end SessionCall

/-- The list is the same, and so is the session flag of the client. -/
def SameSession (client : Option Ref) (before after : Registry SubdevClient) : Prop :=
  after.entries = before.entries ∧ ∀ own, client = some own → online after own = online before own

variable {config : DriverConfig} {env : Env} {checked : Prop} {world : World} {client : Ref}
  {devices : Registry SubdevClient}

theorem SameSession.refl (client : Option Ref) (devices : Registry SubdevClient) :
    SameSession client devices devices := ⟨rfl, fun _ _ => rfl⟩

theorem delisted_entries_eq_iff {own : SubdevClient} (found : devices.value? client = some own) :
    (env.delisted devices client own.deviceSn).entries = devices.entries ↔
      DeviceCall.delists env devices client = false := by
  cases allocated : env.malloc (.listIterator .connDevice) with
  | false => simp [delisted_failed allocated, DeviceCall.delists, allocated]
  | true =>
    rw [delisted_entries allocated, List.eraseP_eq_self_iff]
    simp [DeviceCall.delists, allocated, found, Registry.find?]

private theorem listed_entries_eq_iff (live : devices.live client = true) :
    (env.listed devices client).entries = devices.entries ↔
      env.malloc (.listNode .connDevice) = false := by
  rw [listed_entries (Registry.lt_of_live live)]
  cases env.malloc (.listNode .connDevice) <;> simp

private theorem loginSync_same_iff (timeOutMs : UInt32) (live : devices.live client = true)
    (failed : (DeviceCall.loginSync client timeOutMs).succeeds config env devices = false) :
    SameSession (some client) devices
        ((DeviceCall.loginSync client timeOutMs).devicesAfter config env devices) ↔
      (SessionCall.loginSync timeOutMs).failsLate config env devices client = false := by
  cases sent : env.syncSent with
  | false => simp [DeviceCall.devicesAfter, SessionCall.failsLate, sent, SameSession.refl]
  | true =>
    have refused : ¬ env.retCode? config = some 0 := by
      simpa [DeviceCall.succeeds, sent] using failed
    simp [DeviceCall.devicesAfter, SessionCall.failsLate, sent, refused, SameSession,
      listed_entries_eq_iff live]

private theorem logoutSync_same_iff (timeOutMs : UInt32) (live : devices.live client = true)
    (failed : (DeviceCall.logoutSync client timeOutMs).succeeds config env devices = false) :
    SameSession (some client) devices
        ((DeviceCall.logoutSync client timeOutMs).devicesAfter config env devices) ↔
      (SessionCall.logoutSync timeOutMs).failsLate config env devices client = false := by
  obtain ⟨own, found⟩ :=
    Option.isSome_iff_exists.mp (Registry.value?_isSome.mpr (Registry.lt_of_live live))
  have flag : online devices client = own.natsOnline := by simp [online, found]
  rw [DeviceCall.devicesAfter, found]
  cases sent : own.natsOnline && env.syncSent with
  | false => simp [SessionCall.failsLate, flag, sent, SameSession.refl]
  | true =>
    rw [Bool.and_eq_true] at sent
    have refused : ¬ env.retCode? config = some 0 := by
      simpa [DeviceCall.succeeds, flag, sent] using failed
    have same : SameSession (some client) devices (env.delisted devices client own.deviceSn) ↔
        DeviceCall.delists env devices client = false := by
      simp [SameSession, delisted_entries_eq_iff found]
    simp only [SessionCall.failsLate, flag, sent, Bool.and_self, Bool.true_and, ↓reduceIte]
    split
    · rename_i none
      simp [same, none]
    · contradiction
    · rename_i code coded
      simpa [SameSession, refused] using same

private theorem loginAsync_same_iff (live : devices.live client = true)
    (failed : (DeviceCall.loginAsync client).succeeds config env devices = false) :
    SameSession (some client) devices
        ((DeviceCall.loginAsync client).devicesAfter config env devices) ↔
      SessionCall.loginAsync.failsLate config env devices client = false := by
  cases sent : env.logInOutSent with
  | false => simp [DeviceCall.devicesAfter, SessionCall.failsLate, sent, SameSession.refl]
  | true =>
    have refused : env.malloc (.listNode .connDevice) = false := by
      simpa [DeviceCall.succeeds, sent] using failed
    have flagged : online (setFlag devices client true) client = true := by
      rw [online_setFlag (Registry.lt_of_live live), if_pos rfl]
    cases before : online devices client <;>
      simp [DeviceCall.devicesAfter, SessionCall.failsLate, sent, refused, Env.listed, SameSession,
        flagged, before]

private theorem logoutAsync_same_iff (live : devices.live client = true)
    (failed : (DeviceCall.logoutAsync client).succeeds config env devices = false) :
    SameSession (some client) devices
        ((DeviceCall.logoutAsync client).devicesAfter config env devices) ↔
      SessionCall.logoutAsync.failsLate config env devices client = false := by
  obtain ⟨own, found⟩ :=
    Option.isSome_iff_exists.mp (Registry.value?_isSome.mpr (Registry.lt_of_live live))
  have flag : online devices client = own.natsOnline := by simp [online, found]
  rw [DeviceCall.devicesAfter, found]
  cases sent : own.natsOnline && env.logInOutSent with
  | false => simp [SessionCall.failsLate, flag, sent, SameSession.refl]
  | true =>
    rw [Bool.and_eq_true] at sent
    have missed : DeviceCall.delists env devices client = false := by
      simpa [DeviceCall.succeeds, flag, sent] using failed
    have flagged : online (setFlag devices client false) client = false := by
      rw [online_setFlag (Registry.lt_of_live live), if_pos rfl]
    simp [SessionCall.failsLate, flag, sent, missed, SameSession, flagged]

/-- A failing call leaves the list and the flag as they were exactly when it did not fail late. -/
theorem sameSession_iff (call : SessionCall) (live : devices.live client = true)
    (failed : (call.deviceCall client).succeeds config env devices = false) :
    SameSession (some client) devices ((call.deviceCall client).devicesAfter config env devices) ↔
      call.failsLate config env devices client = false := by
  cases call with
  | loginSync timeOutMs => exact loginSync_same_iff timeOutMs live failed
  | logoutSync timeOutMs => exact logoutSync_same_iff timeOutMs live failed
  | loginAsync => exact loginAsync_same_iff live failed
  | logoutAsync => exact logoutAsync_same_iff live failed

/-- A call that fails late does fail. -/
theorem fails_of_failsLate (call : SessionCall)
    (late : call.failsLate config env devices client = true) :
    (call.deviceCall client).succeeds config env devices = false := by
  cases call <;> simp_all [SessionCall.failsLate, SessionCall.deviceCall, DeviceCall.succeeds]

theorem sessionCall_ends (call : SessionCall) (live : world.devices.live client = true) :
    Ends env False (call.program config (some client))
      (Leaves config env world.devices (call.deviceCall client)) world := by
  cases call with
  | loginSync timeOutMs => exact loginSync_ends timeOutMs live
  | logoutSync timeOutMs => exact logoutSync_ends timeOutMs live False.elim
  | loginAsync => exact loginAsync_ends live
  | logoutAsync => exact logoutAsync_ends live False.elim

/-- Without a client a call is refused at once. -/
theorem refused_ends (call : SessionCall) :
    Ends env False (call.program config none)
      (fun status final => status = .invalidArg ∧ final = world) world := by
  cases call <;> simp [SessionCall.program, edgeSubdevLoginSync, edgeSubdevLogoutSync,
    edgeSubdevLoginAsync, edgeSubdevLogoutAsync]

/-- A completed login or logout that does not return `EDGE_OK` leaves the list and the
client's flag as they were, exactly when it did not fail late. -/
theorem failedCall_unchanged_iff (config : DriverConfig) (env : Env) (world final : World)
    (status : EdgeStatus) (call : SessionCall) (client : Option Ref)
    (live : ∀ own, client = some own → world.devices.live own = true)
    (ran : (call.program config client).run (handle env) world = some (status, final)) :
    (status ≠ .ok → SameSession client world.devices final.devices) ↔
      ∀ own, client = some own → call.failsLate config env world.devices own = false := by
  cases client with
  | none =>
    obtain ⟨-, rfl⟩ := (refused_ends call).of_run (run_respond ran)
    constructor
    · intro _ own handed
      cases handed
    · intro _ _
      exact SameSession.refl none final.devices
  | some client =>
    obtain ⟨after, accepted⟩ := (sessionCall_ends call (live client rfl)).of_run (run_respond ran)
    rw [ne_eq, accepted, Bool.not_eq_true, after]
    constructor
    · intro kept own handed
      cases handed
      cases late : call.failsLate config env world.devices client with
      | false => rfl
      | true =>
        have failed := fails_of_failsLate call late
        exact late.symm.trans ((sameSession_iff call (live client rfl) failed).mp (kept failed))
    · intro early failed
      exact (sameSession_iff call (live client rfl) failed).mpr (early client rfl)

/-- A login whose publish fails changes nothing. -/
theorem failedCall_unchanged_iff_unsent : ∃ status final,
    ((SessionCall.loginSync 1000).program .plain (some 0)).run
      (handle { Env.calm with publishStatus := .err }) constructed = some (status, final) ∧
    status ≠ .ok ∧ SameSession (some 0) constructed.devices final.devices := by
  have completes : (((SessionCall.loginSync 1000).program .plain (some 0)).run
      (handle { Env.calm with publishStatus := .err }) constructed).map Prod.fst = some .err := by
    decide +kernel
  obtain ⟨⟨status, final⟩, ran, returned⟩ := Option.map_eq_some_iff.mp completes
  have failed : status ≠ .ok := by simp [show status = .err from returned]
  refine ⟨status, final, ran, failed, ?_⟩
  refine (failedCall_unchanged_iff _ _ _ final status _ _ constructed_live ran).mpr ?_ failed
  intro own handed
  cases handed
  decide +kernel

/-- A login that times out leaves the client listed. -/
theorem failed_login_keeps_entry : ¬ ∀ config env world final status (call : SessionCall) client,
    (∀ own, client = some own → world.devices.live own = true) →
    (call.program config client).run (handle env) world = some (status, final) →
    status ≠ .ok → SameSession client world.devices final.devices := by
  intro always
  have outcome : (((SessionCall.loginSync 1000).program .plain (some 0)).run (handle .calm)
      constructed).map (fun result => (result.1, result.2.devices.entries)) =
      some (.invalidTimeout, [0]) := by
    decide +kernel
  obtain ⟨⟨status, final⟩, ran, returned⟩ := Option.map_eq_some_iff.mp outcome
  obtain ⟨rfl, listed⟩ := Prod.mk.inj returned
  have same := (always _ _ _ final _ _ _ constructed_live ran (by simp)).1
  rw [listed] at same
  cases same

end IotstackDriver.Edge
