import IotstackDriver.Edge.DeviceCalls

/-! Which entry of `conn_device_list` a logout removes. -/

namespace IotstackDriver.Edge

open Libc Support

/-- The client whose removal step a logout comes to. -/
def DeviceCall.removes (env : Env) (devices : Registry SubdevClient) : DeviceCall → Option Ref
  | logoutSync client _ => if online devices client && env.syncSent then some client else none
  | logoutAsync client => if online devices client && env.logInOutSent then some client else none
  | _ => none

/-- The client's entry is gone and its object released; the other entries keep their
order and the other objects their state. -/
def OwnRemoved (client : Ref) (before after : Registry SubdevClient) : Prop :=
  after.entries = before.entries.erase client ∧
    ∀ ref, after.live ref = (before.live ref && !decide (ref = client))

/-- No client listed earlier has a serial number that begins with the client's own. -/
def NoEarlierMatch (client : Ref) (devices : Registry SubdevClient) : Prop :=
  ∀ own, serial devices client = some own → ∀ ref ∈ devices.entries.takeWhile (· != client),
    ∀ other, serial devices ref = some other → ¬ own.bytes <+: other.bytes

variable {config : DriverConfig} {env : Env} {devices : Registry SubdevClient} {client : Ref}
  {deviceSn : CString}

theorem own_matches (found : serial devices client = some deviceSn) :
    devices.matching (subdevClientMatch deviceSn) client = true := by
  simp [matching_eq, found, strncmp_strlen_eq_zero_iff]

theorem noEarlierMatch_iff (found : serial devices client = some deviceSn) :
    NoEarlierMatch client devices ↔ ∀ earlier ∈ devices.entries.takeWhile (· != client),
      devices.matching (subdevClientMatch deviceSn) earlier = false := by
  constructor
  · intro none earlier member
    rw [matching_eq, Option.any_eq_false]
    intro other same
    simpa [strncmp_strlen_eq_zero_iff] using none deviceSn found earlier member other same
  · intro unmatched own same earlier member other otherSame
    cases found.symm.trans same
    have miss := unmatched earlier member
    rw [matching_eq, otherSame] at miss
    simpa [strncmp_strlen_eq_zero_iff] using miss

/-- The removal step takes the client's own entry exactly when no earlier one matches. -/
private theorem delisted_own_iff (found : serial devices client = some deviceSn)
    (once : devices.entries.count client = 1)
    (allocated : env.malloc (.listIterator .connDevice) = true) :
    OwnRemoved client devices (env.delisted devices client deviceSn) ↔
      NoEarlierMatch client devices := by
  have hit := own_matches found
  have removed : (env.delisted devices client deviceSn).entries =
      (devices.remove (subdevClientMatch deviceSn)).entries := by
    rw [delisted_entries allocated, Registry.remove_entries]
  rw [OwnRemoved, removed, Registry.remove_entries_erase_iff once hit, noEarlierMatch_iff found]
  refine ⟨fun own => own.1, fun unmatched => ⟨unmatched, fun ref => ?_⟩⟩
  rw [delisted_live allocated, Registry.find?_of_unmatched once hit unmatched]
  simp [eq_comm]

private theorem logout_own_iff (call : DeviceCall) (found : serial devices client = some deviceSn)
    (removes : call.removes env devices = some client)
    (once : devices.entries.count client = 1)
    (allocated : env.malloc (.listIterator .connDevice) = true) :
    OwnRemoved client devices (call.devicesAfter config env devices) ↔
      NoEarlierMatch client devices := by
  obtain ⟨own, present, same⟩ := Option.map_eq_some_iff.mp found
  rw [← delisted_own_iff found once allocated]
  cases call with
  | logoutSync target timeOutMs =>
    simp only [DeviceCall.removes] at removes
    split at removes
    · rename_i ready
      cases removes
      simp only [online, present, Option.any_some] at ready
      simp only [DeviceCall.devicesAfter, present, ready, ↓reduceIte, same]
      split <;> simp [OwnRemoved]
    · cases removes
  | logoutAsync target =>
    simp only [DeviceCall.removes] at removes
    split at removes
    · rename_i ready
      cases removes
      simp only [online, present, Option.any_some] at ready
      simp only [DeviceCall.devicesAfter, present, ready, ↓reduceIte, same]
      simp [OwnRemoved, delisted_entries allocated, delisted_live allocated]
    · cases removes
  | _ => cases removes

theorem client?_of_removes {call : DeviceCall} (removes : call.removes env devices = some client) :
    call.client? = some client := by
  cases call with
  | logoutSync target timeOutMs =>
    simp only [DeviceCall.removes, Option.ite_none_right_eq_some] at removes
    exact removes.2
  | logoutAsync target =>
    simp only [DeviceCall.removes, Option.ite_none_right_eq_some] at removes
    exact removes.2
  | _ => cases removes

/-- A logout's removal step, taken from any state, and every completed logout that
comes to it: a client listed once loses its own entry exactly when no client listed
earlier has a serial number that begins with its own. -/
theorem removal_own_iff (config : DriverConfig) :
    (∀ env world status final client, (serial world.devices client).isSome = true →
      world.devices.entries.count client = 1 →
      env.malloc (.listIterator .connDevice) = true →
      (removeFromList .connDevice client).run (handle env) world = some (status, final) →
      (OwnRemoved client world.devices final.devices ↔ NoEarlierMatch client world.devices)) ∧
    (∀ env world final (call : DeviceCall) client, world.devices.live client = true →
      call.removes env world.devices = some client →
      world.devices.entries.count client = 1 →
      env.malloc (.listIterator .connDevice) = true →
      (call.program config).run (handle env) world = some ((), final) →
      (OwnRemoved client world.devices final.devices ↔ NoEarlierMatch client world.devices)) := by
  constructor
  · intro env world status final client present once allocated ran
    obtain ⟨deviceSn, found⟩ := Option.isSome_iff_exists.mp present
    have step : Ends env False (removeFromList .connDevice client)
        (fun _ final => final.devices = env.delisted world.devices client deviceSn) world := by
      refine removeFromList_connDevice_ends fun own _ same _ => ⟨False.elim, ?_⟩
      have key : own.deviceSn = deviceSn := by simpa [serial, same] using found
      rw [key]
    rw [step.of_run (run_respond ran)]
    exact delisted_own_iff found once allocated
  · intro env world final call client live removes once allocated ran
    have present : (world.devices.value? client).isSome = true :=
      Registry.value?_isSome.mpr (Registry.lt_of_live live)
    obtain ⟨own, present⟩ := Option.isSome_iff_exists.mp present
    have found : serial world.devices client = some own.deviceSn := by simp [serial, present]
    have ends : Ends env False (call.program config) _ world :=
      deviceCall_devices call (fun target handed => by
        cases (client?_of_removes removes).symm.trans handed
        exact live) False.elim
    rw [ends.of_run (run_respond ran)]
    exact logout_own_iff call found removes once allocated

/-- Two devices are logged in, the second with a serial number the first begins with. -/
private def twoLogins : List (Env × DeviceCall) := [
  (.calm, .construct (some (.literal "p1")) (some (.literal "dev10")) (some 1) none),
  (.calm, .construct (some (.literal "p1")) (some (.literal "dev1")) (some 2) none),
  (.calm, .loginAsync 0),
  (.calm, .loginAsync 1)]

/-- The logout of the second client drops the entry of the first. -/
private theorem twoLogins_logout : ∃ world final,
    runCalls .plain twoLogins .initial = some world ∧
      ((DeviceCall.logoutAsync 1).program .plain).run (handle .calm) world = some ((), final) ∧
      world.devices.entries = [0, 1] ∧ world.devices.live 1 = true ∧
      (DeviceCall.logoutAsync 1).removes .calm world.devices = some 1 ∧
      final.devices.entries = [1] := by
  have outcome : ((runCalls .plain twoLogins .initial).bind fun world =>
      (((DeviceCall.logoutAsync 1).program .plain).run (handle .calm) world).map fun result =>
        (world.devices.entries, world.devices.live 1,
          (DeviceCall.logoutAsync 1).removes .calm world.devices, result.2.devices.entries)) =
      some ([0, 1], true, some 1, [1]) := by
    decide +kernel
  obtain ⟨world, reached, outcome⟩ := Option.bind_eq_some_iff.mp outcome
  obtain ⟨⟨_, final⟩, ran, outcome⟩ := Option.map_eq_some_iff.mp outcome
  simp only [Prod.mk.injEq] at outcome
  exact ⟨world, final, reached, ran, outcome⟩

theorem removal_own_iff_twoLogins : ∃ world final,
    runCalls .plain twoLogins .initial = some world ∧
      ((DeviceCall.logoutAsync 1).program .plain).run (handle .calm) world = some ((), final) ∧
      (OwnRemoved 1 world.devices final.devices ↔ NoEarlierMatch 1 world.devices) := by
  obtain ⟨world, final, reached, ran, entries, live, removes, _⟩ := twoLogins_logout
  exact ⟨world, final, reached, ran, (removal_own_iff .plain).2 .calm world final (.logoutAsync 1) 1
    live removes (by rw [entries]; decide) rfl ran⟩

theorem logoutAsync_removes_other :
    ¬ ∀ config calls env world final (call : DeviceCall) client,
      runCalls config calls .initial = some world → world.devices.live client = true →
      call.removes env world.devices = some client →
      world.devices.entries.count client = 1 →
      env.malloc (.listIterator .connDevice) = true →
      (call.program config).run (handle env) world = some ((), final) →
      OwnRemoved client world.devices final.devices := by
  intro always
  obtain ⟨world, final, reached, ran, entries, live, removes, left⟩ := twoLogins_logout
  have own := always .plain twoLogins .calm world final (.logoutAsync 1) 1 reached live removes
    (by rw [entries]; decide) rfl ran
  rw [OwnRemoved, left, entries] at own
  exact absurd own.1 (by decide)

end IotstackDriver.Edge
