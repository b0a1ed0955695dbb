import IotstackDriver.Edge.Removal

/-! Accesses to clients against their release by the removal step of a logout. -/

namespace IotstackDriver.Edge

open Libc Support

/-- The client whose entry a logout's removal step takes. -/
def DeviceCall.victim (env : Env) (devices : Registry SubdevClient) (call : DeviceCall) :
    Option Ref := do
  let client ← call.removes env devices
  let deviceSn ← serial devices client
  if env.malloc (.listIterator .connDevice) then
    devices.find? (subdevClientMatch deviceSn)
  else none

/-- The call goes on to read the client by the code of a reply. -/
def DeviceCall.readsAfterRemoval (config : DriverConfig) (env : Env) : DeviceCall → Bool
  | logoutSync _ _ => (env.retCode? config).isSome
  | _ => false

/-- The released client is listed only once, and is not the caller's own when the call
still has to go by the code of a reply. -/
def releasesSafely (config : DriverConfig) (env : Env) (devices : Registry SubdevClient)
    (call : DeviceCall) : Prop :=
  ∀ victim, call.victim env devices = some victim → devices.entries.count victim = 1 ∧
    (call.client? = some victim → call.readsAfterRemoval config env = false)

/-- Every entry refers to a live client. -/
def EntriesLive (devices : Registry SubdevClient) : Prop :=
  ∀ ref ∈ devices.entries, devices.live ref = true

variable {config : DriverConfig} {env : Env} {devices : Registry SubdevClient} {client : Ref}
  {deviceSn : CString}

/-- A removal on behalf of a live client accesses live clients only. -/
private theorem delisted_misuse (entries : EntriesLive devices)
    (live : devices.live client = true) :
    (env.delisted devices client deviceSn).misuse = devices.misuse := by
  unfold Env.delisted extractFromList
  split
  · rw [Registry.remove_misuse, Registry.touchAll_of_live]
    intro ref member
    obtain ⟨entry, visited, same⟩ := List.mem_flatMap.mp member
    rcases List.mem_pair.mp same with own | other
    · exact own ▸ live
    · exact other ▸ entries entry (Registry.visited_subset visited)
  · rfl

private theorem delisted_entriesLive (entries : EntriesLive devices)
    (once : env.malloc (.listIterator .connDevice) = true → ∀ victim,
      devices.find? (subdevClientMatch deviceSn) = some victim → devices.entries.count victim = 1) :
    EntriesLive (env.delisted devices client deviceSn) := by
  cases allocated : env.malloc (.listIterator .connDevice) with
  | false =>
    rw [delisted_failed allocated]
    exact entries
  | true =>
    intro ref member
    rw [delisted_entries allocated] at member
    have kept : ¬ devices.find? (subdevClientMatch deviceSn) = some ref := by
      intro found
      rw [← Registry.remove_entries] at member
      exact Registry.not_mem_remove found (once allocated ref found) member
    simp [delisted_live allocated, kept, entries ref (List.mem_of_mem_eraseP member)]

private theorem EntriesLive.setFlag (entries : EntriesLive devices) (flag : Bool) :
    EntriesLive (setFlag devices client flag) := by
  intro ref member
  rw [setFlag_live]
  exact entries ref member

private theorem EntriesLive.touch (entries : EntriesLive devices) :
    EntriesLive (devices.touch client) := by
  intro ref member
  rw [Registry.touch_live]
  exact entries ref (by simpa using member)

private theorem EntriesLive.listed (entries : EntriesLive devices)
    (live : devices.live client = true) : EntriesLive (env.listed devices client) := by
  intro ref member
  rw [listed_entries (Registry.lt_of_live live)] at member
  rw [listed_live]
  rcases List.mem_append.mp member with older | new
  · exact entries ref older
  · split at new <;> simp_all

private theorem victim_of_removes {call : DeviceCall} {own : SubdevClient}
    (removes : call.removes env devices = some client)
    (present : devices.value? client = some own) : call.victim env devices =
      if env.malloc (.listIterator .connDevice) then
        devices.find? (subdevClientMatch own.deviceSn)
      else none := by
  simp [DeviceCall.victim, removes, serial, present]

private theorem victim_once {call : DeviceCall} {own : SubdevClient}
    (safe : releasesSafely config env devices call)
    (removes : call.removes env devices = some client)
    (present : devices.value? client = some own)
    (allocated : env.malloc (.listIterator .connDevice) = true) (victim : Ref)
    (found : devices.find? (subdevClientMatch own.deviceSn) = some victim) :
    devices.entries.count victim = 1 ∧
      (call.client? = some victim → call.readsAfterRemoval config env = false) := by
  apply safe victim
  rw [victim_of_removes removes present, if_pos allocated, found]

/-- Under the condition a call on a live client reaches live clients only. -/
private theorem accessesLive_of_safe (call : DeviceCall) (entries : EntriesLive devices)
    (live : ∀ client, call.client? = some client → devices.live client = true)
    (safe : releasesSafely config env devices call) : call.accessesLive config env devices := by
  cases call with
  | logoutSync client timeOutMs =>
    intro own present flag sent
    refine ⟨delisted_misuse entries (live client rfl), fun coded => ?_⟩
    cases allocated : env.malloc (.listIterator .connDevice) with
    | false =>
      rw [delisted_failed allocated]
      exact live client rfl
    | true =>
      have removes : (DeviceCall.logoutSync client timeOutMs).removes env devices = some client := by
        simp [DeviceCall.removes, online, present, flag, sent]
      have kept : ¬ devices.find? (subdevClientMatch own.deviceSn) = some client := by
        intro found
        have silent := (victim_once safe removes present allocated client found).2 rfl
        rw [DeviceCall.readsAfterRemoval, coded] at silent
        cases silent
      simp [delisted_live allocated, kept, live client rfl]
  | logoutAsync client =>
    intro own present flag sent
    exact delisted_misuse (entries.setFlag false) (by simpa using live client rfl)
  | _ => trivial

/-- What one call keeps. -/
private theorem entriesLive_step (call : DeviceCall) (entries : EntriesLive devices)
    (live : ∀ client, call.client? = some client → devices.live client = true)
    (safe : releasesSafely config env devices call) :
    EntriesLive (call.devicesAfter config env devices) := by
  cases call with
  | construct productSn deviceSn normalMsgHandle rrpcMsgHandle =>
    unfold DeviceCall.devicesAfter
    split
    · split
      · intro ref member
        simp [Registry.alloc_live, entries ref member]
      · exact entries
    · exact entries
    all_goals contradiction
  | loginSync client timeOutMs =>
    rw [DeviceCall.devicesAfter]
    split
    · split
      · exact (entries.listed (live client rfl)).setFlag true
      · exact entries.listed (live client rfl)
    · exact entries
  | loginAsync client =>
    rw [DeviceCall.devicesAfter]
    split
    · exact (entries.setFlag true).listed (by simpa using live client rfl)
    · exact entries
  | dynamicAuth client productSecret timeOutMs =>
    rw [DeviceCall.devicesAfter]
    split
    · exact entries.setFlag true
    · exact entries
  | logoutSync client timeOutMs =>
    rw [DeviceCall.devicesAfter]
    split
    · exact entries
    · rename_i own present
      split
      · rename_i ready
        have removes : (DeviceCall.logoutSync client timeOutMs).removes env devices = some client := by
          simp only [DeviceCall.removes, online, present, Option.any_some, ready, ↓reduceIte]
        have left : EntriesLive (env.delisted devices client own.deviceSn) :=
          delisted_entriesLive entries fun allocated victim found =>
            (victim_once safe removes present allocated victim found).1
        dsimp only
        split
        · exact left
        · exact (left.touch.setFlag false).touch
        · exact left.touch
      · exact entries
  | logoutAsync client =>
    rw [DeviceCall.devicesAfter]
    split
    · exact entries
    · rename_i own present
      split
      · rename_i ready
        have removes : (DeviceCall.logoutAsync client).removes env devices = some client := by
          simp only [DeviceCall.removes, online, present, Option.any_some, ready, ↓reduceIte]
        refine delisted_entriesLive (entries.setFlag false) fun allocated victim found => ?_
        rw [find?_setFlag] at found
        exact (victim_once safe removes present allocated victim found).1
      · exact entries

/-- In every run whose calls meet the condition, every entry of `conn_device_list`
refers to a live client, and no call, finished or not, has accessed a released one. -/
theorem lifetime_of_run {config : DriverConfig} {world : World}
    (run : Relation.ReflTransGen (DeviceStep config (releasesSafely config)) .initial world) :
    EntriesLive world.devices ∧ world.devices.misuse = [] ∧
      ∀ env (call : DeviceCall),
        (∀ client, call.client? = some client → world.devices.live client = true) →
        releasesSafely config env world.devices call →
        ((call.program config).reached (handle env) world).devices.misuse = [] := by
  have checkedCall : ∀ {world : World}, EntriesLive world.devices → world.devices.misuse = [] →
      ∀ env (call : DeviceCall),
        (∀ client, call.client? = some client → world.devices.live client = true) →
        releasesSafely config env world.devices call →
        ((call.program config).reached (handle env) world).devices.misuse = [] := by
    intro world entries clean env call live safe
    have ends : Ends env True (call.program config) _ world :=
      deviceCall_devices call live fun _ => accessesLive_of_safe call entries live safe
    exact ends.misuse clean
  have invariant : EntriesLive world.devices ∧ world.devices.misuse = [] := by
    induction run with
    | refl => exact ⟨fun ref member => absurd member List.not_mem_nil, rfl⟩
    | tail _ last ih =>
      obtain ⟨entries, clean⟩ := ih
      obtain ⟨env, call, live, safe, ran⟩ := last
      have ends : Ends env False (call.program config) _ _ :=
        deviceCall_devices call live False.elim
      constructor
      · rw [ends.of_run (run_respond ran)]
        exact entriesLive_step call entries live safe
      · rw [← Program.reached_of_run ran]
        exact checkedCall entries clean env call live safe
  exact ⟨invariant.1, invariant.2, checkedCall invariant.1 invariant.2⟩

theorem lifetime_of_run_constructed :
    EntriesLive constructed.devices ∧
      (((DeviceCall.loginAsync 0).program .plain).reached (handle .calm)
        constructed).devices.misuse = [] := by
  have safe : ∀ devices call, DeviceCall.removes .calm devices call = none →
      releasesSafely .plain .calm devices call := by
    intro devices call none victim taken
    simp [DeviceCall.victim, none] at taken
  have started : DeviceStep .plain (releasesSafely .plain) .initial constructed :=
    constructed_step (safe _ _ rfl)
  have run := lifetime_of_run (.single started)
  exact ⟨run.1, run.2.2 .calm (.loginAsync 0) constructed_live (safe _ _ rfl)⟩

private def acceptedReply : Bytes := ascii "\x7b\"RetCode\": 0\x7d"

/-- A driver whose parser knows one reply. -/
private def acceptingConfig : DriverConfig :=
  { DriverConfig.plain with
    cJsonParse := fun text =>
      if text = acceptedReply then some (.object [(.literal "RetCode", .number 0)]) else none }

private def acceptingEnv : Env := { Env.calm with look := fun _ _ => acceptedReply }

/-- A synchronous logout that is accepted writes to the client its removal step released. -/
theorem logoutSync_accesses_released : ¬ ∀ config world,
    Relation.ReflTransGen (DeviceStep config fun _ _ _ => True) .initial world →
      EntriesLive world.devices ∧ world.devices.misuse = [] := by
  intro always
  have outcome : (runCalls acceptingConfig [(.calm, constructCall), (.calm, .loginAsync 0),
      (acceptingEnv, .logoutSync 0 1000)] .initial).map (fun world => world.devices.misuse) =
      some [0, 0] := by
    decide +kernel
  obtain ⟨world, ran, misused⟩ := Option.map_eq_some_iff.mp outcome
  have clean := (always acceptingConfig world (runCalls_steps _ ran)).2
  rw [misused] at clean
  cases clean

end IotstackDriver.Edge
