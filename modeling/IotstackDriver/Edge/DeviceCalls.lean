import IotstackDriver.Edge.Calls
import Mathlib.Logic.Relation

/-! What the operations on clients do to the clients and to `conn_device_list`, for a
client that is live when the call starts. -/

namespace IotstackDriver.Edge

open Libc Support

/-- One call of an operation on clients. -/
inductive DeviceCall where
  | construct (productSn deviceSn : Option CString) (normalMsgHandle rrpcMsgHandle : Option HandlerPtr)
  | loginSync (client : Ref) (timeOutMs : UInt32)
  | logoutSync (client : Ref) (timeOutMs : UInt32)
  | loginAsync (client : Ref)
  | logoutAsync (client : Ref)
  | dynamicAuth (client : Ref) (productSecret : Option CString) (timeOutMs : UInt32)

namespace DeviceCall

def program (config : DriverConfig) : DeviceCall → Program edge Unit
  | construct productSn deviceSn normalMsgHandle rrpcMsgHandle => do
    let _ ← edgeSubdevConstruct productSn deviceSn normalMsgHandle rrpcMsgHandle
  | loginSync client timeOutMs => do let _ ← edgeSubdevLoginSync config (some client) timeOutMs
  | logoutSync client timeOutMs => do let _ ← edgeSubdevLogoutSync config (some client) timeOutMs
  | loginAsync client => do let _ ← edgeSubdevLoginAsync config (some client)
  | logoutAsync client => do let _ ← edgeSubdevLogoutAsync config (some client)
  | dynamicAuth client productSecret timeOutMs => do
    let _ ← edgeSubdevDynamicAuth config (some client) productSecret timeOutMs

/-- The client handed to the call. -/
def client? : DeviceCall → Option Ref
  | construct .. => none
  | loginSync client _ => some client
  | logoutSync client _ => some client
  | loginAsync client => some client
  | logoutAsync client => some client
  | dynamicAuth client _ _ => some client

end DeviceCall

/-- The session flag the logout operations go by. -/
def online (devices : Registry SubdevClient) (client : Ref) : Bool :=
  (devices.value? client).any SubdevClient.natsOnline

/-- A synchronous login or logout gets its request out. -/
def Env.syncSent (env : Env) : Bool := env.entryAllocated && env.logInOutSent

/-- The flag written, as the operations do after reading the client. -/
def setFlag (devices : Registry SubdevClient) (client : Ref) (flag : Bool) : Registry SubdevClient :=
  devices.modify client fun own => own.withOnline flag

def Env.listed (env : Env) (devices : Registry SubdevClient) (client : Ref) :
    Registry SubdevClient :=
  if env.malloc (.listNode .connDevice) then devices.push client else devices

/-- Registration succeeds as far as the device is concerned. -/
def Env.registrationAccepted (config : DriverConfig) (env : Env) (productSecret : Option CString) :
    Bool :=
  productSecret.isSome && env.entryAllocated && env.allocated Env.dynRegBuffers && env.sent &&
    env.retCode? config == some 0

namespace DeviceCall

/-- The clients and the list a completed call leaves. -/
def devicesAfter (config : DriverConfig) (env : Env) (devices : Registry SubdevClient) :
    DeviceCall → Registry SubdevClient
  | construct (some productSn) (some deviceSn) (some handler) rrpcMsgHandle =>
    if env.malloc .subdevClient then
      devices.alloc (.constructed productSn deviceSn handler rrpcMsgHandle)
    else devices
  | construct .. => devices
  | loginSync client _ =>
    if env.syncSent then
      if env.retCode? config = some 0 then setFlag (env.listed devices client) client true
      else env.listed devices client
    else devices
  | logoutSync client _ =>
    match devices.value? client with
    | none => devices
    | some own =>
      if own.natsOnline && env.syncSent then
        let left := env.delisted devices client own.deviceSn
        match env.retCode? config with
        | none => left
        | some 0 => (setFlag (left.touch client) client false).touch client
        | some _ => left.touch client
      else devices
  | loginAsync client =>
    if env.logInOutSent then env.listed (setFlag devices client true) client else devices
  | logoutAsync client =>
    match devices.value? client with
    | none => devices
    | some own =>
      if own.natsOnline && env.logInOutSent then
        env.delisted (setFlag devices client false) client own.deviceSn
      else devices
  | dynamicAuth client productSecret _ =>
    if env.registrationAccepted config productSecret then setFlag devices client true else devices

/-- The removal step of a logout finds an entry. -/
def delists (env : Env) (devices : Registry SubdevClient) (client : Ref) : Bool :=
  env.malloc (.listIterator .connDevice) && (devices.value? client).any fun own =>
    (devices.find? (subdevClientMatch own.deviceSn)).isSome

/-- A completed call returns `EDGE_OK`. A construction returns no status. -/
def succeeds (config : DriverConfig) (env : Env) (devices : Registry SubdevClient) :
    DeviceCall → Bool
  | construct .. => true
  | loginSync .. => env.syncSent && env.retCode? config == some 0
  | logoutSync client _ =>
    !online devices client || env.syncSent && env.retCode? config == some 0
  | loginAsync _ => env.logInOutSent && env.malloc (.listNode .connDevice)
  | logoutAsync client => !online devices client || env.logInOutSent && delists env devices client
  | dynamicAuth _ productSecret _ => env.registrationAccepted config productSecret

/-- The removal step of a logout, and what follows it, reach no released client. -/
def accessesLive (config : DriverConfig) (env : Env) (devices : Registry SubdevClient) :
    DeviceCall → Prop
  | logoutSync client _ => ∀ own, devices.value? client = some own → own.natsOnline = true →
      env.syncSent = true →
      (env.delisted devices client own.deviceSn).misuse = devices.misuse ∧
        ((env.retCode? config).isSome = true →
          (env.delisted devices client own.deviceSn).live client = true)
  | logoutAsync client => ∀ own, devices.value? client = some own → own.natsOnline = true →
      env.logInOutSent = true →
      (env.delisted (setFlag devices client false) client own.deviceSn).misuse = devices.misuse
  | _ => True

end DeviceCall

variable {config : DriverConfig} {env : Env} {checked : Prop} {world final : World} {client : Ref}

section Searches

variable {devices : Registry SubdevClient} {flag : Bool} {deviceSn : CString}

/-- The serial number of a client, which no call changes. -/
def serial (devices : Registry SubdevClient) (client : Ref) : Option CString :=
  (devices.value? client).map SubdevClient.deviceSn

@[simp] theorem serial_touch : serial (devices.touch client) ref = serial devices ref := by
  simp [serial]

@[simp] theorem serial_setFlag : serial (setFlag devices client flag) ref = serial devices ref := by
  rw [serial, setFlag, Registry.modify_value?]
  split
  · simp [serial, Function.comp_def, SubdevClient.withOnline]
  · rfl

/-- Searches go by the serial number only. -/
theorem matching_eq (ref : Ref) : devices.matching (subdevClientMatch deviceSn) ref =
    (serial devices ref).any fun other => strncmp deviceSn other deviceSn.strlen == 0 := by
  rw [Registry.matching, serial]
  cases devices.value? ref <;> rfl

@[simp] theorem matching_setFlag : (setFlag devices client flag).matching (subdevClientMatch deviceSn) =
    devices.matching (subdevClientMatch deviceSn) := by
  funext ref
  rw [matching_eq, matching_eq, serial_setFlag]

@[simp] theorem find?_setFlag : (setFlag devices client flag).find? (subdevClientMatch deviceSn) =
    devices.find? (subdevClientMatch deviceSn) := by
  rw [Registry.find?, Registry.find?, matching_setFlag]
  rfl

end Searches

private theorem construct_devices (productSn deviceSn : Option CString)
    (normalMsgHandle rrpcMsgHandle : Option HandlerPtr) :
    Ends env checked (edgeSubdevConstruct productSn deviceSn normalMsgHandle rrpcMsgHandle)
      (fun _ final => final.devices =
        (DeviceCall.construct productSn deviceSn normalMsgHandle rrpcMsgHandle).devicesAfter config
          env world.devices) world := by
  cases productSn <;> cases deviceSn <;> cases normalMsgHandle <;>
    cases allocated : env.malloc .subdevClient <;>
    simp [edgeSubdevConstruct, DeviceCall.devicesAfter, allocated]

/-- What a call returns and leaves. -/
def Leaves (config : DriverConfig) (env : Env) (devices : Registry SubdevClient) (call : DeviceCall)
    (status : EdgeStatus) (final : World) : Prop :=
  final.devices = call.devicesAfter config env devices ∧
    (status = .ok ↔ call.succeeds config env devices = true)

theorem loginSync_ends (timeOutMs : UInt32) (live : world.devices.live client = true) :
    Ends env checked (edgeSubdevLoginSync config (some client) timeOutMs)
      (Leaves config env world.devices (.loginSync client timeOutMs)) world := by
  refine withRequest_ends (fun refused => by
    simp [Leaves, DeviceCall.devicesAfter, DeviceCall.succeeds, Env.syncSent, refused])
    fun allocated => ?_
  rw [ends_bind]
  refine logInOut_ends (fun _ => live) fun status devices sent same => ?_
  cases same live
  rw [ends_ite]
  split
  · rename_i failed
    have unsent : env.syncSent = false := by simpa [Env.syncSent, allocated, failed] using sent
    simp [Leaves, DeviceCall.devicesAfter, DeviceCall.succeeds, unsent, failed]
  · rename_i fine
    have sent : env.syncSent = true := by
      simpa [Env.syncSent, allocated] using sent.mp (by simpa using fine)
    rw [ends_bind]
    refine addToList_connDevice_ends fun _ _ => ?_
    change Ends env checked _ _ ⟨_, env.listed world.devices client⟩
    have listedLive : (env.listed world.devices client).live client = true := by
      unfold Env.listed
      split <;> simpa using live
    refine awaitRetCode_registered (by rfl) (fun noCode status failed => ?_) (fun zero => ?_)
      (fun code found other => ?_)
    · simp [Leaves, DeviceCall.devicesAfter, DeviceCall.succeeds, sent, noCode, failed]
    · simp [Leaves, DeviceCall.devicesAfter, DeviceCall.succeeds, sent, zero, listedLive,
        Registry.touch_of_live, setFlag]
    · simp [Leaves, DeviceCall.devicesAfter, DeviceCall.succeeds, sent, found, other, listedLive,
        Registry.touch_of_live]

theorem loginAsync_ends (live : world.devices.live client = true) :
    Ends env checked (edgeSubdevLoginAsync config (some client))
      (Leaves config env world.devices (.loginAsync client)) world := by
  simp only [edgeSubdevLoginAsync, ends_bind, genRequestid_ends]
  refine logInOut_ends (fun _ => live) fun status devices sent same => ?_
  cases same live
  rw [ends_ite]
  split
  · rename_i failed
    have unsent : env.logInOutSent = false := by simpa [failed] using sent
    simp [Leaves, DeviceCall.devicesAfter, DeviceCall.succeeds, unsent, failed]
  · rename_i fine
    have sent : env.logInOutSent = true := sent.mp (by simpa using fine)
    have flagged : (setFlag world.devices client true).live client = true := by
      simpa [setFlag] using live
    simp only [ends_bind, ends_setOnline, ends_readClient, ends_logWrite,
      Registry.touch_of_live live]
    refine fun _ => ⟨fun _ => live, fun own _ => ⟨fun _ => flagged, ?_⟩⟩
    change Ends env checked _ _ ⟨_, (setFlag world.devices client true).touch client⟩
    rw [Registry.touch_of_live flagged]
    refine addToList_connDevice_ends fun status listed => ?_
    simp [Leaves, DeviceCall.devicesAfter, DeviceCall.succeeds, sent, Env.listed, listed]

theorem dynamicAuth_ends (productSecret : Option CString) (timeOutMs : UInt32)
    (live : world.devices.live client = true) :
    Ends env checked (edgeSubdevDynamicAuth config (some client) productSecret timeOutMs)
      (Leaves config env world.devices (.dynamicAuth client productSecret timeOutMs)) world := by
  cases productSecret with
  | none =>
    simp [edgeSubdevDynamicAuth, Leaves, DeviceCall.devicesAfter, DeviceCall.succeeds,
      Env.registrationAccepted]
  | some productSecret =>
    simp only [edgeSubdevDynamicAuth, ends_bind, genRequestid_ends, msgParseStrInit_ends]
    cases created : env.entryAllocated with
    | false =>
      simp [Leaves, DeviceCall.devicesAfter, DeviceCall.succeeds, Env.registrationAccepted, created]
    | true =>
      simp only [↓reduceIte]
      refine addToList_requestid_ends fun _ => ?_
      change Ends env checked _ _ ⟨env.registered world.requests, world.devices⟩
      refine dynRegPublish_ends (fun _ => live) (fun refused devices same => ?_)
        (fun allocated status devices sent same => ?_)
      · cases same live
        simp [Leaves, DeviceCall.devicesAfter, DeviceCall.succeeds, Env.registrationAccepted, refused]
      · cases same live
        simp only [ends_bind]
        have replied : Ends env checked
            (dynRegReply config client world.requests.size status timeOutMs)
            (fun status final => final.requests = env.registered world.requests ∧
              Leaves config env world.devices (.dynamicAuth client (some productSecret) timeOutMs)
                status final)
            ⟨env.registered world.requests, world.devices⟩ := by
          rw [dynRegReply, ends_ite]
          split
          · rename_i failed
            have unsent : env.sent = false := by simpa [failed] using sent
            simp [Leaves, DeviceCall.devicesAfter, DeviceCall.succeeds, Env.registrationAccepted,
              unsent, failed]
          · rename_i fine
            have sent : env.sent = true := sent.mp (by simpa using fine)
            refine awaitRetCode_registered (by rfl) (fun noCode status failed => ?_) (fun zero => ?_)
              (fun code found other => ?_)
            · simp [Leaves, DeviceCall.devicesAfter, DeviceCall.succeeds, Env.registrationAccepted,
                noCode, failed]
            · simp [Leaves, DeviceCall.devicesAfter, DeviceCall.succeeds, Env.registrationAccepted,
                created, allocated, sent, zero, live, Registry.touch_of_live, setFlag]
            · simp [Leaves, DeviceCall.devicesAfter, DeviceCall.succeeds, Env.registrationAccepted,
                found, other, live, Registry.touch_of_live]
        refine replied.weaken fun status final ended => ?_
        obtain ⟨sameRequests, after⟩ := ended
        refine removeFromList_requestid_ends (by simp [sameRequests, registered_value?]) fun _ => ?_
        simpa [Leaves] using after

theorem logoutSync_ends (timeOutMs : UInt32) (live : world.devices.live client = true)
    (safe : checked → (DeviceCall.logoutSync client timeOutMs).accessesLive config env world.devices) :
    Ends env checked (edgeSubdevLogoutSync config (some client) timeOutMs)
      (Leaves config env world.devices (.logoutSync client timeOutMs)) world := by
  simp only [edgeSubdevLogoutSync, ends_bind, ends_readClient, Registry.touch_of_live live]
  refine fun own found => ⟨fun _ => live, ?_⟩
  cases flag : own.natsOnline with
  | false => simp [Leaves, DeviceCall.devicesAfter, DeviceCall.succeeds, online, found, flag]
  | true =>
    simp only [Bool.true_eq_false, ↓reduceIte]
    refine withRequest_ends (fun refused => by
      simp [Leaves, DeviceCall.devicesAfter, DeviceCall.succeeds, online, flag, Env.syncSent, refused,
        found]) fun allocated => ?_
    rw [ends_bind]
    refine logInOut_ends (fun _ => live) fun status devices sent same => ?_
    cases same live
    rw [ends_ite]
    split
    · rename_i failed
      have unsent : env.syncSent = false := by simpa [Env.syncSent, allocated, failed] using sent
      simp [Leaves, DeviceCall.devicesAfter, DeviceCall.succeeds, online, flag, unsent, found, failed]
    · rename_i fine
      have sent : env.syncSent = true := by
        simpa [Env.syncSent, allocated] using sent.mp (by simpa using fine)
      have kept := fun check => safe check own found flag sent
      rw [ends_bind]
      refine removeFromList_connDevice_ends fun own' _ same _ => ?_
      cases found.symm.trans same
      refine ⟨fun check => (kept check).1, ?_⟩
      refine awaitRetCode_registered (by rfl) (fun noCode status failed => ?_) (fun zero => ?_)
        (fun code coded other => ?_)
      · simp [Leaves, DeviceCall.devicesAfter, DeviceCall.succeeds, online, sent, found, flag, noCode,
          failed]
      · have alive := fun check => (kept check).2 (by simp [zero])
        simpa [Leaves, DeviceCall.devicesAfter, DeviceCall.succeeds, online, sent, found, flag, zero,
          setFlag] using fun _ => ⟨alive, fun _ _ => alive⟩
      · have alive := fun check => (kept check).2 (by simp [coded])
        simpa [Leaves, DeviceCall.devicesAfter, DeviceCall.succeeds, online, sent, found, flag, coded,
          other] using fun _ _ => alive

theorem logoutAsync_ends (live : world.devices.live client = true)
    (safe : checked → (DeviceCall.logoutAsync client).accessesLive config env world.devices) :
    Ends env checked (edgeSubdevLogoutAsync config (some client))
      (Leaves config env world.devices (.logoutAsync client)) world := by
  simp only [edgeSubdevLogoutAsync, ends_bind, ends_readClient, Registry.touch_of_live live]
  refine fun own found => ⟨fun _ => live, ?_⟩
  cases flag : own.natsOnline with
  | false => simp [Leaves, DeviceCall.devicesAfter, DeviceCall.succeeds, online, found, flag]
  | true =>
    simp only [Bool.true_eq_false, ↓reduceIte, ends_bind, genRequestid_ends]
    refine logInOut_ends (fun _ => live) fun status devices sent same => ?_
    cases same live
    rw [ends_ite]
    split
    · rename_i failed
      have unsent : env.logInOutSent = false := by simpa [failed] using sent
      simp [Leaves, DeviceCall.devicesAfter, DeviceCall.succeeds, online, unsent, found, flag, failed]
    · rename_i fine
      have sent : env.logInOutSent = true := sent.mp (by simpa using fine)
      have kept := fun check => safe check own found flag sent
      have flagged : (setFlag world.devices client false).live client = true := by
        simpa [setFlag] using live
      simp only [ends_bind, ends_setOnline, ends_readClient, ends_logWrite,
        Registry.touch_of_live live]
      refine fun _ => ⟨fun _ => live, fun _ _ => ⟨fun _ => flagged, ?_⟩⟩
      change Ends env checked _ _ ⟨_, (setFlag world.devices client false).touch client⟩
      rw [Registry.touch_of_live flagged]
      refine removeFromList_connDevice_ends fun flaggedOwn status same removed => ?_
      have key : flaggedOwn = own.withOnline false := by
        simpa [setFlag, Registry.modify_value?, found, eq_comm] using same
      cases key
      refine ⟨kept, by simp [DeviceCall.devicesAfter, found, flag, sent, SubdevClient.withOnline], ?_⟩
      rw [removed]
      simp [DeviceCall.succeeds, DeviceCall.delists, online, found, flag, sent,
        SubdevClient.withOnline]

/-- The clients every completed call leaves, by the outcomes it met. A checked call
reaches no released client. -/
theorem deviceCall_devices (call : DeviceCall)
    (live : ∀ client, call.client? = some client → world.devices.live client = true)
    (safe : checked → call.accessesLive config env world.devices) :
    Ends env checked (call.program config)
      (fun _ final => final.devices = call.devicesAfter config env world.devices) world := by
  cases call with
  | construct productSn deviceSn normalMsgHandle rrpcMsgHandle =>
    rw [DeviceCall.program, ends_bind]
    exact construct_devices productSn deviceSn normalMsgHandle rrpcMsgHandle
  | loginSync client timeOutMs =>
    rw [DeviceCall.program, ends_bind]
    exact (loginSync_ends timeOutMs (live client rfl)).weaken fun _ _ leaves => leaves.1
  | logoutSync client timeOutMs =>
    rw [DeviceCall.program, ends_bind]
    exact (logoutSync_ends timeOutMs (live client rfl) safe).weaken fun _ _ leaves => leaves.1
  | loginAsync client =>
    rw [DeviceCall.program, ends_bind]
    exact (loginAsync_ends (live client rfl)).weaken fun _ _ leaves => leaves.1
  | logoutAsync client =>
    rw [DeviceCall.program, ends_bind]
    exact (logoutAsync_ends (live client rfl) safe).weaken fun _ _ leaves => leaves.1
  | dynamicAuth client productSecret timeOutMs =>
    rw [DeviceCall.program, ends_bind]
    exact (dynamicAuth_ends productSecret timeOutMs (live client rfl)).weaken fun _ _ leaves => leaves.1

/-- One completed call on a live client, under a condition on its outcomes and on the
clients before it. -/
def DeviceStep (config : DriverConfig)
    (condition : Env → Registry SubdevClient → DeviceCall → Prop) (world next : World) : Prop :=
  ∃ env call, (∀ client, call.client? = some client → world.devices.live client = true) ∧
    condition env world.devices call ∧
    (call.program config).run (handle env) world = some ((), next)

theorem DeviceStep.devices {condition : Env → Registry SubdevClient → DeviceCall → Prop}
    (step : DeviceStep config condition world final) : ∃ env call,
      (∀ client, call.client? = some client → world.devices.live client = true) ∧
        condition env world.devices call ∧
        final.devices = call.devicesAfter config env world.devices := by
  obtain ⟨env, call, live, met, ran⟩ := step
  have ends : Ends env False (call.program config) _ world := deviceCall_devices call live False.elim
  exact ⟨env, call, live, met, ends.of_run (run_respond ran)⟩

/-- A sequence of calls one after the other, each with its outcomes. -/
def runCalls (config : DriverConfig) : List (Env × DeviceCall) → World → Option World
  | [], world => some world
  | (env, call) :: rest, world =>
    if call.client?.all world.devices.live then
      ((call.program config).run (handle env) world).bind fun result =>
        runCalls config rest result.2
    else none

theorem runCalls_steps {config : DriverConfig} (calls : List (Env × DeviceCall))
    (ran : runCalls config calls world = some final) :
    Relation.ReflTransGen (DeviceStep config fun _ _ _ => True) world final := by
  induction calls generalizing world with
  | nil =>
    cases ran
    exact .refl
  | cons head rest ih =>
    obtain ⟨env, call⟩ := head
    rw [runCalls] at ran
    split at ran
    · rename_i live
      obtain ⟨⟨_, next⟩, called, continued⟩ := Option.bind_eq_some_iff.mp ran
      have step : DeviceStep config (fun _ _ _ => True) world next :=
        ⟨env, call, fun client handed => by simpa [handed] using live, trivial, called⟩
      exact .head step (ih continued)
    · cases ran

/-- A first client, just constructed. -/
def constructCall : DeviceCall :=
  .construct (some (.literal "p1")) (some (.literal "dev1")) (some 1) none

def constructed : World where
  requests := .empty
  devices := Registry.empty.alloc (.constructed (.literal "p1") (.literal "dev1") 1 none)

theorem constructed_step {condition : Env → Registry SubdevClient → DeviceCall → Prop}
    (met : condition .calm .empty constructCall) : DeviceStep config condition .initial constructed := by
  refine ⟨.calm, constructCall, fun client handed => ?_, met, rfl⟩
  cases handed

/-- The client a call on the first client is given is live. -/
theorem constructed_live (client : Ref) (handed : some 0 = some client) :
    constructed.devices.live client = true := by
  cases handed
  rfl

section Effects

variable {devices : Registry SubdevClient} {flag : Bool} {deviceSn : CString}

@[simp] theorem serial_listed : serial (env.listed devices client) ref = serial devices ref := by
  unfold Env.listed serial; split <;> simp

@[simp] theorem serial_delisted :
    serial (env.delisted devices client deviceSn) ref = serial devices ref := by
  unfold Env.delisted extractFromList serial; split <;> simp

theorem serial_devicesAfter (call : DeviceCall) (older : call.client? = some client) :
    serial (call.devicesAfter config env devices) ref = serial devices ref := by
  cases call with
  | construct => cases older
  | loginSync => rw [DeviceCall.devicesAfter]; split <;> [split; skip] <;> simp
  | loginAsync => rw [DeviceCall.devicesAfter]; split <;> simp
  | dynamicAuth => rw [DeviceCall.devicesAfter]; split <;> simp
  | logoutSync =>
    rw [DeviceCall.devicesAfter]
    split
    · rfl
    · split
      · dsimp only
        split <;> simp
      · rfl
  | logoutAsync =>
    rw [DeviceCall.devicesAfter]
    split
    · rfl
    · split <;> simp

@[simp] theorem setFlag_entries : (setFlag devices client flag).entries = devices.entries := rfl
@[simp] theorem setFlag_live : (setFlag devices client flag).live ref = devices.live ref :=
  Registry.modify_live _

theorem online_setFlag (allocated : client < devices.size) :
    online (setFlag devices client flag) ref = if ref = client then flag else online devices ref := by
  rw [online, setFlag, Registry.modify_value?]
  split
  · rename_i same
    subst same
    obtain ⟨own, found⟩ := Option.isSome_iff_exists.mp (Registry.value?_isSome.mpr allocated)
    simp [found, SubdevClient.withOnline]
  · rfl

theorem listed_entries (allocated : client < devices.size) : (env.listed devices client).entries =
    devices.entries ++ if env.malloc (.listNode .connDevice) then [client] else [] := by
  unfold Env.listed
  split
  · exact Registry.push_entries allocated
  · exact (List.append_nil _).symm

@[simp] theorem listed_live : (env.listed devices client).live ref = devices.live ref := by
  unfold Env.listed; split <;> simp

@[simp] theorem listed_size : (env.listed devices client).size = devices.size := by
  unfold Env.listed; split <;> simp

@[simp] theorem online_listed : online (env.listed devices client) ref = online devices ref := by
  unfold Env.listed online; split <;> simp

@[simp] theorem online_touch : online (devices.touch client) ref = online devices ref := by
  simp [online]

@[simp] theorem online_delisted :
    online (env.delisted devices client deviceSn) ref = online devices ref := by
  unfold Env.delisted extractFromList online; split <;> simp

@[simp] theorem delisted_size : (env.delisted devices client deviceSn).size = devices.size := by
  unfold Env.delisted extractFromList; split <;> simp

theorem delisted_failed (refused : env.malloc (.listIterator .connDevice) = false) :
    env.delisted devices client deviceSn = devices := by
  simp [Env.delisted, refused]

theorem delisted_entries (allocated : env.malloc (.listIterator .connDevice) = true) :
    (env.delisted devices client deviceSn).entries =
      devices.entries.eraseP (devices.matching (subdevClientMatch deviceSn)) := by
  simp [Env.delisted, allocated, extractFromList, Registry.remove_entries]

theorem delisted_live (allocated : env.malloc (.listIterator .connDevice) = true) :
    (env.delisted devices client deviceSn).live ref =
      (devices.live ref &&
        !decide (devices.find? (subdevClientMatch deviceSn) = some ref)) := by
  simp [Env.delisted, allocated, extractFromList, Registry.remove_live]

end Effects

end IotstackDriver.Edge
