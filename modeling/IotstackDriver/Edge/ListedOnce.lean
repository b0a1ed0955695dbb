import IotstackDriver.Edge.Removal
import IotstackDriver.Edge.StatusSync
import Mathlib.Data.List.Nodup

/-! How often a client is listed in `conn_device_list`. -/

namespace IotstackDriver.Edge

open Libc Support Program

/-- The client a login lists: its request is sent and the list node allocated. -/
def DeviceCall.lists (env : Env) : DeviceCall → Option Ref
  | loginSync client _ =>
    if env.syncSent && env.malloc (.listNode .connDevice) then some client else none
  | loginAsync client =>
    if env.logInOutSent && env.malloc (.listNode .connDevice) then some client else none
  | _ => none

/-- A login that lists its client does so only if the client is not listed. -/
def listsUnlisted (env : Env) (devices : Registry SubdevClient) (call : DeviceCall) : Prop :=
  ∀ client, call.lists env = some client → client ∉ devices.entries

/-- The text and the logs of a status message fit their buffers. -/
structure StatusFits (config : DriverConfig) (env : Env) (world : World) : Prop where
  logs : LogsFit env (handleStatusSync config) world
  text : (format statusSyncFormat [.str config.driverId.bytes, .str ((ascii ",").intercalate
    (world.listedClients.map SubdevClient.info))]).length < natsMsgMaxLen

/-- No client is listed twice; a status message that fits names every listed client once and
no other; and a logout that takes an entry of its client leaves no other. -/
structure ListedOnce (config : DriverConfig) (world : World) : Prop where
  entries : world.devices.entries.Nodup
  named : ∀ env : Env, (∀ site, env.malloc site = true) → StatusFits config env world →
    ∃ names : List Ref,
      (∀ client, names.count client = if client ∈ world.devices.entries then 1 else 0) ∧
        (handleStatusSync config).observed (handle env) publication world =
          [(edgeStateReqSubject, statusText config (names.filterMap world.devices.value?))]
  left : ∀ env (call : DeviceCall) client next, world.devices.live client = true →
    call.removes env world.devices = some client →
    (call.program config).run (handle env) world = some ((), next) →
      next.devices.live client = false → client ∉ next.devices.entries

variable {config : DriverConfig} {env : Env} {devices : Registry SubdevClient} {client : Ref}

private theorem listed_append (allocated : client < devices.size) :
    (env.listed devices client).entries = devices.entries ++
      (if env.malloc (.listNode .connDevice) then some client else none).toList := by
  rw [listed_entries allocated]
  cases env.malloc (.listNode .connDevice) <;> rfl

private theorem delisted_sublist (deviceSn : CString) :
    (env.delisted devices client deviceSn).entries.Sublist devices.entries := by
  cases allocated : env.malloc (.listIterator .connDevice) with
  | false => rw [delisted_failed allocated]
  | true =>
    rw [delisted_entries allocated]
    exact List.eraseP_sublist

private theorem login_entries (call : DeviceCall) (inside : client < devices.size)
    (login : (∃ timeOutMs, call = .loginSync client timeOutMs) ∨ call = .loginAsync client) :
    (call.devicesAfter config env devices).entries = devices.entries ++ (call.lists env).toList := by
  rcases login with ⟨timeOutMs, rfl⟩ | rfl
  · cases sent : env.syncSent with
    | false => simp [DeviceCall.devicesAfter, DeviceCall.lists, sent]
    | true =>
      simp only [DeviceCall.devicesAfter, DeviceCall.lists, sent, ↓reduceIte, Bool.true_and]
      split
      · exact listed_append inside
      · exact listed_append inside
  · cases sent : env.logInOutSent with
    | false => simp [DeviceCall.devicesAfter, DeviceCall.lists, sent]
    | true =>
      simp only [DeviceCall.devicesAfter, DeviceCall.lists, sent, ↓reduceIte, Bool.true_and]
      exact listed_append (by simpa [setFlag] using inside)

private theorem logout_entries (call : DeviceCall)
    (logout : (∃ timeOutMs, call = .logoutSync client timeOutMs) ∨ call = .logoutAsync client) :
    (call.devicesAfter config env devices).entries.Sublist devices.entries := by
  rcases logout with ⟨timeOutMs, rfl⟩ | rfl
  · rw [DeviceCall.devicesAfter]
    split
    · exact List.Sublist.refl _
    · split
      · dsimp only
        split <;> simpa using delisted_sublist _
      · exact List.Sublist.refl _
  · rw [DeviceCall.devicesAfter]
    split
    · exact List.Sublist.refl _
    · split
      · exact delisted_sublist _
      · exact List.Sublist.refl _

/-- A call keeps the entries distinct exactly when it lists no client that is listed. -/
private theorem nodup_step (call : DeviceCall) (nodup : devices.entries.Nodup)
    (live : ∀ client, call.client? = some client → devices.live client = true) :
    (call.devicesAfter config env devices).entries.Nodup ↔ listsUnlisted env devices call := by
  have quiet (none : call.lists env = none)
      (fewer : (call.devicesAfter config env devices).entries.Sublist devices.entries) :
      (call.devicesAfter config env devices).entries.Nodup ↔ listsUnlisted env devices call :=
    ⟨fun _ client listed => (by cases none.symm.trans listed), fun _ => nodup.sublist fewer⟩
  have lists (more : (call.devicesAfter config env devices).entries =
      devices.entries ++ (call.lists env).toList) :
      (call.devicesAfter config env devices).entries.Nodup ↔ listsUnlisted env devices call := by
    rw [more]
    cases listed : call.lists env with
    | none => simp [nodup, listsUnlisted, listed]
    | some client =>
      rw [Option.toList_some, ← List.concat_eq_append, List.nodup_concat]
      simp [nodup, listsUnlisted, listed]
  cases call with
  | construct productSn deviceSn normalMsgHandle rrpcMsgHandle =>
    refine quiet rfl ?_
    cases productSn <;> cases deviceSn <;> cases normalMsgHandle <;>
      cases allocated : env.malloc .subdevClient <;> simp [DeviceCall.devicesAfter, allocated]
  | loginSync client timeOutMs =>
    exact lists (login_entries _ (Registry.lt_of_live (live client rfl)) (.inl ⟨timeOutMs, rfl⟩))
  | loginAsync client =>
    exact lists (login_entries _ (Registry.lt_of_live (live client rfl)) (.inr rfl))
  | logoutSync client timeOutMs => exact quiet rfl (logout_entries _ (.inl ⟨timeOutMs, rfl⟩))
  | logoutAsync client => exact quiet rfl (logout_entries _ (.inr rfl))
  | dynamicAuth client productSecret timeOutMs =>
    refine quiet rfl ?_
    rw [DeviceCall.devicesAfter]
    split <;> exact List.Sublist.refl _

/-- In every run whose logins list no listed client, no client is listed twice. -/
theorem nodup_of_run {final : World} (run : Relation.ReflTransGen
    (DeviceStep config fun env devices call => listsUnlisted env devices call) .initial final) :
    final.devices.entries.Nodup := by
  induction run with
  | refl => exact List.nodup_nil
  | tail _ last ih =>
    obtain ⟨env, call, live, unlisted, after⟩ := DeviceStep.devices last
    rw [after]
    exact (nodup_step call ih live).mpr unlisted

/-- What a removal step releases was listed once, and is not listed any more. -/
private theorem delisted_gone {deviceSn : CString} (nodup : devices.entries.Nodup)
    (live : devices.live client = true) (dead : (env.delisted devices client deviceSn).live client = false) :
    client ∉ (env.delisted devices client deviceSn).entries := by
  cases allocated : env.malloc (.listIterator .connDevice) with
  | false =>
    rw [delisted_failed allocated, live] at dead
    cases dead
  | true =>
    have found : devices.find? (subdevClientMatch deviceSn) = some client := by
      simpa [delisted_live allocated, live] using dead
    have once : devices.entries.count client = 1 :=
      List.count_eq_one_of_mem nodup (Registry.find?_mem found)
    rw [delisted_entries allocated, ← Registry.remove_entries]
    exact Registry.not_mem_remove found once

private theorem logout_gone (call : DeviceCall) (nodup : devices.entries.Nodup)
    (live : devices.live client = true) (removes : call.removes env devices = some client)
    (dead : (call.devicesAfter config env devices).live client = false) :
    client ∉ (call.devicesAfter config env devices).entries := by
  have present := Registry.value?_isSome.mpr (Registry.lt_of_live live)
  obtain ⟨own, found⟩ := Option.isSome_iff_exists.mp present
  cases call with
  | logoutSync target timeOutMs =>
    simp only [DeviceCall.removes, Option.ite_none_right_eq_some] at removes
    obtain ⟨ready, same⟩ := removes
    cases same
    simp only [online, found, Option.any_some] at ready
    simp only [DeviceCall.devicesAfter, found, ready, ↓reduceIte] at dead ⊢
    split at dead <;> simpa using delisted_gone nodup live (by simpa using dead)
  | logoutAsync target =>
    simp only [DeviceCall.removes, Option.ite_none_right_eq_some] at removes
    obtain ⟨ready, same⟩ := removes
    cases same
    simp only [online, found, Option.any_some] at ready
    simp only [DeviceCall.devicesAfter, found, ready, ↓reduceIte] at dead ⊢
    exact delisted_gone (by simpa using nodup) (by simpa using live) dead
  | _ => cases removes

/-- In every run whose logins list no listed client, each client is listed, and named by
the status message, at most once, and one logout ends its presence. -/
theorem listedOnce_of_run {config : DriverConfig} {final : World} (run : Relation.ReflTransGen
    (DeviceStep config fun env devices call => listsUnlisted env devices call) .initial final) :
    ListedOnce config final := by
  have nodup := nodup_of_run run
  refine ⟨nodup, fun env allocates fits => ?_, fun env call client next live removes ran dead => ?_⟩
  · have allocated : env.statusAllocated final :=
      ⟨allocates _, allocates _, allocates _, .inr (allocates _)⟩
    have listed := listFits_of_status fits.text
    refine ⟨final.devices.entries.reverse, fun client => ?_,
      (handleStatusSync_publishes config allocated listed).trans
        (if_pos ((handleStatusSync_logsFit config allocated listed).mp fits.logs))⟩
    rw [List.count_reverse]
    exact List.Nodup.count nodup
  · have handed : ∀ target, call.client? = some target → final.devices.live target = true := by
      intro target same
      cases (client?_of_removes removes).symm.trans same
      exact live
    have ends : Ends env False (call.program config) _ final := deviceCall_devices call handed False.elim
    have after := ends.of_run (run_respond ran)
    rw [after] at dead ⊢
    exact logout_gone call nodup live removes dead

theorem listedOnce_of_run_loginAsync : ∃ final, ListedOnce .plain final ∧ final.devices.entries = [0] := by
  have outcome : (((DeviceCall.loginAsync 0).program .plain).run (handle .calm) constructed).map
      (fun result => result.2.devices.entries) = some [0] := by decide +kernel
  obtain ⟨⟨_, final⟩, ran, entries⟩ := Option.map_eq_some_iff.mp outcome
  refine ⟨final, listedOnce_of_run (.tail (.single (constructed_step ?_)) ?_), entries⟩
  · intro client none
    cases none
  · refine ⟨.calm, .loginAsync 0, constructed_live, fun client _ member => ?_, ran⟩
    cases member

/-- A client that logs in twice. -/
private def repeatedLogin : List (Env × DeviceCall) :=
  [(.calm, constructCall), (.calm, .loginAsync 0), (.calm, .loginAsync 0)]

theorem repeated_login_lists_twice : ¬ ∀ config final,
    Relation.ReflTransGen (DeviceStep config fun _ _ _ => True) .initial final →
      final.devices.entries.Nodup := by
  intro always
  have outcome : (runCalls .plain repeatedLogin .initial).map (fun final => final.devices.entries) =
      some [0, 0] := by decide +kernel
  obtain ⟨final, ran, entries⟩ := Option.map_eq_some_iff.mp outcome
  have nodup := always .plain final (runCalls_steps repeatedLogin ran)
  rw [entries] at nodup
  exact absurd nodup (by decide)

end IotstackDriver.Edge
