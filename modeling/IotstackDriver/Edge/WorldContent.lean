import IotstackDriver.Edge.Effects

/-! What requests are answered does not depend on the record of accesses: the shared
state up to that record. -/

namespace IotstackDriver.Support

namespace SameContent

variable {α : Type} {before after later : Registry α} {test : α → Bool} {ref : Nat}

theorem symm (same : SameContent before after) : SameContent after before :=
  ⟨same.entries.symm, same.size.symm, same.cells.symm⟩

theorem trans (same : SameContent before after) (more : SameContent after later) :
    SameContent before later :=
  ⟨more.entries.trans same.entries, more.size.trans same.size, more.cells.trans same.cells⟩

theorem value? (same : SameContent before after) : after.value? = before.value? := by
  funext ref
  rw [Registry.value?, same.cells, Registry.value?]

theorem matching (same : SameContent before after) (test : α → Bool) :
    after.matching test = before.matching test := by
  funext ref
  rw [Registry.matching, same.value?, Registry.matching]

theorem find? (same : SameContent before after) (test : α → Bool) :
    after.find? test = before.find? test := by
  rw [Registry.find?, same.entries, same.matching, Registry.find?]

theorem visited (same : SameContent before after) (test : α → Bool) :
    after.visited test = before.visited test := by
  rw [Registry.visited, same.entries, same.matching, same.find?, Registry.visited]

theorem alloc (same : SameContent before after) (value : α) :
    SameContent (before.alloc value) (after.alloc value) := by
  refine ⟨same.entries, ?_, ?_⟩
  · rw [Registry.alloc_size, same.size, Registry.alloc_size]
  · simp only [Registry.alloc, same.size, same.cells]

theorem push (same : SameContent before after) (ref : Nat) :
    SameContent (before.push ref) (after.push ref) := by
  refine ⟨?_, by simp [same.size], by simp [same.cells]⟩
  by_cases valid : ref < before.size
  · rw [Registry.push_entries valid, Registry.push_entries (same.size.symm ▸ valid), same.entries]
  · have invalid : ¬ ref < after.size := same.size.symm ▸ valid
    simp [Registry.push, valid, invalid, same.entries]

theorem touches (same : SameContent before after) (refs more : List Nat) :
    SameContent (before.touchAll refs) (after.touchAll more) :=
  ((touchAll refs).symm.trans same).trans (touchAll more)

theorem touched (same : SameContent before after) (ref other : Nat) :
    SameContent (before.touch ref) (after.touch other) :=
  ((touch ref).symm.trans same).trans (touch other)

theorem modify (same : SameContent before after) (ref : Nat) (change : α → α) :
    SameContent (before.modify ref change) (after.modify ref change) := by
  have cells (registry : Registry α) : (registry.modify ref change).cells =
      Function.update registry.cells ref
        ((registry.cells ref).map fun cell => { cell with value := change cell.value }) := rfl
  exact ⟨same.entries, same.size, by rw [cells, cells, same.cells]⟩

theorem remove (same : SameContent before after) (test : α → Bool) :
    SameContent (before.remove test) (after.remove test) := by
  refine ⟨?_, by simp [same.size], ?_⟩
  · rw [Registry.remove_entries, Registry.remove_entries, same.entries, same.matching]
  · have cells (registry : Registry α) : (registry.remove test).cells =
        (registry.find? test).elim registry.cells fun ref => Function.update registry.cells ref
          ((registry.cells ref).map fun cell => { cell with live := false }) := by
      unfold Registry.remove
      cases registry.find? test <;> rfl
    rw [cells, cells, same.find?, same.cells]

end SameContent

end IotstackDriver.Support

namespace IotstackDriver.Edge

open Libc Support

/-- The same objects and lists, whatever was recorded of the accesses to them. -/
structure SameWorld (before after : World) : Prop where
  requests : SameContent before.requests after.requests
  devices : SameContent before.devices after.devices

namespace SameWorld

variable {env : Env} {world other after : World} {request : Request} {reply : request.Reply}

theorem refl (world : World) : SameWorld world world := ⟨.refl _, .refl _⟩

theorem symm (same : SameWorld world other) : SameWorld other world :=
  ⟨same.requests.symm, same.devices.symm⟩

theorem trans (same : SameWorld world other) (more : SameWorld other after) : SameWorld world after :=
  ⟨same.requests.trans more.requests, same.devices.trans more.devices⟩

theorem entries (same : SameWorld world other) (list : RegistryList) :
    other.entries list = world.entries list := by
  cases list
  · exact same.requests.entries
  · exact same.devices.entries

/-- Requests are answered alike, and change alike what they change. -/
theorem handle (same : SameWorld world other)
    (answered : Edge.respond env request world = some (reply, after)) :
    ∃ final, Edge.respond env request other = some (reply, final) ∧ SameWorld after final := by
  obtain ⟨requests, devices⟩ := same
  cases request
  case newMsgParse requestId =>
    cases answered
    exact ⟨{ other with requests := other.requests.alloc ⟨requestId, .zero⟩ },
      by rw [Edge.respond, requests.size], requests.alloc _, devices⟩
  case newSubdevClient client =>
    cases answered
    exact ⟨{ other with devices := other.devices.alloc client },
      by rw [Edge.respond, devices.size], requests, devices.alloc _⟩
  case push list node =>
    cases list
    all_goals
      simp only [Edge.respond] at answered
      split at answered <;> cases answered
      rename_i valid
    · exact ⟨{ other with requests := other.requests.push node },
        by rw [Edge.respond, if_pos (requests.size.symm ▸ valid)], requests.push _, devices⟩
    · exact ⟨{ other with devices := other.devices.push node },
        by rw [Edge.respond, if_pos (devices.size.symm ▸ valid)], requests, devices.push _⟩
  case find list key =>
    cases list
    · simp only [Edge.respond] at answered
      split at answered <;> cases answered
      all_goals rename_i iterates
      · refine ⟨{ other with requests := (searchList other.requests (msgParseMatch key)).2 }, ?_,
          requests.touches _ _, devices⟩
        simp only [Edge.respond, iterates, searchList, requests.find?, if_true]
      · exact ⟨other, by rw [Edge.respond, if_neg iterates], requests, devices⟩
    · simp only [Edge.respond] at answered
      split at answered
      · rename_i iterates
        cases key with
        | none =>
          dsimp only at answered
          split at answered <;> cases answered
          rename_i empty
          refine ⟨other, ?_, requests, devices⟩
          simp only [Edge.respond, iterates, devices.entries, empty, if_true]
        | some deviceSn =>
          cases answered
          refine ⟨{ other with devices := (searchList other.devices (subdevClientMatch deviceSn)).2 },
            ?_, requests, devices.touches _ _⟩
          simp only [Edge.respond, iterates, searchList, devices.find?, if_true]
      · rename_i iterates
        cases answered
        exact ⟨other, by cases key <;> simp [Edge.respond, iterates], requests, devices⟩
  case iterate list =>
    cases answered
    have entries : other.entries list = world.entries list := SameWorld.entries ⟨requests, devices⟩ list
    exact ⟨other, by rw [Edge.respond, entries], requests, devices⟩
  case remove list node =>
    cases list
    all_goals
      simp only [Edge.respond, Option.bind_eq_bind, Option.bind_eq_some_iff] at answered
      obtain ⟨own, found, answered⟩ := answered
      split at answered <;> cases answered
      all_goals rename_i iterates
    · refine ⟨{ other with
          requests := (extractFromList other.requests node (msgParseMatch own.requestId)).2 }, ?_, ?_⟩
      · simp [Edge.respond, requests.value?, found, iterates, extractFromList, requests.find?]
      · exact ⟨(requests.touches _ _).remove _, devices⟩
    · exact ⟨other, by simp [Edge.respond, requests.value?, found, iterates], requests, devices⟩
    · refine ⟨{ other with
          devices := (extractFromList other.devices node (subdevClientMatch own.deviceSn)).2 }, ?_, ?_⟩
      · simp [Edge.respond, devices.value?, found, iterates, extractFromList, devices.find?]
      · exact ⟨requests, (devices.touches _ _).remove _⟩
    · exact ⟨other, by simp [Edge.respond, devices.value?, found, iterates], requests, devices⟩
  case readPayload node look =>
    simp only [Edge.respond, Option.bind_eq_bind, Option.bind_eq_some_iff] at answered
    obtain ⟨own, found, answered⟩ := answered
    cases answered
    exact ⟨{ other with requests := other.requests.touch node },
      by simp [Edge.respond, requests.value?, found], requests.touched _ _, devices⟩
  case writePayload node stores =>
    simp only [Edge.respond, Option.bind_eq_bind, Option.bind_eq_some_iff] at answered
    obtain ⟨own, found, answered⟩ := answered
    split at answered <;> cases answered
    rename_i inside
    have written := (requests.touched node node).modify node fun entry => entry.storeAll stores
    exact ⟨{ other with requests :=
      (other.requests.touch node).modify node fun entry => entry.storeAll stores },
      by simp [Edge.respond, requests.value?, found, inside], written, devices⟩
  case readClient client =>
    simp only [Edge.respond, Option.bind_eq_bind, Option.bind_eq_some_iff] at answered
    obtain ⟨own, found, answered⟩ := answered
    cases answered
    exact ⟨{ other with devices := other.devices.touch client },
      by simp [Edge.respond, devices.value?, found], requests, devices.touched _ _⟩
  case setOnline client online =>
    simp only [Edge.respond, Option.bind_eq_bind, Option.bind_eq_some_iff] at answered
    obtain ⟨own, found, answered⟩ := answered
    cases answered
    have flagged := (devices.touched client client).modify client fun own => own.withOnline online
    exact ⟨{ other with devices :=
      (other.devices.touch client).modify client fun own => own.withOnline online },
      by simp [Edge.respond, devices.value?, found], requests, flagged⟩
  case fault => cases answered
  all_goals
    cases answered
    exact ⟨other, rfl, requests, devices⟩

end SameWorld

/-- A request that changes neither list. -/
def Request.keepsLists : Request → Bool
  | push _ _ | remove _ _ => false
  | _ => true

/-- The requests for which a locked section searches a list. -/
def Request.sectional : Request → Bool
  | find _ _ | remove _ _ | iterate _ | malloc (.listIterator _) => true
  | _ => false

theorem handle_keepsLists {env : Env} {world after : World} {request : Request} {reply : request.Reply}
    (keeps : request.keepsLists = true) (answered : respond env request world = some (reply, after))
    (list : RegistryList) : after.entries list = world.entries list := by
  cases list with
  | requestid =>
    have change := handle_requests answered
    rw [World.entries, World.entries]
    generalize after.requests = requests at change ⊢
    cases change with
    | reads _ same => exact same.entries
    | creates | writes => simp
    | pushes | removes | refuses => cases keeps
  | connDevice =>
    have change := handle_devices answered
    rw [World.entries, World.entries]
    generalize after.devices = devices at change ⊢
    cases change with
    | reads _ same => exact same.entries
    | creates | flags => simp
    | pushes | removes | refuses => cases keeps

end IotstackDriver.Edge
