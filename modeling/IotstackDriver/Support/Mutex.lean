import IotstackDriver.Support.Interleaving

/-! Recursive mutexes, and a shared state whose threads lock and unlock them. -/

namespace IotstackDriver.Support

/-- Free, or held by a thread that locked it so many times more. -/
inductive Mutex (ι : Type) where
  | free
  | held (owner : ι) (again : Nat)
  deriving DecidableEq

namespace Mutex

variable {ι : Type} [DecidableEq ι] {thread owner : ι} {mutex after : Mutex ι}

/-- A thread waits while another one holds the mutex. -/
def lock (thread : ι) : Mutex ι → Option (Mutex ι)
  | free => some (held thread 0)
  | held owner again => if owner = thread then some (held owner (again + 1)) else none

/-- Only the owner unlocks a mutex. -/
def unlock (thread : ι) : Mutex ι → Option (Mutex ι)
  | free => none
  | held owner 0 => if owner = thread then some free else none
  | held owner (again + 1) => if owner = thread then some (held owner again) else none

theorem lock_eq_none_iff : mutex.lock thread = none ↔
    ∃ owner again, mutex = held owner again ∧ owner ≠ thread := by
  cases mutex with
  | free => simp [lock]
  | held owner again => by_cases same : owner = thread <;> simp [lock, same]

/-- A mutex others hold is not locked, nor unlocked. -/
theorem held_of_other {again : Nat} (other : owner ≠ thread) :
    (held owner again).lock thread = none ∧ (held owner again).unlock thread = none := by
  cases again <;> simp [lock, unlock, other]

end Mutex

/-- What a request does to the mutexes. -/
inductive MutexUse (κ : Type) where
  | locks (mutex : κ)
  | unlocks (mutex : κ)
  | none

/-- A state and the mutexes that guard it. -/
structure Guarded (σ κ ι : Type) where
  world : σ
  mutexes : κ → Mutex ι

namespace Guarded

open Program

variable {I : Interface} {σ κ ι : Type} [DecidableEq κ] [DecidableEq ι]

/-- The mutexes after a thread's request, where it need not wait. -/
def permit (mutexes : κ → Mutex ι) (thread : ι) : MutexUse κ → Option (κ → Mutex ι)
  | .locks mutex => ((mutexes mutex).lock thread).map (Function.update mutexes mutex)
  | .unlocks mutex => ((mutexes mutex).unlock thread).map (Function.update mutexes mutex)
  | .none => some mutexes

/-- The handler of one thread among others. -/
def guard (uses : I.Request → MutexUse κ) (handler : Handler I σ) (thread : ι) :
    Handler I (Guarded σ κ ι) :=
  fun request state => (permit state.mutexes thread (uses request)).bind fun mutexes =>
    (handler request state.world).map fun answer => (answer.1, ⟨answer.2, mutexes⟩)

variable {uses : I.Request → MutexUse κ} {handler : Handler I σ} {thread : ι}
  {request : I.Request} {reply : I.Reply request} {state next : Guarded σ κ ι}

theorem guard_eq_some_iff : guard uses handler thread request state = some (reply, next) ↔
    permit state.mutexes thread (uses request) = some next.mutexes ∧
      handler request state.world = some (reply, next.world) := by
  obtain ⟨world, mutexes⟩ := next
  rw [guard, Option.bind_eq_some_iff]
  constructor
  · rintro ⟨after, admitted, answered⟩
    obtain ⟨⟨reply', world'⟩, found, same⟩ := Option.map_eq_some_iff.mp answered
    cases same
    exact ⟨admitted, found⟩
  · rintro ⟨admitted, answered⟩
    exact ⟨mutexes, admitted, by rw [answered]; rfl⟩

/-- A thread leaves a mutex that another holds as it is. -/
theorem admit_of_other {mutexes after : κ → Mutex ι} {mutex : κ} {owner : ι} {again : Nat}
    {use : MutexUse κ} (holds : mutexes mutex = .held owner again) (other : owner ≠ thread)
    (admitted : permit mutexes thread use = some after) :
    after mutex = .held owner again ∧ use ≠ .locks mutex := by
  have stuck := @Mutex.held_of_other _ _ _ _ again other
  cases use with
  | locks chosen =>
    obtain ⟨changed, locked, rfl⟩ := Option.map_eq_some_iff.mp admitted
    have different : chosen ≠ mutex := by
      rintro rfl
      cases stuck.1.symm.trans (holds ▸ locked)
    exact ⟨by rw [Function.update_of_ne different.symm, holds], fun same => different (by cases same; rfl)⟩
  | unlocks chosen =>
    obtain ⟨changed, unlocked, rfl⟩ := Option.map_eq_some_iff.mp admitted
    have different : chosen ≠ mutex := by
      rintro rfl
      cases stuck.2.symm.trans (holds ▸ unlocked)
    exact ⟨by rw [Function.update_of_ne different.symm, holds], nofun⟩
  | none =>
    cases admitted
    exact ⟨holds, nofun⟩

end Guarded

end IotstackDriver.Support
