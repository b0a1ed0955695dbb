import IotstackDriver.Support.Program

/-! Runs of several programs over one shared state, one request at a time, with
steps from outside in between. -/

namespace IotstackDriver.Support

/-- A shared state, and what each thread has still to do. -/
structure Pool (I : Interface) (σ ι : Type) where
  shared : σ
  threads : ι → Program I Unit

/-- A step of a run: a thread's request with its reply, or a step from outside. -/
inductive Event (I : Interface) (ι ε : Type) where
  | request (thread : ι) (request : I.Request) (reply : I.Reply request)
  | outside (event : ε)

structure System (I : Interface) (σ ι ε : Type) where
  handler : ι → Program.Handler I σ
  outside : ε → σ → Option σ

/-- The steps of a run in order, each with the pool it was taken from. -/
abbrev History (I : Interface) (σ ι ε : Type) := List (Pool I σ ι × Event I ι ε)

namespace System

open Program

variable {I : Interface} {σ ι ε φ : Type} [DecidableEq ι] {system : System I σ ι ε}
  {start pool next : Pool I σ ι} {history : History I σ ι ε} {event : Event I ι ε}

inductive Step (system : System I σ ι ε) : Pool I σ ι → Event I ι ε → Pool I σ ι → Prop
  | request {pool : Pool I σ ι} {thread : ι} {request : I.Request}
      {rest : I.Reply request → Program I Unit} {reply : I.Reply request} {shared : σ}
      (waiting : pool.threads thread = .call request rest)
      (answered : system.handler thread request pool.shared = some (reply, shared)) :
      Step system pool (.request thread request reply)
        ⟨shared, Function.update pool.threads thread (rest reply)⟩
  | outside {pool : Pool I σ ι} {event : ε} {shared : σ}
      (taken : system.outside event pool.shared = some shared) :
      Step system pool (.outside event) ⟨shared, pool.threads⟩

inductive Run (system : System I σ ι ε) (start : Pool I σ ι) :
    History I σ ι ε → Pool I σ ι → Prop
  | start : Run system start [] start
  | step {history : History I σ ι ε} {pool next : Pool I σ ι} {event : Event I ι ε}
      (run : Run system start history pool) (step : Step system pool event next) :
      Run system start (history ++ [(pool, event)]) next

/-- The choice of the thread or the outside event that steps next. -/
inductive Choice (ι ε : Type) where
  | thread (thread : ι)
  | outside (event : ε)

/-- The step a choice leads to, if it can be taken. -/
def advance (system : System I σ ι ε) (pool : Pool I σ ι) :
    Choice ι ε → Option (Event I ι ε × Pool I σ ι)
  | .thread thread =>
    match pool.threads thread with
    | .done _ => none
    | .call request rest => (system.handler thread request pool.shared).map fun answer =>
      (.request thread request answer.1,
        ⟨answer.2, Function.update pool.threads thread (rest answer.1)⟩)
  | .outside event => (system.outside event pool.shared).map fun shared =>
    (.outside event, ⟨shared, pool.threads⟩)

/-- The run that follows a list of choices. -/
def follow (system : System I σ ι ε) (pool : Pool I σ ι) :
    List (Choice ι ε) → Option (History I σ ι ε × Pool I σ ι)
  | [] => some ([], pool)
  | choice :: rest => do
    let (event, next) ← system.advance pool choice
    let (history, final) ← system.follow next rest
    return ((pool, event) :: history, final)

theorem step_of_advance {choice : Choice ι ε}
    (advanced : system.advance pool choice = some (event, next)) : system.Step pool event next := by
  cases choice with
  | thread thread =>
    simp only [advance] at advanced
    split at advanced
    · cases advanced
    · rename_i request rest waiting
      obtain ⟨⟨reply, shared⟩, answered, same⟩ := Option.map_eq_some_iff.mp advanced
      cases same
      exact .request waiting answered
  | outside event =>
    obtain ⟨shared, taken, same⟩ := Option.map_eq_some_iff.mp advanced
    cases same
    exact .outside taken

private theorem Run.extend {choices : List (Choice ι ε)} {more : History I σ ι ε}
    (run : system.Run start history pool)
    (followed : system.follow pool choices = some (more, next)) :
    system.Run start (history ++ more) next := by
  induction choices generalizing pool history more with
  | nil =>
    cases followed
    rwa [List.append_nil]
  | cons choice rest ih =>
    obtain ⟨⟨event, middle⟩, advanced, continued⟩ := Option.bind_eq_some_iff.mp followed
    obtain ⟨⟨later, final⟩, followed, same⟩ := Option.bind_eq_some_iff.mp continued
    cases same
    rw [List.append_cons]
    exact ih (run.step (step_of_advance advanced)) followed

theorem run_of_follow {choices : List (Choice ι ε)}
    (followed : system.follow start choices = some (history, pool)) :
    system.Run start history pool := Run.start.extend followed

/-- The run up to one of its steps, and the step. -/
theorem Run.before {earlier later : History I σ ι ε} {first : Pool I σ ι}
    (run : system.Run start history pool) (split : history = earlier ++ (first, event) :: later) :
    system.Run start earlier first ∧ ∃ next, system.Step first event next := by
  induction run generalizing later with
  | start => simp at split
  | @step history pool next taken run step ih =>
    rcases List.eq_nil_or_concat later with rfl | ⟨rest, last, rfl⟩
    · obtain ⟨same, one⟩ := List.append_inj' split rfl
      cases same
      cases one
      exact ⟨run, next, step⟩
    · have regrouped : history ++ [(pool, taken)] = (earlier ++ (first, event) :: rest) ++ [last] := by
        rw [split]
        simp
      exact ih (List.append_inj' regrouped rfl).1

/-- An invariant over a run in which every thread keeps to a protocol of its own. The
invariant sees the state each protocol is in, and a step is answered for by the
protocol of the thread that takes it. -/
theorem Run.invariant_ending {protocol : ι → Protocol I φ} {phases : ι → φ}
    {ending : ι → Unit → φ → Prop} {invariant : History I σ ι ε → (ι → φ) → σ → Prop}
    (keeps : ∀ thread, Meets (protocol thread) (start.threads thread) (ending thread) (phases thread))
    (initial : invariant [] phases start.shared)
    (request : ∀ history pool phases thread request reply shared,
      invariant history phases pool.shared → (protocol thread).allowed (phases thread) request →
      system.handler thread request pool.shared = some (reply, shared) →
      ∃ phase, (protocol thread).step (phases thread) request reply phase ∧
        invariant (history ++ [(pool, .request thread request reply)])
          (Function.update phases thread phase) shared)
    (outside : ∀ history pool phases event shared, invariant history phases pool.shared →
      system.outside event pool.shared = some shared →
      invariant (history ++ [(pool, .outside event)]) phases shared)
    (run : system.Run start history pool) :
    ∃ phases, invariant history phases pool.shared ∧
      ∀ thread, Meets (protocol thread) (pool.threads thread) (ending thread) (phases thread) := by
  induction run with
  | start => exact ⟨phases, initial, keeps⟩
  | step run step ih =>
    obtain ⟨phases, holds, keeps⟩ := ih
    cases step with
    | @request thread asked rest reply shared waiting answered =>
      have meets := keeps thread
      rw [waiting, meets_call] at meets
      obtain ⟨phase, stepped, after⟩ :=
        request _ _ phases thread asked reply shared holds meets.1 answered
      refine ⟨Function.update phases thread phase, after, fun other => ?_⟩
      by_cases same : other = thread
      · subst same
        simpa using meets.2 reply phase stepped
      · simpa [same] using keeps other
    | @outside event shared taken =>
      exact ⟨phases, outside _ _ phases event shared holds taken, keeps⟩

/-- The same for threads of whose endings nothing is asked. -/
theorem Run.invariant {protocol : ι → Protocol I φ} {phases : ι → φ}
    {invariant : History I σ ι ε → (ι → φ) → σ → Prop}
    (keeps : ∀ thread, Meets (protocol thread) (start.threads thread) (fun _ _ => True) (phases thread))
    (initial : invariant [] phases start.shared)
    (request : ∀ history pool phases thread request reply shared,
      invariant history phases pool.shared → (protocol thread).allowed (phases thread) request →
      system.handler thread request pool.shared = some (reply, shared) →
      ∃ phase, (protocol thread).step (phases thread) request reply phase ∧
        invariant (history ++ [(pool, .request thread request reply)])
          (Function.update phases thread phase) shared)
    (outside : ∀ history pool phases event shared, invariant history phases pool.shared →
      system.outside event pool.shared = some shared →
      invariant (history ++ [(pool, .outside event)]) phases shared)
    (run : system.Run start history pool) :
    ∃ phases, invariant history phases pool.shared ∧
      ∀ thread, Meets (protocol thread) (pool.threads thread) (fun _ _ => True) (phases thread) :=
  Run.invariant_ending keeps initial request outside run

/-- The program may come to a wanted request with no resetting one before it. -/
inductive Ahead (wanted resets : I.Request → Prop) : Program I Unit → Prop
  | here {request : I.Request} {rest : I.Reply request → Program I Unit} (found : wanted request) :
      Ahead wanted resets (.call request rest)
  | later {request : I.Request} {rest : I.Reply request → Program I Unit}
      (passes : ¬ resets request) (reply : I.Reply request) (ahead : Ahead wanted resets (rest reply)) :
      Ahead wanted resets (.call request rest)

/-- The thread takes this step with a resetting request. -/
def Resets (resets : I.Request → Prop) (thread : ι) (event : Event I ι ε) : Prop :=
  ∃ request reply, event = .request thread request reply ∧ resets request

variable {wanted resets : I.Request → Prop} {thread : ι}

private theorem Step.ahead (step : system.Step pool event next)
    (passes : ¬ Resets resets thread event) (ahead : Ahead wanted resets (next.threads thread)) :
    Ahead wanted resets (pool.threads thread) := by
  cases step with
  | @request other request rest reply shared waiting answered =>
    by_cases same : thread = other
    · subst same
      rw [waiting]
      refine .later (fun reset => passes ⟨request, reply, rfl, reset⟩) reply ?_
      simpa using ahead
    · simpa [same] using ahead
  | outside taken => exact ahead

/-- What the first step of a stretch of a run brings about lasts to its end, when every
later step keeps it as long as the thread has a wanted request ahead, and the thread
still has one at the end. -/
theorem Run.lasts (kept : σ → Prop) {earlier later : History I σ ι ε} {first : Pool I σ ι}
    (run : system.Run start history pool) (split : history = earlier ++ (first, event) :: later)
    (begins : ∀ next, system.Step first event next → kept next.shared)
    (keeps : ∀ step ∈ later, ∀ next, Ahead wanted resets (step.1.threads thread) →
      system.Step step.1 step.2 next → kept step.1.shared → kept next.shared)
    (passes : ∀ step ∈ later, ¬ Resets resets thread step.2)
    (ahead : Ahead wanted resets (pool.threads thread)) : kept pool.shared := by
  induction run generalizing later with
  | start => simp at split
  | @step history pool next taken run step ih =>
    rcases List.eq_nil_or_concat later with rfl | ⟨before, last, rfl⟩
    · obtain ⟨-, same⟩ := List.append_inj' split rfl
      cases same
      exact begins next step
    · have regrouped : history ++ [(pool, taken)] = (earlier ++ (first, event) :: before) ++ [last] := by
        rw [split]
        simp
      obtain ⟨before?, same⟩ := List.append_inj' regrouped rfl
      cases same
      have member : (pool, taken) ∈ before.concat (pool, taken) := by simp
      have still := step.ahead (passes _ member) ahead
      refine keeps _ member next still step (ih before? ?_ ?_ still)
      · exact fun step inside => keeps step (by simp [inside])
      · exact fun step inside => passes step (by simp [inside])

end System

end IotstackDriver.Support
