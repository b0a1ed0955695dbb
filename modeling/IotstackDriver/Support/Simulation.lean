import IotstackDriver.Support.Interleaving

/-! One level of a design against the next: programs whose requests stand for programs
of the level below, and runs of the lower level followed by runs of the upper one. -/

namespace IotstackDriver.Support

namespace Program

variable {I J : Interface} {α β γ : Type}

@[simp] theorem bind_done (program : Program I α) : program >>= (done : α → Program I α) = program := by
  induction program with
  | done value => rfl
  | call request rest ih =>
    rw [call_bind]
    exact congrArg (call request) (funext ih)

theorem bind_bind (program : Program I α) (first : α → Program I β) (second : β → Program I γ) :
    program >>= first >>= second = program >>= fun value => first value >>= second := by
  induction program with
  | done value => rfl
  | call request rest ih =>
    rw [call_bind, call_bind, call_bind]
    exact congrArg (call request) (funext ih)

/-- A program with each request replaced by a program of the level below. -/
def expand (body : (request : J.Request) → Program I (J.Reply request)) :
    Program J α → Program I α
  | done value => done value
  | call request rest => body request >>= fun reply => (rest reply).expand body

variable {body : (request : J.Request) → Program I (J.Reply request)}

theorem expand_call (request : J.Request) (rest : J.Reply request → Program J α) :
    (call request rest).expand body = body request >>= fun reply => (rest reply).expand body := rfl

theorem expand_bind (program : Program J α) (next : α → Program J β) :
    (program >>= next).expand body = program.expand body >>= fun value => (next value).expand body := by
  induction program with
  | done value => rfl
  | call request rest ih =>
    rw [call_bind, expand_call, expand_call, bind_bind]
    exact congrArg (body request >>= ·) (funext ih)

/-- A handler of the level below answers as the one above does. -/
def Refines {σ τ : Type} (handler : Handler I σ) (lower : Handler I τ) (related : σ → τ → Prop) : Prop :=
  ∀ ⦃request state reply next below⦄, related state below → handler request state = some (reply, next) →
    ∃ below', lower request below = some (reply, below') ∧ related next below'

/-- Programs one after the other, each in an environment of its own. -/
def runEach {σ ε : Type} (handler : ε → Handler I σ) : List (ε × Program I α) → σ → Option (List α × σ)
  | [], state => some ([], state)
  | (env, program) :: rest, state => do
    let (value, next) ← program.run (handler env) state
    let (values, final) ← runEach handler rest next
    return (value :: values, final)

section Refines

variable {σ τ ε : Type} {related : σ → τ → Prop} {state next : σ} {below : τ}

/-- What holds of single requests holds of programs. -/
theorem Refines.run {handler : Handler I σ} {lower : Handler I τ} (refines : Refines handler lower related)
    {value : α} (program : Program I α) (relates : related state below)
    (ran : program.run handler state = some (value, next)) :
    ∃ below', program.run lower below = some (value, below') ∧ related next below' := by
  induction program generalizing state below with
  | done result =>
    cases ran
    exact ⟨below, rfl, relates⟩
  | call request rest ih =>
    rw [run_call] at ran
    obtain ⟨⟨reply, middle⟩, answered, ran⟩ := Option.bind_eq_some_iff.mp ran
    obtain ⟨below', answered', relates'⟩ := refines relates answered
    obtain ⟨final, went, ends⟩ := ih reply relates' ran
    exact ⟨final, by rw [run_call, answered']; exact went, ends⟩

/-- And of sequences of programs. -/
theorem Refines.runEach {handler : ε → Handler I σ} {lower : ε → Handler I τ}
    (refines : ∀ env, Refines (handler env) (lower env) related) {values : List α}
    (calls : List (ε × Program I α)) (relates : related state below)
    (ran : Program.runEach handler calls state = some (values, next)) :
    ∃ below', Program.runEach lower calls below = some (values, below') ∧ related next below' := by
  induction calls generalizing state below values with
  | nil =>
    cases ran
    exact ⟨below, rfl, relates⟩
  | cons first rest ih =>
    obtain ⟨env, program⟩ := first
    obtain ⟨⟨value, middle⟩, now, later⟩ := Option.bind_eq_some_iff.mp ran
    obtain ⟨⟨others, last⟩, ran, same⟩ := Option.bind_eq_some_iff.mp later
    cases same
    obtain ⟨below', now', relates'⟩ := (refines env).run program relates now
    obtain ⟨final, went, ends⟩ := ih relates' ran
    exact ⟨final, by simp [Program.runEach, now', went], ends⟩

end Refines

section Booked

variable {σ τ : Type} {handler : Handler I σ}

/-- The handler that also keeps a book of the replies, which may refuse one. -/
def Handler.booked (handler : Handler I σ) (book : τ → (request : I.Request) → I.Reply request → Option τ) :
    Handler I (σ × τ) :=
  fun request state => do
    let (reply, next) ← handler request state.1
    let entered ← book state.2 request reply
    return (reply, next, entered)

/-- A guard does not mind the book. -/
theorem Handler.booked_guarded {book : τ → (request : I.Request) → I.Reply request → Option τ}
    (guard : I.Request → Bool) :
    (handler.guarded guard).booked book = (handler.booked book).guarded guard := by
  funext request state
  rw [Handler.booked, Handler.guarded, Handler.guarded]
  split <;> rfl

/-- A program that keeps a protocol is refused nothing by a book that enters the steps of that
protocol, and leaves what the protocol says it does. -/
theorem Meets.run_booked {protocol : Protocol I τ}
    {book : τ → (request : I.Request) → I.Reply request → Option τ}
    (enters : ∀ entries request state reply next, protocol.allowed entries request →
      handler request state = some (reply, next) →
      ∃ entered, book entries request reply = some entered ∧ protocol.step entries request reply entered)
    {program : Program I α} {state : σ} {entries left : τ}
    (meets : Meets protocol program (fun _ after => after = left) entries) :
    program.run (handler.booked book) (state, entries) =
      (program.run handler state).map fun result => (result.1, result.2, left) := by
  induction program generalizing state entries with
  | done value =>
    rw [meets_done] at meets
    rw [meets]
    rfl
  | call request rest ih =>
    rw [run_call, run_call, Handler.booked]
    cases answered : handler request state with
    | none => rfl
    | some answer =>
      obtain ⟨reply, next⟩ := answer
      obtain ⟨entered, booked, stepped⟩ := enters entries request state reply next meets.1 answered
      simp only [Option.bind_eq_bind, Option.bind_some, booked, Option.pure_def]
      exact ih reply (meets.2 reply entered stepped)

/-- What a protocol keeps of a state, whatever the handler answers, holds where a run ends. -/
theorem Meets.run_invariant {protocol : Protocol I τ} {invariant : τ → σ → Prop}
    (keeps : ∀ phase state request reply next, invariant phase state → protocol.allowed phase request →
      handler request state = some (reply, next) →
      ∃ phase', protocol.step phase request reply phase' ∧ invariant phase' next)
    {program : Program I α} {post : α → τ → Prop} {phase : τ} {state final : σ} {value : α}
    (meets : Meets protocol program post phase) (holds : invariant phase state)
    (ran : program.run handler state = some (value, final)) :
    ∃ phase', invariant phase' final ∧ post value phase' := by
  induction program generalizing state phase with
  | done result =>
    cases ran
    exact ⟨phase, holds, meets⟩
  | call request rest ih =>
    rw [run_call] at ran
    obtain ⟨⟨reply, next⟩, answered, continued⟩ := Option.bind_eq_some_iff.mp ran
    obtain ⟨phase', stepped, kept⟩ := keeps phase state request reply next holds meets.1 answered
    exact ih reply (meets.2 reply phase' stepped) kept continued

/-- A protocol that the steps of another keep. -/
theorem Meets.transport {protocol : Protocol I σ} {other : Protocol I τ} {related : σ → τ → Prop}
    (carries : ∀ state below request, related state below → protocol.allowed state request →
      other.allowed below request ∧ ∀ reply below', other.step below request reply below' →
        ∃ next, protocol.step state request reply next ∧ related next below')
    {program : Program I α} {post : α → σ → Prop} {state : σ} {below : τ}
    (meets : Meets protocol program post state) (relates : related state below) :
    Meets other program (fun value below => ∃ state, related state below ∧ post value state) below := by
  induction program generalizing state below with
  | done value => exact ⟨state, relates, meets⟩
  | call request rest ih =>
    obtain ⟨allowed, steps⟩ := carries state below request relates meets.1
    refine ⟨allowed, fun reply below' stepped => ?_⟩
    obtain ⟨next, stepped', relates'⟩ := steps reply below' stepped
    exact ih reply (meets.2 reply next stepped') relates'

end Booked

section Recording

/-- A request with the reply to it. -/
abbrev Answer (I : Interface) := (request : I.Request) × I.Reply request

variable {notable : I.Request → Bool} {allowed : List (Answer I) → I.Request → Prop}
  {past : List (Answer I)} {request : I.Request}

/-- A record with one more answer, where that is notable. -/
def enter (notable : I.Request → Bool) (past : List (Answer I)) (request : I.Request)
    (reply : I.Reply request) : List (Answer I) :=
  if notable request then past ++ [⟨request, reply⟩] else past

/-- The protocol of requests that are judged by the notable answers before them. -/
def Protocol.recording (notable : I.Request → Bool) (allowed : List (Answer I) → I.Request → Prop) :
    Protocol I (List (Answer I)) where
  allowed := allowed
  step past request reply next := next = enter notable past request reply

theorem meets_noted {post : I.Reply request → List (Answer I) → Prop} (noted : notable request = true) :
    Meets (.recording notable allowed) (call request done) post past ↔
      allowed past request ∧ ∀ reply, post reply (past ++ [⟨request, reply⟩]) := by
  refine and_congr_right fun _ => forall_congr' fun reply => ⟨fun all => ?_, fun one next same => ?_⟩
  · exact all _ (if_pos noted).symm
  · rw [show next = past ++ [⟨request, reply⟩] from same.trans (if_pos noted)]
    exact one

theorem meets_unnoted {post : I.Reply request → List (Answer I) → Prop}
    (unnoted : notable request = false) :
    Meets (.recording notable allowed) (call request done) post past ↔
      allowed past request ∧ ∀ reply, post reply past := by
  have stays (reply : I.Reply request) : enter notable past request reply = past := by
    simp [enter, unnoted]
  refine and_congr_right fun _ => forall_congr' fun reply => ⟨fun all => ?_, fun one next same => ?_⟩
  · exact all _ (stays reply).symm
  · rw [show next = past from same.trans (stays reply)]
    exact one

/-- A program of requests that are always allowed and never notable leaves no record. -/
theorem Meets.unrecorded {free : I.Request → Prop} {program : Program I α}
    {post : α → List (Answer I) → Prop} (issues : Issues free program fun _ => True)
    (admits : ∀ request, free request → allowed past request ∧ notable request = false)
    (continues : ∀ value, post value past) : Meets (.recording notable allowed) program post past := by
  refine .of_issues issues (fun request isFree => ?_) fun value _ => continues value
  obtain ⟨admitted, unnoted⟩ := admits request isFree
  exact ⟨admitted, fun reply next same => same.trans (by simp [enter, unnoted])⟩

/-- A program whose requests are allowed after any record. -/
theorem Meets.unjudged {free : I.Request → Prop} {program : Program I α} {value : α → Prop}
    (issues : Issues free program value) (admits : ∀ past request, free request → allowed past request) :
    Meets (.recording notable allowed) program (fun _ _ => True) past := by
  induction program generalizing past with
  | done value => trivial
  | call request rest ih => exact ⟨admits past request issues.1, fun reply _ _ => ih reply (issues.2 reply)⟩

end Recording

end Program

namespace System

variable {I J : Interface} {σ τ ι ε φ ω : Type} [DecidableEq ι] {fine : System I σ ι ε}
  {coarse : System J τ ι φ} {start pool next : Pool I σ ι} {history : History I σ ι ε}
  {event : Event I ι ε}

/-- One run after another. -/
theorem Run.append {middle : Pool I σ ι} {more : History I σ ι ε} (run : fine.Run start history middle)
    (later : fine.Run middle more pool) : fine.Run start (history ++ more) pool := by
  induction later with
  | start => rwa [List.append_nil]
  | step later step ih =>
    rw [← List.append_assoc]
    exact ih.step step

theorem Run.single (step : fine.Step pool event next) : fine.Run pool [(pool, event)] next :=
  Run.start.step step

/-- What is seen of the steps of a run, in order. -/
def seen (observe : Event I ι ε → Option ω) (history : History I σ ι ε) : List ω :=
  history.filterMap fun step => observe step.2

omit [DecidableEq ι] in
theorem seen_append (observe : Event I ι ε → Option ω) (history more : History I σ ι ε) :
    seen observe (history ++ more) = seen observe history ++ seen observe more :=
  List.filterMap_append

/-- Every step of the lower level is followed by steps of the upper one, none perhaps, of
which the same is seen. -/
def Follows (fine : System I σ ι ε) (coarse : System J τ ι φ)
    (related : Pool I σ ι → Pool J τ ι → Prop) (observe : Event I ι ε → Option ω)
    (observed : Event J ι φ → Option ω) : Prop :=
  ∀ ⦃pool next above event⦄, related pool above → fine.Step pool event next →
    ∃ taken above', coarse.Run above taken above' ∧ related next above' ∧
      seen observed taken = (observe event).toList

/-- What holds of single steps holds of runs. -/
theorem Follows.run {related : Pool I σ ι → Pool J τ ι → Prop} {observe : Event I ι ε → Option ω}
    {observed : Event J ι φ → Option ω} (follows : Follows fine coarse related observe observed)
    {begun : Pool J τ ι} (begins : related start begun) (run : fine.Run start history pool) :
    ∃ history' above, coarse.Run begun history' above ∧ related pool above ∧
      seen observed history' = seen observe history := by
  induction run with
  | start => exact ⟨[], begun, .start, begins, rfl⟩
  | @step history pool next event run step ih =>
    obtain ⟨earlier, above, reached, relates, same⟩ := ih
    obtain ⟨taken, above', went, relates', also⟩ := follows relates step
    refine ⟨earlier ++ taken, above', reached.append went, relates', ?_⟩
    rw [seen_append, seen_append, same, also]
    cases shown : observe event <;> simp [seen, shown]

/-- What holds at the end of a run held at its start, or some step brings it about. -/
theorem Run.brought_about (holds : σ → Prop) (run : fine.Run start history pool)
    (ends : holds pool.shared) : holds start.shared ∨ ∃ earlier first event later after,
      history = earlier ++ (first, event) :: later ∧ fine.Step first event after ∧
        fine.Run after later pool ∧ ¬ holds first.shared ∧ holds after.shared := by
  induction run with
  | start => exact .inl ends
  | @step history pool next taken run step ih =>
    by_cases before : holds pool.shared
    · rcases ih before with begins | ⟨earlier, first, event, later, after, rfl, cause, rest, changes⟩
      · exact .inl begins
      · exact .inr ⟨earlier, first, event, later ++ [(pool, taken)], after, by simp, cause,
          rest.step step, changes⟩
    · exact .inr ⟨history, pool, taken, [], next, rfl, step, .start, before, ends⟩

section Tally

variable {allowed : τ → I.Request → Prop} {after : τ → (request : I.Request) → I.Reply request → τ}
  {begun : τ} {thread : ι}

/-- What the steps of one thread add up to. -/
def tally (after : τ → (request : I.Request) → I.Reply request → τ) (thread : ι) (begun : τ)
    (history : History I σ ι ε) : τ :=
  history.foldl (fun sum step => match step.2 with
    | .request other request reply => if other = thread then after sum request reply else sum
    | .outside _ => sum) begun

/-- A step of a run is its last one, or one before. -/
private theorem last_or_before {first last : γ} {history earlier later : List γ}
    (split : history ++ [last] = earlier ++ first :: later) :
    (earlier = history ∧ first = last) ∨ ∃ rest, history = earlier ++ first :: rest := by
  rcases List.eq_nil_or_concat later with rfl | ⟨rest, final, rfl⟩
  · obtain ⟨rfl, same⟩ := List.append_inj' split rfl
    cases same
    exact .inl ⟨rfl, rfl⟩
  · rw [List.concat_eq_append, ← List.cons_append, ← List.append_assoc] at split
    exact .inr ⟨rest, (List.append_inj' split rfl).1⟩

/-- A thread that keeps a protocol keeps it in every run, whatever the other threads do. -/
theorem Run.tallied {ending : Unit → τ → Prop} (run : fine.Run start history pool)
    (meets : Program.Meets ⟨allowed, fun sum request reply next => next = after sum request reply⟩
      (start.threads thread) ending begun) :
    (∀ earlier first request reply later,
      history = earlier ++ (first, .request thread request reply) :: later →
        allowed (tally after thread begun earlier) request) ∧
    Program.Meets ⟨allowed, fun sum request reply next => next = after sum request reply⟩
      (pool.threads thread) ending (tally after thread begun history) := by
  induction run with
  | start => exact ⟨fun _ _ _ _ _ split => by simp at split, meets⟩
  | @step history pool next taken run step ih =>
    obtain ⟨before, keeps⟩ := ih
    have last : tally after thread begun (history ++ [(pool, taken)]) =
        tally after thread (tally after thread begun history) [(pool, taken)] := List.foldl_append ..
    rw [last]
    cases step with
    | @request other asked rest reply shared waiting answered =>
      by_cases own : other = thread
      · subst own
        rw [waiting] at keeps
        refine ⟨fun earlier first request reply' later split => ?_, ?_⟩
        · rcases last_or_before split with ⟨rfl, same⟩ | ⟨rest, split⟩
          · cases same
            exact keeps.1
          · exact before _ _ _ _ _ split
        · simpa [tally] using keeps.2 reply _ rfl
      · refine ⟨fun earlier first request reply' later split => ?_, ?_⟩
        · rcases last_or_before split with ⟨rfl, same⟩ | ⟨rest, split⟩
          · cases same
            exact absurd rfl own
          · exact before _ _ _ _ _ split
        · simpa [tally, own, Function.update_of_ne (Ne.symm own)] using keeps
    | outside taken =>
      refine ⟨fun earlier first request reply' later split => ?_, keeps⟩
      rcases last_or_before split with ⟨-, same⟩ | ⟨rest, split⟩
      · cases same
      · exact before _ _ _ _ _ split

end Tally

section Recorded

open Program (Answer)
open scoped List

variable {notable : I.Request → Bool} {thread : ι}

/-- The notable answers one thread got, in order. -/
def recorded (notable : I.Request → Bool) (thread : ι) (history : History I σ ι ε) : List (Answer I) :=
  tally (Program.enter notable) thread [] history

variable {observe : Event I ι ε → Option (ι × Answer I)} {history : History I σ ι ε}

private theorem entered_sublist {begun : List (Answer I)} {shown : List (ι × Answer I)}
    (shows : ∀ request reply, notable request = true →
      observe (.request thread request reply) = some (thread, ⟨request, reply⟩))
    (before : begun.map (thread, ·) <+ shown) :
    (tally (Program.enter notable) thread begun history).map (thread, ·) <+
      shown ++ seen observe history := by
  induction history generalizing begun shown with
  | nil => simpa [tally, seen] using before
  | cons step rest ih =>
    obtain ⟨pool, event⟩ := step
    have split : seen observe ((pool, event) :: rest) = (observe event).toList ++ seen observe rest := by
      cases shown : observe event <;> simp [seen, shown]
    rw [split, ← List.append_assoc]
    have longer : begun.map (thread, ·) <+ shown ++ (observe event).toList :=
      before.trans (List.sublist_append_left ..)
    cases event with
    | outside event => exact ih longer
    | request other asked reply =>
      by_cases own : other = thread
      · subst own
        cases noted : notable asked with
        | false => simpa [tally, Program.enter, noted] using ih longer
        | true =>
          have entered : (begun ++ [(⟨asked, reply⟩ : Answer I)]).map (other, ·) <+
              shown ++ (observe (.request other asked reply)).toList := by
            rw [shows asked reply noted, List.map_append]
            exact before.append (.refl _)
          simpa [tally, Program.enter, noted] using @ih _ _ entered
      · simpa [tally, own] using ih longer

/-- What is recorded of a thread is seen of the run, in the same order. -/
theorem recorded_sublist (shows : ∀ request reply, notable request = true →
      observe (.request thread request reply) = some (thread, ⟨request, reply⟩)) :
    (recorded notable thread history).map (thread, ·) <+ seen observe history := by
  have starts : ([] : List (Answer I)).map (thread, ·) <+ [] := .slnil
  exact entered_sublist shows starts

end Recorded

end System

end IotstackDriver.Support
