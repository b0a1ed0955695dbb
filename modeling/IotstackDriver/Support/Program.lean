import Mathlib.Tactic.Common

/-! Effectful programs over an interface of requests. A program is a finite tree
of requests and replies; a handler runs it from a state, and the rules below
reason about a run one request at a time. -/

namespace IotstackDriver.Support

/-- The requests a program may issue, and the type of the reply to each. -/
structure Interface where
  Request : Type
  Reply : Request → Type

inductive Program (I : Interface) (α : Type) where
  | done (value : α)
  | call (request : I.Request) (next : I.Reply request → Program I α)

namespace Program

variable {I : Interface} {α β σ : Type}

def bind : Program I α → (α → Program I β) → Program I β
  | done value, next => next value
  | call request rest, next => call request fun reply => (rest reply).bind next

instance : Monad (Program I) where
  pure := done
  bind := bind

@[simp] theorem call_bind (request : I.Request) (rest : I.Reply request → Program I α)
    (next : α → Program I β) :
    call request rest >>= next = call request fun reply => rest reply >>= next := rfl

/-- How a state answers a request. `none` leaves the request without a defined
outcome, and a run that issues it has no result. -/
abbrev Handler (I : Interface) (σ : Type) :=
  (request : I.Request) → σ → Option (I.Reply request × σ)

def run (handler : Handler I σ) : Program I α → σ → Option (α × σ)
  | done value, state => some (value, state)
  | call request rest, state =>
    match handler request state with
    | none => none
    | some (reply, next) => (rest reply).run handler next

@[simp] theorem run_pure (handler : Handler I σ) (value : α) (state : σ) :
    (pure value : Program I α).run handler state = some (value, state) := rfl

theorem run_call (handler : Handler I σ) (request : I.Request)
    (rest : I.Reply request → Program I α) (state : σ) :
    (call request rest).run handler state =
      (handler request state).bind fun answer => (rest answer.1).run handler answer.2 := by
  rw [run]
  cases handler request state <;> rfl

/-- One request, with nothing after it. -/
theorem run_request (handler : Handler I σ) (request : I.Request) (state : σ) :
    (call request done).run handler state = handler request state := by
  rw [run_call]
  cases handler request state <;> rfl

@[simp] theorem run_bind (handler : Handler I σ) (program : Program I α)
    (next : α → Program I β) (state : σ) :
    (program >>= next).run handler state =
      (program.run handler state).bind fun result => (next result.1).run handler result.2 := by
  induction program generalizing state with
  | done value => rfl
  | call request rest ih =>
    rw [call_bind, run_call, run_call]
    cases handler request state with
    | none => rfl
    | some answer => exact ih answer.1 answer.2

/-- The handler that also keeps what is observed of the requests, in order. -/
def Handler.traced (handler : Handler I σ) (observe : I.Request → Option ω) :
    Handler I (σ × List ω) :=
  fun request state => (handler request state.1).map fun answer =>
    (answer.1, answer.2, state.2 ++ (observe request).toList)

/-- Observing a run does not change what it computes. -/
theorem run_traced {handler : Handler I σ} {observe : I.Request → Option ω}
    (program : Program I α) (state : σ) (trace : List ω) :
    ((program.run (handler.traced observe) (state, trace)).map fun result =>
      (result.1, result.2.1)) = program.run handler state := by
  induction program generalizing state trace with
  | done value => rfl
  | call request rest ih =>
    rw [run_call, run_call, Handler.traced]
    cases handler request state with
    | none => rfl
    | some answer => exact ih answer.1 answer.2 _

@[simp] theorem done_bind (value : α) (next : α → Program I β) :
    (done value : Program I α) >>= next = next value := rfl

/-- What is observed of the requests a run issues, in order, whether it finishes or not. -/
def observed (handler : Handler I σ) (observe : I.Request → Option ω) :
    Program I α → σ → List ω
  | done _, _ => []
  | call request rest, state => (observe request).toList ++
    match handler request state with
    | none => []
    | some (reply, next) => (rest reply).observed handler observe next

section Observed

variable {handler : Handler I σ} {observe : I.Request → Option ω}

@[simp] theorem getD_map_nil (result : Option β) :
    (result.map fun _ => ([] : List ω)).getD [] = [] := by
  cases result <;> rfl

@[simp] theorem observed_pure (value : α) (state : σ) :
    (pure value : Program I α).observed handler observe state = [] := rfl

theorem observed_call (request : I.Request) (rest : I.Reply request → Program I α) (state : σ) :
    (call request rest).observed handler observe state = (observe request).toList ++
      ((handler request state).map fun answer =>
        (rest answer.1).observed handler observe answer.2).getD [] := by
  rw [observed]
  cases handler request state <;> rfl

theorem observed_bind (program : Program I α) (next : α → Program I β) (state : σ) :
    (program >>= next).observed handler observe state = program.observed handler observe state ++
      ((program.run handler state).map fun result =>
        (next result.1).observed handler observe result.2).getD [] := by
  induction program generalizing state with
  | done value => rfl
  | call request rest ih =>
    rw [call_bind, observed_call, observed_call, run_call]
    cases handler request state with
    | none => simp
    | some answer => simp [ih answer.1 answer.2]

@[simp] theorem observed_ite {condition : Prop} [Decidable condition] (left right : Program I α)
    (state : σ) : (if condition then left else right).observed handler observe state =
      if condition then left.observed handler observe state
      else right.observed handler observe state := by
  split <;> rfl

end Observed

/-- A request-by-request specification: `allowed` says which requests a state
admits, `step` which replies and next states follow. `Meets` holds when every
path is admitted and ends in the postcondition. -/
structure Protocol (I : Interface) (σ : Type) where
  allowed : σ → I.Request → Prop
  step : σ → (request : I.Request) → I.Reply request → σ → Prop

def Meets (protocol : Protocol I σ) : Program I α → (α → σ → Prop) → σ → Prop
  | done value, post, state => post value state
  | call request rest, post, state => protocol.allowed state request ∧
      ∀ reply next, protocol.step state request reply next → Meets protocol (rest reply) post next

@[simp] theorem meets_done (protocol : Protocol I σ) (value : α) (post : α → σ → Prop)
    (state : σ) : Meets protocol (done value) post state ↔ post value state := Iff.rfl

theorem meets_call (protocol : Protocol I σ) (request : I.Request)
    (rest : I.Reply request → Program I α) (post : α → σ → Prop) (state : σ) :
    Meets protocol (call request rest) post state ↔ protocol.allowed state request ∧
      ∀ reply next, protocol.step state request reply next →
        Meets protocol (rest reply) post next := Iff.rfl

/-- An admitted request that leaves the state. -/
theorem meets_quiet {protocol : Protocol I σ} {request : I.Request}
    {post : I.Reply request → σ → Prop} (allowed : protocol.allowed state request)
    (quiet : ∀ reply next, protocol.step state request reply next ↔ next = state) :
    Meets protocol (.call request .done) post state ↔ ∀ reply, post reply state := by
  rw [meets_call]
  constructor
  · exact fun meets reply => meets.2 reply state ((quiet reply state).mpr rfl)
  · intro all
    refine ⟨allowed, fun reply next stepped => ?_⟩
    rw [(quiet reply next).mp stepped]
    exact all reply

/-- An admitted request that has one reply and leaves the state. -/
theorem meets_silent {protocol : Protocol I σ} {request : I.Request} {answer : I.Reply request}
    {post : I.Reply request → σ → Prop} (allowed : protocol.allowed state request)
    (quiet : ∀ reply next, protocol.step state request reply next ↔ next = state)
    (single : ∀ reply, reply = answer) :
    Meets protocol (.call request .done) post state ↔ post answer state := by
  rw [meets_quiet allowed quiet]
  exact ⟨fun all => all answer, fun one reply => (single reply).symm ▸ one⟩

@[simp] theorem meets_bind (protocol : Protocol I σ) (program : Program I α)
    (next : α → Program I β) (post : β → σ → Prop) (state : σ) :
    Meets protocol (program >>= next) post state ↔
      Meets protocol program (fun value state => Meets protocol (next value) post state) state := by
  induction program generalizing state with
  | done value => rfl
  | call request rest ih =>
    rw [call_bind, meets_call, meets_call]
    exact and_congr_right fun _ => forall_congr' fun reply => forall_congr' fun after =>
      imp_congr_right fun _ => ih reply after

/-- Every request on every path is one of these, and every result one of those. -/
def Issues (allowed : I.Request → Prop) : Program I α → (α → Prop) → Prop
  | done value, post => post value
  | call request rest, post => allowed request ∧ ∀ reply, Issues allowed (rest reply) post

section Issues

variable {allowed more : I.Request → Prop} {program : Program I α} {post : α → Prop}

@[simp] theorem issues_pure {value : α} :
    Issues allowed (pure value : Program I α) post ↔ post value := Iff.rfl

@[simp] theorem issues_bind {next : α → Program I β} {post : β → Prop} :
    Issues allowed (program >>= next) post ↔
      Issues allowed program fun value => Issues allowed (next value) post := by
  induction program with
  | done value => rfl
  | call request rest ih =>
    rw [call_bind, Issues, Issues]
    exact and_congr_right fun _ => forall_congr' ih

@[simp] theorem issues_ite {condition : Prop} [Decidable condition] {left right : Program I α} :
    Issues allowed (if condition then left else right) post ↔
      if condition then Issues allowed left post else Issues allowed right post := by
  split <;> rfl

theorem Issues.weaken {weaker : α → Prop} (issues : Issues allowed program post)
    (admitted : ∀ request, allowed request → more request) (implied : ∀ value, post value → weaker value) :
    Issues more program weaker := by
  induction program with
  | done value => exact implied value issues
  | call request rest ih => exact ⟨admitted request issues.1, fun reply => ih reply (issues.2 reply)⟩

/-- The steps of a sequence, one after the other, whatever the first returns. -/
theorem Issues.bind {next : α → Program I β} {after : β → Prop}
    (first : Issues allowed program fun _ => True)
    (rest : ∀ value, Issues allowed (next value) after) :
    Issues allowed (program >>= next) after :=
  issues_bind.mpr (first.weaken (fun _ same => same) fun value _ => rest value)

/-- Nothing is observed of requests none of which is. -/
theorem Issues.observed {handler : Handler I σ} {observe : I.Request → Option ω}
    (unseen : Issues (fun request => observe request = none) program post) (state : σ) :
    program.observed handler observe state = [] := by
  induction program generalizing state with
  | done value => rfl
  | call request rest ih =>
    rw [observed_call, unseen.1]
    cases handler request state with
    | none => rfl
    | some answer => exact ih answer.1 (unseen.2 answer.1) answer.2

/-- What is observed is observed of a request the program may issue. -/
theorem Issues.of_mem_observed {handler : Handler I σ} {observe : I.Request → Option ω}
    (issues : Issues allowed program post) {state : σ} {event : ω}
    (seen : event ∈ program.observed handler observe state) :
    ∃ request, allowed request ∧ observe request = some event := by
  induction program generalizing state with
  | done value => cases seen
  | call request rest ih =>
    rw [observed_call, List.mem_append, Option.mem_toList] at seen
    rcases seen with here | later
    · exact ⟨request, issues.1, here⟩
    · cases answered : handler request state with
      | none => simp [answered] at later
      | some answer =>
        rw [answered] at later
        exact ih answer.1 (issues.2 answer.1) later

/-- The rest of a program of which nothing is observed. -/
theorem observed_bind_unseen {handler : Handler I σ} {observe : I.Request → Option ω}
    {next : α → Program I β} (unseen : ∀ value, Issues (fun request => observe request = none)
      (next value) fun _ => True) (state : σ) :
    (program >>= next).observed handler observe state = program.observed handler observe state := by
  rw [observed_bind]
  cases program.run handler state with
  | none => exact List.append_nil _
  | some result => rw [Option.map_some, Option.getD_some, (unseen result.1).observed, List.append_nil]

/-- A first part of which nothing is observed, and which finishes. -/
theorem observed_bind_finished {handler : Handler I σ} {observe : I.Request → Option ω}
    {next : α → Program I β} {value : α} {state middle : σ}
    (unseen : Issues (fun request => observe request = none) program fun _ => True)
    (ran : program.run handler state = some (value, middle)) :
    (program >>= next).observed handler observe state = (next value).observed handler observe middle := by
  rw [observed_bind, unseen.observed, ran, List.nil_append, Option.map_some, Option.getD_some]

/-- Where something is observed of a sequence but nothing of its first part, the first part
finishes and the rest is what is observed. -/
theorem observed_bind_rest {handler : Handler I σ} {observe : I.Request → Option ω}
    {next : α → Program I β} {state : σ} (unseen : Issues (fun request => observe request = none)
      program fun _ => True) (seen : (program >>= next).observed handler observe state ≠ []) :
    ∃ value middle, program.run handler state = some (value, middle) ∧
      (next value).observed handler observe middle ≠ [] ∧
      (program >>= next).run handler state = (next value).run handler middle := by
  rw [observed_bind, unseen.observed, List.nil_append] at seen
  cases ran : program.run handler state with
  | none =>
    rw [ran] at seen
    exact absurd rfl seen
  | some result =>
    rw [ran] at seen
    exact ⟨result.1, result.2, rfl, seen, by rw [run_bind, ran, Option.bind_some]⟩

/-- A program finishes when the states it meets answer every request it may issue. -/
theorem Issues.completes {handler : Handler I σ} {invariant : σ → Prop} {state : σ}
    (issues : Issues allowed program post) (answers : ∀ request state, allowed request →
      invariant state → ∃ reply next, handler request state = some (reply, next) ∧ invariant next)
    (holds : invariant state) : ∃ value final,
      program.run handler state = some (value, final) ∧ post value ∧ invariant final := by
  induction program generalizing state with
  | done value => exact ⟨value, state, rfl, issues, holds⟩
  | call request rest ih =>
    obtain ⟨reply, next, answered, kept⟩ := answers request state issues.1 holds
    obtain ⟨value, final, ran, met, still⟩ := ih reply (issues.2 reply) kept
    exact ⟨value, final, by rw [run_call, answered, Option.bind_some, ran], met, still⟩

/-- Requests that a protocol admits in a state and that leave it. -/
theorem Meets.of_issues {protocol : Protocol I σ} {after : α → σ → Prop}
    (issues : Issues allowed program post)
    (quiet : ∀ request, allowed request → protocol.allowed state request ∧
      ∀ reply next, protocol.step state request reply next → next = state)
    (continues : ∀ value, post value → after value state) : Meets protocol program after state := by
  induction program with
  | done value => exact continues value issues
  | call request rest ih =>
    obtain ⟨admitted, stays⟩ := quiet request issues.1
    refine ⟨admitted, fun reply next stepped => ?_⟩
    rw [stays reply next stepped]
    exact ih reply (issues.2 reply)

end Issues

/-- The run finishes in the postcondition, and issues none of the forbidden requests. -/
def Finishes (handler : Handler I σ) (forbidden : I.Request → Bool) :
    Program I α → (α → σ → Prop) → σ → Prop
  | done value, post, state => post value state
  | call request rest, post, state => forbidden request = false ∧ ∃ reply next,
    handler request state = some (reply, next) ∧ Finishes handler forbidden (rest reply) post next

section Finishes

variable {handler : Handler I σ} {forbidden : I.Request → Bool} {state : σ}

@[simp] theorem finishes_pure {value : α} {post : α → σ → Prop} :
    Finishes handler forbidden (pure value : Program I α) post state ↔ post value state := Iff.rfl

@[simp] theorem finishes_bind {program : Program I α} {next : α → Program I β} {post : β → σ → Prop} :
    Finishes handler forbidden (program >>= next) post state ↔ Finishes handler forbidden program
      (fun value middle => Finishes handler forbidden (next value) post middle) state := by
  induction program generalizing state with
  | done value => rfl
  | call request rest ih =>
    rw [call_bind, Finishes, Finishes]
    exact and_congr_right fun _ => exists_congr fun reply => exists_congr fun after =>
      and_congr_right fun _ => ih reply

@[simp] theorem finishes_ite {condition : Prop} [Decidable condition] {left right : Program I α}
    {post : α → σ → Prop} : Finishes handler forbidden (if condition then left else right) post state ↔
      if condition then Finishes handler forbidden left post state
      else Finishes handler forbidden right post state := by
  split <;> rfl

/-- One request that the state answers. -/
theorem finishes_answered {request : I.Request} {reply : I.Reply request} {next : σ}
    {post : I.Reply request → σ → Prop} (answered : handler request state = some (reply, next)) :
    Finishes handler forbidden (call request done) post state ↔
      forbidden request = false ∧ post reply next := by
  simp only [Finishes, answered, Option.some.injEq, Prod.mk.injEq]
  constructor
  · rintro ⟨admitted, _, _, ⟨rfl, rfl⟩, met⟩
    exact ⟨admitted, met⟩
  · exact fun met => ⟨met.1, reply, next, ⟨rfl, rfl⟩, met.2⟩

/-- One request that the state does not answer. -/
theorem not_finishes_unanswered {request : I.Request} {rest : I.Reply request → Program I α}
    {post : α → σ → Prop} (unanswered : handler request state = none) :
    ¬ Finishes handler forbidden (call request rest) post state := by
  simp [Finishes, unanswered]

/-- Finishing, in terms of the run and of what is observed of it. -/
theorem finishes_iff {program : Program I α} {post : α → σ → Prop} :
    Finishes handler forbidden program post state ↔
      (∃ value final, program.run handler state = some (value, final) ∧ post value final) ∧
      program.observed handler (fun request => if forbidden request then some () else none) state =
        [] := by
  induction program generalizing state with
  | done value =>
    constructor
    · exact fun met => ⟨⟨value, state, rfl, met⟩, rfl⟩
    · rintro ⟨⟨_, _, ran, met⟩, -⟩
      cases ran
      exact met
  | call request rest ih =>
    rw [Finishes, run_call, observed_call]
    cases answered : handler request state with
    | none => simp
    | some answer =>
      obtain ⟨reply, next⟩ := answer
      have admitted : (if forbidden request = true then some () else none).toList = [] ↔
          forbidden request = false := by
        cases forbidden request <;> simp
      have answers : (∃ reply' next', some (reply, next) = some (reply', next') ∧
          Finishes handler forbidden (rest reply') post next') ↔
          Finishes handler forbidden (rest reply) post next := by
        simp
      rw [answers, ih, Option.bind_some, Option.map_some, Option.getD_some, List.append_eq_nil_iff,
        admitted]
      exact and_left_comm

end Finishes

/-- A protocol that admits everything asks nothing. -/
theorem Meets.of_permissive {protocol : Protocol I σ}
    (permits : ∀ state request, protocol.allowed state request) (program : Program I α) (state : σ) :
    Meets protocol program (fun _ _ => True) state := by
  induction program generalizing state with
  | done value => trivial
  | call request rest ih => exact ⟨permits state request, fun reply next _ => ih reply next⟩

theorem Meets.weaken {protocol : Protocol I σ} {program : Program I α}
    {post weaker : α → σ → Prop} (meets : Meets protocol program post state)
    (implied : ∀ value state, post value state → weaker value state) :
    Meets protocol program weaker state := by
  induction program generalizing state with
  | done value => exact implied value state meets
  | call request rest ih =>
    exact ⟨meets.1, fun reply next stepped => ih reply (meets.2 reply next stepped)⟩

/-- The specification a handler fixes: the reply and next state are the ones the
handler gives, and a request is admitted when the step it takes is guarded. -/
def Protocol.ofHandler (handler : Handler I σ) (guard : σ → σ → Prop) : Protocol I σ where
  allowed state request := ∀ reply next, handler request state = some (reply, next) →
    guard state next
  step state request reply next := handler request state = some (reply, next)

theorem Meets.of_run {handler : Handler I σ} {guard : σ → σ → Prop} {program : Program I α}
    {post : α → σ → Prop} (meets : Meets (Protocol.ofHandler handler guard) program post state)
    (ran : program.run handler state = some (value, final)) : post value final := by
  induction program generalizing state with
  | done other =>
    cases ran
    exact meets
  | call request rest ih =>
    rw [run_call] at ran
    obtain ⟨⟨reply, next⟩, answered, continued⟩ := Option.bind_eq_some_iff.mp ran
    exact ih reply (meets.2 reply next answered) continued

/-- The state in which a run ends, or in which it issues a request without a defined outcome. -/
def reached (handler : Handler I σ) : Program I α → σ → σ
  | done _, state => state
  | call request rest, state =>
    match handler request state with
    | none => state
    | some (reply, next) => (rest reply).reached handler next

theorem reached_of_run {handler : Handler I σ} {program : Program I α}
    (ran : program.run handler state = some (value, final)) :
    program.reached handler state = final := by
  induction program generalizing state with
  | done other =>
    cases ran
    rfl
  | call request rest ih =>
    rw [run_call] at ran
    obtain ⟨⟨reply, next⟩, answered, continued⟩ := Option.bind_eq_some_iff.mp ran
    rw [reached, answered]
    exact ih reply continued

theorem reached_bind {handler : Handler I σ} (program : Program I α) (next : α → Program I β)
    (state : σ) : (program >>= next).reached handler state =
      ((program.run handler state).map fun result => (next result.1).reached handler result.2).getD
        (program.reached handler state) := by
  induction program generalizing state with
  | done value => rfl
  | call request rest ih =>
    rw [call_bind, reached, reached, run_call]
    cases handler request state with
    | none => rfl
    | some answer => exact ih answer.1 answer.2

/-- A handler does not tell two programs apart, however far their runs come. -/
structure SameFrom (handler : Handler I σ) (state : σ) (left right : Program I α) : Prop where
  run : left.run handler state = right.run handler state
  reached : left.reached handler state = right.reached handler state

section SameFrom

variable {handler : Handler I σ} {state : σ} {left right : Program I α}

theorem SameFrom.refl (program : Program I α) : SameFrom handler state program program := ⟨rfl, rfl⟩

theorem SameFrom.bind {leftNext rightNext : α → Program I β} (first : SameFrom handler state left right)
    (rest : ∀ value middle, right.run handler state = some (value, middle) →
      SameFrom handler middle (leftNext value) (rightNext value)) :
    SameFrom handler state (left >>= leftNext) (right >>= rightNext) := by
  constructor
  · rw [run_bind, run_bind, first.run]
    cases ran : right.run handler state with
    | none => rfl
    | some result => exact (rest result.1 result.2 ran).run
  · rw [reached_bind, reached_bind, first.run, first.reached]
    cases ran : right.run handler state with
    | none => rfl
    | some result => exact (rest result.1 result.2 ran).reached

theorem SameFrom.ite {condition : Prop} [Decidable condition] {leftElse rightElse : Program I α}
    (holds : condition → SameFrom handler state left right)
    (fails : ¬ condition → SameFrom handler state leftElse rightElse) :
    SameFrom handler state (if condition then left else leftElse)
      (if condition then right else rightElse) := by
  by_cases met : condition
  · rw [if_pos met, if_pos met]
    exact holds met
  · rw [if_neg met, if_neg met]
    exact fails met

end SameFrom

/-- A property the guarded steps keep also holds where a run stops early. -/
theorem Meets.reached {handler : Handler I σ} {guard : σ → σ → Prop} {invariant : σ → Prop}
    {program : Program I α} {post : α → σ → Prop}
    (meets : Meets (Protocol.ofHandler handler guard) program post state)
    (kept : ∀ state next, guard state next → invariant state → invariant next)
    (holds : invariant state) : invariant (program.reached handler state) := by
  induction program generalizing state with
  | done other => exact holds
  | call request rest ih =>
    rw [Program.reached]
    split
    · exact holds
    · rename_i reply next answered
      exact ih reply (meets.2 reply next answered)
        (kept state next (meets.1 reply next answered) holds)

/-! ## Guarded handlers -/

/-- The handler that answers only the requests a guard lets pass. -/
def Handler.guarded (handler : Handler I σ) (guard : I.Request → Bool) : Handler I σ :=
  fun request state => if guard request then handler request state else none

/-- Every request of the run passes the guard. -/
def passes (handler : Handler I σ) (guard : I.Request → Bool) : Program I α → σ → Bool
  | done _, _ => true
  | call request rest, state => guard request &&
    match handler request state with
    | none => true
    | some (reply, next) => (rest reply).passes handler guard next

section Guarded

variable {handler : Handler I σ} {guard : I.Request → Bool} {request : I.Request} {state : σ}

theorem Handler.of_guarded {answer : I.Reply request × σ}
    (answered : handler.guarded guard request state = some answer) :
    guard request = true ∧ handler request state = some answer := by
  rw [Handler.guarded] at answered
  split at answered
  · exact ⟨‹_›, answered⟩
  · cases answered

theorem Handler.guarded_of_passes (passed : guard request = true) :
    handler.guarded guard request state = handler request state := if_pos passed

theorem Handler.guarded_of_fails (fails : guard request = false) :
    handler.guarded guard request state = none := by
  rw [Handler.guarded, fails]
  rfl

@[simp] theorem passes_pure (value : α) (state : σ) :
    (pure value : Program I α).passes handler guard state = true := rfl

theorem passes_call (request : I.Request) (rest : I.Reply request → Program I α) (state : σ) :
    (call request rest).passes handler guard state = (guard request &&
      ((handler request state).map fun answer =>
        (rest answer.1).passes handler guard answer.2).getD true) := by
  rw [passes]
  cases handler request state <;> rfl

/-- One request, with nothing after it. -/
theorem passes_request (request : I.Request) (state : σ) :
    (call request done).passes handler guard state = guard request := by
  rw [passes_call]
  cases handler request state <;> simp [passes]

theorem passes_bind (program : Program I α) (next : α → Program I β) (state : σ) :
    (program >>= next).passes handler guard state = (program.passes handler guard state &&
      ((program.run handler state).map fun result =>
        (next result.1).passes handler guard result.2).getD true) := by
  induction program generalizing state with
  | done value => simp [passes, run]
  | call request rest ih =>
    rw [call_bind, passes_call, passes_call, run_call]
    cases handler request state with
    | none => simp
    | some answer => simp [ih answer.1 answer.2, Bool.and_assoc]

@[simp] theorem passes_ite {condition : Prop} [Decidable condition] (left right : Program I α)
    (state : σ) : (if condition then left else right).passes handler guard state =
      if condition then left.passes handler guard state else right.passes handler guard state := by
  split <;> rfl

/-- The guard stops a run at the first request that fails it. -/
theorem run_guarded (program : Program I α) (state : σ) :
    program.run (handler.guarded guard) state =
      if program.passes handler guard state then program.run handler state else none := by
  induction program generalizing state with
  | done value => rfl
  | call request rest ih =>
    rw [run_call, run_call, passes_call]
    cases passed : guard request with
    | false => simp [Handler.guarded_of_fails passed]
    | true =>
      rw [Handler.guarded_of_passes passed]
      cases handler request state with
      | none => rfl
      | some answer => simpa using ih answer.1 answer.2

theorem run_of_guarded {program : Program I α} {result : α × σ}
    (ran : program.run (handler.guarded guard) state = some result) :
    program.passes handler guard state = true ∧ program.run handler state = some result := by
  rw [run_guarded] at ran
  split at ran
  · exact ⟨‹_›, ran⟩
  · cases ran

theorem run_guarded_iff {program : Program I α} {result : α × σ} :
    program.run (handler.guarded guard) state = some result ↔
      program.passes handler guard state = true ∧ program.run handler state = some result := by
  rw [run_guarded]
  split <;> simp_all

/-- A run that passes is not told apart. -/
theorem observed_guarded {observe : I.Request → Option ω} {program : Program I α} {state : σ}
    (passed : program.passes handler guard state = true) :
    program.observed (handler.guarded guard) observe state = program.observed handler observe state := by
  induction program generalizing state with
  | done value => rfl
  | call request rest ih =>
    rw [passes_call, Bool.and_eq_true] at passed
    rw [observed_call, observed_call, Handler.guarded_of_passes passed.1]
    cases answered : handler request state with
    | none => rfl
    | some answer => simp [ih answer.1 (by simpa [answered] using passed.2)]

/-- A run that is stopped shows the beginning of what the run shows. -/
theorem observed_guarded_begins {observe : I.Request → Option ω} (program : Program I α) (state : σ) :
    program.observed (handler.guarded guard) observe state <+: program.observed handler observe state := by
  induction program generalizing state with
  | done value => exact List.prefix_rfl
  | call request rest ih =>
    rw [observed_call, observed_call, List.prefix_append_right_inj]
    cases passed : guard request with
    | false => simp [Handler.guarded_of_fails passed]
    | true =>
      rw [Handler.guarded_of_passes passed]
      cases handler request state with
      | none => exact List.prefix_rfl
      | some answer => exact ih answer.1 answer.2

/-- A program all of whose requests pass. -/
theorem Issues.passes {post : α → Prop} {program : Program I α}
    (issues : Issues (fun request => guard request = true) program post) (state : σ) :
    program.passes handler guard state = true := by
  induction program generalizing state with
  | done value => rfl
  | call request rest ih =>
    rw [passes_call, issues.1, Bool.true_and]
    cases handler request state with
    | none => rfl
    | some answer => exact ih answer.1 (issues.2 answer.1) answer.2

/-- On every path, everything from a marked request on passes. -/
def Clears (guard : I.Request → Bool) (marked : I.Request → Prop) : Program I α → Prop
  | done _ => True
  | call request rest => (marked request → guard request = true) ∧ ∀ reply,
    (marked request → Issues (fun later => guard later = true) (rest reply) fun _ => True) ∧
      (rest reply).Clears guard marked

section Clears

variable {marked : I.Request → Prop}

theorem clears_of_issues {program : Program I α}
    (passing : Issues (fun request => guard request = true) program fun _ => True) :
    program.Clears guard marked := by
  induction program with
  | done value => trivial
  | call request rest ih =>
    exact ⟨fun _ => passing.1, fun reply => ⟨fun _ => passing.2 reply, ih reply (passing.2 reply)⟩⟩

theorem clears_of_unmarked {program : Program I α}
    (unmarked : Issues (fun request => ¬ marked request) program fun _ => True) :
    program.Clears guard marked := by
  induction program with
  | done value => trivial
  | call request rest ih =>
    exact ⟨fun mark => absurd mark unmarked.1,
      fun reply => ⟨fun mark => absurd mark unmarked.1, ih reply (unmarked.2 reply)⟩⟩

theorem clears_bind {program : Program I α} {next : α → Program I β}
    (unmarked : Issues (fun request => ¬ marked request) program fun _ => True)
    (rest : ∀ value, (next value).Clears guard marked) : (program >>= next).Clears guard marked := by
  induction program with
  | done value => exact rest value
  | call request more ih =>
    exact ⟨fun mark => absurd mark unmarked.1,
      fun reply => ⟨fun mark => absurd mark unmarked.1, ih reply (unmarked.2 reply)⟩⟩

/-- A run that gets to a marked request is not stopped. -/
theorem Clears.passes {observe : I.Request → Option ω} {event : ω} {program : Program I α}
    (clears : program.Clears guard marked) (marks : ∀ request, observe request = some event → marked request)
    (seen : event ∈ program.observed (handler.guarded guard) observe state) :
    program.passes handler guard state = true := by
  induction program generalizing state with
  | done value => rfl
  | call request rest ih =>
    rw [observed_call, List.mem_append, Option.mem_toList] at seen
    rw [passes_call]
    rcases seen with here | later
    · have mark := marks request here
      rw [clears.1 mark, Bool.true_and]
      cases handler request state with
      | none => rfl
      | some answer => exact ((clears.2 answer.1).1 mark).passes answer.2
    · cases passed : guard request with
      | false => simp [Handler.guarded_of_fails passed] at later
      | true =>
        rw [Handler.guarded_of_passes passed] at later
        cases answered : handler request state with
        | none => rfl
        | some answer =>
          rw [answered] at later
          exact ih answer.1 (clears.2 answer.1).2 later

end Clears

theorem Handler.traced_guarded (observe : I.Request → Option ω) :
    (handler.guarded guard).traced observe = (handler.traced observe).guarded guard := by
  funext request state
  rw [Handler.traced, Handler.guarded, Handler.guarded]
  split <;> rfl

theorem passes_traced (observe : I.Request → Option ω) (program : Program I α) (state : σ)
    (trace : List ω) : program.passes (handler.traced observe) guard (state, trace) =
      program.passes handler guard state := by
  induction program generalizing state trace with
  | done value => rfl
  | call request rest ih =>
    rw [passes_call, passes_call, Handler.traced]
    cases handler request state with
    | none => rfl
    | some answer => simp [ih]

/-- What a handler keeps, the guarded one keeps. -/
theorem Meets.guarded {kept : σ → σ → Prop} {program : Program I α} {post : α → σ → Prop}
    (meets : Meets (Protocol.ofHandler handler kept) program post state) :
    Meets (Protocol.ofHandler (handler.guarded guard) kept) program post state := by
  induction program generalizing state with
  | done value => exact meets
  | call request rest ih =>
    exact ⟨fun reply next answered => meets.1 reply next (Handler.of_guarded answered).2,
      fun reply next answered => ih reply (meets.2 reply next (Handler.of_guarded answered).2)⟩

/-- Finishing under a guard is finishing with every request let pass. -/
theorem finishes_guarded {forbidden : I.Request → Bool} {program : Program I α}
    {post : α → σ → Prop} : Finishes (handler.guarded guard) forbidden program post state ↔
      program.passes handler guard state = true ∧ Finishes handler forbidden program post state := by
  induction program generalizing state with
  | done value => simp [Finishes, Program.passes]
  | call request rest ih =>
    rw [Finishes, Finishes, passes_call, Bool.and_eq_true]
    cases passed : guard request with
    | false => simp [Handler.guarded_of_fails passed]
    | true =>
      rw [Handler.guarded_of_passes passed]
      constructor
      · rintro ⟨admitted, reply, next, answered, finishes⟩
        obtain ⟨passed, finishes⟩ := (ih reply).mp finishes
        exact ⟨⟨rfl, by simpa [answered] using passed⟩, admitted, reply, next, answered, finishes⟩
      · rintro ⟨⟨-, passed⟩, admitted, reply, next, answered, finishes⟩
        exact ⟨admitted, reply, next, answered, (ih reply).mpr ⟨by simpa [answered] using passed, finishes⟩⟩

end Guarded

end Program

end IotstackDriver.Support
