import IotstackDriver.Edge.Callbacks

/-! Runs that keep what they publish or which handlers they call. -/

namespace IotstackDriver.Edge

open Libc Support

/-- The handler call a request makes. -/
def invocation : Request → Option HandlerCall
  | .invoke call => some call
  | _ => none

/-- The subject and text a request hands to NATS. -/
def publication : Request → Option (Bytes × Bytes)
  | .publishString subject text => some (subject, text)
  | _ => none

/-- Run a program and keep what is observed of its requests. -/
def trace (handler : Program.Handler edge World) (observe : Request → Option ω)
    (program : Program edge α) (world : World) (seen : List ω) : Option (α × World × List ω) :=
  program.run (handler.traced observe) (world, seen)

variable {observe : Request → Option ω} {env : Env} {world : World} {seen : List ω}

/-- The trace is that of the run itself. -/
theorem trace_run (program : Program edge α) :
    ((trace (respond env) observe program world seen).map fun result => (result.1, result.2.1)) =
      program.run (respond env) world :=
  Program.run_traced program world seen

/-- A run finishes with what it shows without its logs, if these fit. -/
theorem trace_handle_iff {program : Program edge α} {result : α × World × List ω} :
    trace (handle env) observe program world seen = some result ↔
      LogsFit env program world ∧ trace (respond env) observe program world seen = some result := by
  rw [trace, handle, Program.Handler.traced_guarded, Program.run_guarded_iff, Program.passes_traced]
  rfl

theorem trace_pure (value : α) :
    trace (respond env) observe (pure value) world seen = some (value, world, seen) := rfl

theorem trace_bind (program : Program edge α) (next : α → Program edge β) :
    trace (respond env) observe (program >>= next) world seen =
      (trace (respond env) observe program world seen).bind fun result =>
        trace (respond env) observe (next result.1) result.2.1 result.2.2 :=
  Program.run_bind ..

private theorem trace_call (request : Request) (rest : request.Reply → Program edge α) :
    trace (respond env) observe (.call request rest) world seen = (respond env request world).bind fun answer =>
      trace (respond env) observe (rest answer.1) answer.2 (seen ++ (observe request).toList) := by
  rw [trace, Program.run_call, Program.Handler.traced]
  cases respond env request world <;> rfl

theorem trace_malloc (site : AllocSite) : trace (respond env) observe (malloc site) world seen =
    some (env.malloc site, world, seen ++ (observe (.malloc site)).toList) := rfl

theorem trace_logWrite (level : LogLevel) (format : String) (args : List Arg) :
    trace (respond env) observe (logWrite level format args) world seen =
      some ((), world, seen ++ (observe (.logWrite level format args)).toList) := rfl

theorem trace_free (resource : Resource) : trace (respond env) observe (free resource) world seen =
    some ((), world, seen ++ (observe (.free resource)).toList) := rfl

theorem trace_invoke (call : HandlerCall) : trace (respond env) observe (invoke call) world seen =
    some ((), world, seen ++ (observe (.invoke call)).toList) := rfl

theorem trace_publishAndFlush (subj str : Bytes) :
    trace (respond env) observe (publishAndFlush subj str) world seen =
      some (env.publishStatus.or env.flushStatus, world,
        seen ++ (observe (.publishString subj str)).toList ++ (observe .flush).toList) := rfl

theorem trace_fault : trace (respond env) observe (fault : Program edge α) world seen = none := rfl

theorem trace_readClient (client : Ref) : trace (respond env) observe (readClient client) world seen =
    (world.devices.value? client).map fun own =>
      (own, { world with devices := world.devices.touch client },
        seen ++ (observe (.readClient client)).toList) := by
  rw [readClient, trace_call, respond]
  cases world.devices.value? client <;> rfl

theorem trace_findInList (deviceSn : CString) :
    trace (respond env) observe (findInList .connDevice (some deviceSn)) world seen =
      some (if env.malloc (.listIterator .connDevice) then
        (world.devices.find? (subdevClientMatch deviceSn),
          { world with devices := (searchList world.devices (subdevClientMatch deviceSn)).2 },
          seen ++ (observe (.find .connDevice (some deviceSn))).toList)
      else (none, world, seen ++ (observe (.find .connDevice (some deviceSn))).toList)) := by
  rw [findInList, find, trace_call, respond]
  cases env.malloc (.listIterator .connDevice) <;> rfl

/-- An optional handler is called when it is set. -/
theorem trace_forM (handler : Option HandlerPtr) (call : HandlerPtr → HandlerCall) :
    trace (respond env) observe (handler.forM fun handler => invoke (call handler)) world seen =
      some ((), world, seen ++ (handler.bind fun handler => observe (.invoke (call handler))).toList) := by
  cases handler with
  | none => simp [Option.forM, trace_pure]
  | some handler => rfl

end IotstackDriver.Edge
