import IotstackDriver.Edge.Client
import IotstackDriver.Edge.ReplaceStr

/-! `log_write`. Elsewhere a log is one request; here it is the program that uploads it. -/

namespace IotstackDriver.Edge.LogUpload

open Libc Support

inductive LogBuffer where
  | msgStrRep
  | msgStr
  | logMsg
  deriving DecidableEq

/-- The effects of `log_write`. `fault` is a store outside a buffer. -/
inductive LogRequest where
  | malloc (buffer : LogBuffer)
  | gettimeofday
  | publishString (subject text : Bytes)
  | flush
  | free (buffer : LogBuffer)
  | fault

/-- The time is given by its seconds. -/
abbrev LogRequest.Reply : LogRequest → Type
  | malloc _ => Bool
  | gettimeofday => Int
  | fault => Empty
  | _ => Unit

@[reducible] def logging : Interface := ⟨LogRequest, LogRequest.Reply⟩

def malloc (buffer : LogBuffer) : Program logging Bool := .call (.malloc buffer) .done
def gettimeofday : Program logging Int := .call .gettimeofday .done
def publishString (subject text : Bytes) : Program logging Unit :=
  .call (.publishString subject text) .done
def flush : Program logging Unit := .call .flush .done
def free (buffer : LogBuffer) : Program logging Unit := .call (.free buffer) .done
def fault : Program logging α := .call .fault Empty.elim

def levelName : LogLevel → Bytes
  | .debug => ascii "debug"
  | .info => ascii "info"
  | .warn => ascii "warn"
  | .error => ascii "error"

def logUploadFormat : String :=
  "\x7b\"module\": \"drv_%s\",\"level\": \"%s\",\"message\": \"%s\",\"timestamp\": %ld\x7d"

def edgeLogUploadSubject : Bytes := ascii "edge.log.upload"

def quoteMark : Bytes := ascii "\""
def escapedQuote : Bytes := ascii "\\\""

/-- A level outside the named ones ends the source's function at once. `print_debug` is 0,
so `log_print` prints nothing. -/
def logWrite (driverName : Bytes) (level : LogLevel) (text : String) (args : List Arg) :
    Program logging Unit := do
  if !(← malloc .msgStrRep) then return
  let seconds ← gettimeofday
  if !(← malloc .msgStr) then
    free .msgStrRep
    return
  if !(← malloc .logMsg) then
    free .msgStrRep
    free .msgStr
    return
  match replaceInto natsMsgMaxLen .zero (msgStr text args).bytes quoteMark escapedQuote with
  | none => fault
  | some msgStrRep =>
    publishString edgeLogUploadSubject (snprintf natsMsgMaxLen logUploadFormat [.str driverName,
      .str (levelName level), .str (msgStrRep.cString natsMsgMaxLen), .int seconds])
    flush
    free .msgStrRep
    free .msgStr
    free .logMsg

end IotstackDriver.Edge.LogUpload
