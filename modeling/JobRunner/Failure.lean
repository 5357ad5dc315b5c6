import JobRunner.Text.Blank
import JobRunner.Text.Case

/-!
# Failures

What a handler reports when it does not succeed.

- `Failure`: a code and a message.
- `Failure.Kind`: the codes with a meaning of their own.
- `Failure.isTransient`: whether another attempt may succeed. Every code is transient that is not
  known to be final.
-/

namespace JobRunner

/-- The report of an attempt that did not succeed. -/
structure Failure where
  code : String
  message : String
  deriving DecidableEq, Repr, Inhabited

namespace Failure

/-- The codes with a meaning of their own. -/
inductive Kind where
  | handler
  | timeout
  | panic
  | badPayload
  | unknownJobType
  | workerShutdown
  deriving DecidableEq, Repr

namespace Kind

/-- All kinds. -/
def all : List Kind := [.handler, .timeout, .panic, .badPayload, .unknownJobType, .workerShutdown]

/-- The code of a kind. -/
def code : Kind → String
  | handler => "HANDLER_ERROR"
  | timeout => "TIMEOUT"
  | panic => "PANIC"
  | badPayload => "BAD_PAYLOAD"
  | unknownJobType => "UNKNOWN_JOB_TYPE"
  | workerShutdown => "WORKER_SHUTDOWN"

/-- The kind that a code names, in any case and with blanks around it. -/
def parse? (s : String) : Option Kind :=
  let code := Text.upper (Text.trim s)
  all.find? (·.code == code)

/-- Whether another attempt cannot succeed either. -/
def isFinal : Kind → Bool
  | badPayload | unknownJobType => true
  | _ => false

end Kind

/-- Whether a failure with this code may pass; unknown codes may. -/
def isTransientCode (code : String) : Bool :=
  match Kind.parse? code with
  | some kind => !kind.isFinal
  | none => true

/-- Whether another attempt may succeed. -/
def isTransient (f : Failure) : Bool := isTransientCode f.code

/-- A failure of a known kind. -/
def ofKind (kind : Kind) (message : String) : Failure := ⟨kind.code, message⟩

/-- A failure without a code of its own. -/
def generic (message : String) : Failure := ofKind .handler message

/-- A payload that the handler cannot use. -/
def badPayload (message : String) : Failure := ofKind .badPayload message

/-- A handler that took longer than its limit in milliseconds. -/
def timeout (limit : Nat) : Failure :=
  ofKind .timeout ("handler timeout after " ++ toString limit ++ "ms")

/-- A handler that broke off; the message is what it left behind, if that was a text. -/
def panicked (message : Option String) : Failure :=
  ofKind .panic (message.getD "handler panicked")

/-- A job whose type has no handler. -/
def noHandler (jobType : String) : Failure :=
  ofKind .unknownJobType ("no handler for job_type=" ++ jobType)

end Failure

end JobRunner
