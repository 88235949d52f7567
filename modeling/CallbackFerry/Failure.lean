import CallbackFerry.Radio.Frame
import CallbackFerry.Time

/-!
# What can go wrong

A `Fault` is what a piece of host code leaves behind when it breaks off instead of returning: an
object that whoever catches it can look at and raise again.  A `Failure` is what a caller is told:
the cause, with the wording in one function, `Failure.message`.
-/

namespace CallbackFerry

/-- What host code leaves behind when it breaks off: a message, or something without words. -/
structure Fault where
  /-- The message, if there is one. -/
  words : Option String
  /-- Tells this fault from all others, those with the same words included. -/
  mark : Nat := 0
  deriving DecidableEq, Repr

namespace Fault

/-- A fault with a message. -/
def message (text : String) (mark : Nat := 0) : Fault := ⟨some text, mark⟩

/-- A fault without words. -/
def wordless (mark : Nat := 0) : Fault := ⟨none, mark⟩

/-- What a fault says; one without words has a fixed text. -/
def text (fault : Fault) : String :=
  fault.words.getD "callback panicked with a non-string payload"

end Fault

/-- Why a caller did not get what it asked for. -/
inductive Failure where
  /-- The channel has no handler. -/
  | unknownChannel (channel : Channel)
  /-- The callback's function broke off. -/
  | fault (text : String)
  /-- The callback was discarded without running. -/
  | abandoned
  /-- No result came in time. -/
  | timeout (after : Span)
  /-- Nothing is accepted any more. -/
  | shutDown
  /-- The host cannot take work. -/
  | hostUnavailable (reason : String)
  /-- The settings cannot be used. -/
  | config (reason : String)
  /-- The message itself is wrong. -/
  | protocol (cause : FrameError)
  /-- The operating system refused. -/
  | io (reason : String)
  deriving DecidableEq, Repr

/-- The wording of a failure. -/
def Failure.message : Failure → String
  | .unknownChannel channel => "Unknown channel: " ++ channel.text
  | .fault text => "Callback fault: " ++ text
  | .abandoned => "Callback abandoned before execution"
  | .timeout after => "Timed out after " ++ after.text ++ " waiting for callback result"
  | .shutDown => "Callback bridge is shut down"
  | .hostUnavailable reason => "Host domain unavailable: " ++ reason
  | .config reason => "Configuration error: " ++ reason
  | .protocol cause => "Protocol error: " ++ cause.message
  | .io reason => "IO error: " ++ reason

end CallbackFerry
