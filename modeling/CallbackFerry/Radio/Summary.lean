import CallbackFerry.Radio.MessageCode
import CallbackFerry.Radio.ResetReason
import CallbackFerry.Text.Utf8

/-!
# What a response says

A response names a command, and its bytes say how the command went.  A *response event* wraps the
reply to another command: its second byte names that command.  `Summary.ofResponse` reads the reply
that is wrapped as if it had come by itself, and `Summary.ofPlain` reads a response that wraps
nothing.  A response event that names a response event wraps nothing, so reading goes on at most
once.
-/

namespace CallbackFerry

/-- What was read out of one response. -/
inductive Summary where
  /-- The text of the firmware version. -/
  | version (text : String)
  /-- The device has been reset. -/
  | startup (reason : ResetReason)
  /-- The status of a command; code zero means success. -/
  | status (command : MessageCode) (code : UInt8)
  /-- Nothing beyond the name of the message. -/
  | other (command : MessageCode)
  deriving DecidableEq, Repr

namespace Summary

/-- Reads the bytes of a response that names `command` and wraps nothing. -/
def ofPlain (command : MessageCode) (data : Bytes) : Summary :=
  match command with
  | .version => .version (Utf8.decodeLossy (data.takeWhile (· != 0)))
  | .startupMesg =>
    match data.head? with
    | some byte => .startup (ResetReason.ofByte byte)
    | none => .other command
  | .responseEvent | .unknown _ => .other command
  | _ =>
    match data[2]? with
    | some code => .status command code
    | none => .other command

/-- The command of the reply that a response wraps, if it wraps one.  Only response events do, and
one whose second byte names a response event again does not. -/
def wrapped? (command : MessageCode) (data : Bytes) : Option MessageCode :=
  match command, data[1]? with
  | .responseEvent, some byte =>
    if MessageCode.ofByte byte = .responseEvent then none else some (MessageCode.ofByte byte)
  | _, _ => none

/-- A response that wraps a reply is a response event, and the reply is none. -/
theorem wrapped?_eq_some {command inner : MessageCode} {data : Bytes}
    (wraps : wrapped? command data = some inner) :
    command = .responseEvent ∧ inner ≠ .responseEvent := by
  unfold wrapped? at wraps
  split at wraps
  · split at wraps
    · cases wraps
    · next other =>
      obtain rfl := Option.some.inj wraps
      exact ⟨rfl, other⟩
  · cases wraps

/-- What a response says.  A reply that it wraps is read from the same bytes. -/
def ofResponse (command : MessageCode) (data : Bytes) : Summary :=
  match _ : wrapped? command data with
  | some inner => ofResponse inner data
  | none => ofPlain command data
termination_by if command = .responseEvent then 1 else 0
decreasing_by
  obtain ⟨outer, inside⟩ := wrapped?_eq_some ‹wrapped? command data = some inner›
  rw [if_pos outer, if_neg inside]
  exact Nat.one_pos

end Summary
end CallbackFerry
