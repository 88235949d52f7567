import CallbackFerry.Host.Acts
import CallbackFerry.Proofs.Text.Utf8
import Mathlib.Data.List.TakeWhile

/-!
# What responses say

Every response says something, whatever its command and its bytes are.  What it says goes by its
*subject*: the command that it names itself, or the one that a response event names in its second
byte.  `Means` lists what there is to read from some bytes about a subject, and
`ofResponse_eq_iff` says that just this is read.  On the way there a reply is unwrapped at most once
(`reads_iff`).

The handler that comments on responses accepts all of them and writes one line about each, for which
`Commentary.Said` gives the rules.  `Response.understood` is about both, the reading and the line.
-/

namespace CallbackFerry

/-! ### Subjects -/

/-- Whether a reply to the command reports a status. -/
structure MessageCode.Reports (code : MessageCode) : Prop where
  /-- The command is known. -/
  known : ∀ byte, code ≠ .unknown byte
  /-- The reply is no version. -/
  version : code ≠ .version
  /-- It is no startup message. -/
  startup : code ≠ .startupMesg
  /-- It is no response event. -/
  event : code ≠ .responseEvent

/-- A command reports a status, or its replies are of one of the other kinds. -/
theorem MessageCode.kinds (code : MessageCode) : code = .version ∨ code = .startupMesg ∨
    code = .responseEvent ∨ (∃ byte, code = .unknown byte) ∨ code.Reports := by
  by_contra! none
  obtain ⟨version, startup, event, known, silent⟩ := none
  exact silent ⟨known, version, startup, event⟩

theorem MessageCode.ofByte_eq_responseEvent_iff {byte : UInt8} :
    ofByte byte = .responseEvent ↔ byte = 0x40 := by
  constructor
  · intro event
    rw [← toByte_ofByte byte, event]
    rfl
  · rintro rfl
    rfl

namespace Summary

variable {command inner message : MessageCode} {data : Bytes} {summary : Summary}

/-- The command that a response is about: a response event with a second byte is about the command
that this byte names, unless it names a response event again. -/
def subject (command : MessageCode) (data : Bytes) : MessageCode :=
  match data[1]? with
  | some byte => if command = .responseEvent ∧ byte ≠ 0x40 then .ofByte byte else command
  | none => command

theorem subject_of_wraps (wraps : wrapped? command data = some inner) :
    subject command data = inner := by
  unfold wrapped? at wraps
  split at wraps
  · next byte second =>
    simp only [MessageCode.ofByte_eq_responseEvent_iff] at wraps
    split at wraps
    · cases wraps
    · next other =>
      rw [subject, second]
      exact (if_pos ⟨rfl, other⟩).trans (Option.some.inj wraps)
  · cases wraps

theorem subject_of_wraps_nothing (nothing : wrapped? command data = none) :
    subject command data = command := by
  unfold subject
  split
  · next byte second =>
    rw [ite_eq_right_iff]
    rintro ⟨rfl, other⟩
    simp only [wrapped?, second, MessageCode.ofByte_eq_responseEvent_iff, if_neg other] at nothing
    cases nothing
  · rfl

/-- A reply that is wrapped wraps nothing itself. -/
theorem wrapped?_of_wraps (wraps : wrapped? command data = some inner) :
    wrapped? inner data = none := by
  rw [Option.eq_none_iff_forall_ne_some]
  intro innermost again
  exact (wrapped?_eq_some wraps).2 (wrapped?_eq_some again).1

theorem subject_eq_self_iff : subject command data = command ↔ wrapped? command data = none := by
  refine ⟨fun same => ?_, subject_of_wraps_nothing⟩
  rw [Option.eq_none_iff_forall_ne_some]
  intro inner wraps
  rw [subject_of_wraps wraps] at same
  obtain ⟨outer, inside⟩ := wrapped?_eq_some wraps
  exact inside (same.trans outer)

theorem subject_subject (command : MessageCode) (data : Bytes) :
    subject (subject command data) data = subject command data := by
  cases wraps : wrapped? command data with
  | none => rw [subject_of_wraps_nothing wraps, subject_of_wraps_nothing wraps]
  | some inner =>
    rw [subject_of_wraps wraps, subject_of_wraps_nothing (wrapped?_of_wraps wraps)]

/-- A response event that names no other command is about itself. -/
theorem subject_responseEvent (none : ∀ byte, data[1]? = some byte → byte = 0x40) :
    subject .responseEvent data = .responseEvent := by
  unfold subject
  split
  · next byte second => exact if_neg fun ⟨_, different⟩ => different (none byte second)
  · rfl

/-! ### Unwrapping -/

/-- How a response is read, and how many replies are unwrapped on the way. -/
inductive Reads (data : Bytes) : MessageCode → Nat → Summary → Prop
  /-- It wraps nothing. -/
  | plain {command : MessageCode} (nothing : wrapped? command data = none) :
      Reads data command 0 (ofPlain command data)
  /-- The reply that it wraps is read. -/
  | wrapped {command inner : MessageCode} {unwrapped : Nat} {summary : Summary}
      (wraps : wrapped? command data = some inner) (reads : Reads data inner unwrapped summary) :
      Reads data command (unwrapped + 1) summary

theorem ofResponse_of_wraps (wraps : wrapped? command data = some inner) :
    ofResponse command data = ofResponse inner data := by
  rw [ofResponse]
  split
  · next other here =>
    rw [wraps] at here
    rw [Option.some.inj here]
  · next nothing =>
    rw [wraps] at nothing
    cases nothing

theorem ofResponse_of_wraps_nothing (nothing : wrapped? command data = none) :
    ofResponse command data = ofPlain command data := by
  rw [ofResponse]
  split
  · next inner wraps =>
    rw [nothing] at wraps
    cases wraps
  · rfl

/-- What is read is what the subject says when it comes by itself. -/
theorem ofResponse_eq_ofPlain (command : MessageCode) (data : Bytes) :
    ofResponse command data = ofPlain (subject command data) data := by
  cases wraps : wrapped? command data with
  | none => rw [ofResponse_of_wraps_nothing wraps, subject_of_wraps_nothing wraps]
  | some inner =>
    rw [ofResponse_of_wraps wraps, subject_of_wraps wraps,
      ofResponse_of_wraps_nothing (wrapped?_of_wraps wraps)]

/-- There is one way to read a response, and at most one reply is unwrapped on it. -/
theorem reads_iff {unwrapped : Nat} : Reads data command unwrapped summary ↔
    summary = ofResponse command data ∧
      unwrapped = if subject command data = command then 0 else 1 := by
  constructor
  · intro reads
    cases reads with
    | plain nothing =>
      rw [ofResponse_of_wraps_nothing nothing, if_pos (subject_of_wraps_nothing nothing)]
      exact ⟨rfl, rfl⟩
    | wrapped wraps reads =>
      have outer : subject command data ≠ command := by
        rw [Ne, subject_eq_self_iff, wraps]
        exact Option.some_ne_none _
      rw [if_neg outer, ofResponse_of_wraps wraps]
      -- What is wrapped wraps nothing, so this is the last step.
      cases reads with
      | plain nothing => exact ⟨(ofResponse_of_wraps_nothing nothing).symm, rfl⟩
      | wrapped again =>
        rw [wrapped?_of_wraps wraps] at again
        cases again
  · rintro ⟨rfl, rfl⟩
    cases wraps : wrapped? command data with
    | none =>
      rw [if_pos (subject_of_wraps_nothing wraps), ofResponse_of_wraps_nothing wraps]
      exact .plain wraps
    | some inner =>
      have none := wrapped?_of_wraps wraps
      rw [if_neg (by simp [subject_eq_self_iff, wraps]), ofResponse_of_wraps wraps,
        ofResponse_of_wraps_nothing none]
      exact .wrapped wraps (.plain none)

/-! ### What there is to read -/

/-- Which bytes stand in front of the first zero; that is all of them if there is none. -/
structure Front (data front : Bytes) : Prop where
  /-- There is no zero among them. -/
  zeroless : 0 ∉ front
  /-- What comes behind them is a zero, if anything does. -/
  ends : data = front ∨ front ++ [0] <+: data

theorem front_iff {front : Bytes} : Front data front ↔ data.takeWhile (· != 0) = front := by
  constructor
  · rintro ⟨zeroless, ends⟩
    have all : ∀ byte ∈ front, (byte != 0) = true := by
      intro byte member
      rw [bne_iff_ne]
      rintro rfl
      exact zeroless member
    rcases ends with rfl | ⟨behind, rfl⟩
    · exact List.takeWhile_eq_self_iff.mpr all
    · rw [List.append_assoc, List.takeWhile_append_of_pos all]
      simp
  · rintro rfl
    refine ⟨fun zero => by simpa using List.mem_takeWhile_imp zero, ?_⟩
    have parts := List.takeWhile_append_dropWhile (p := (· != 0)) (l := data)
    cases behind : data.dropWhile (· != 0) with
    | nil =>
      rw [behind, List.append_nil] at parts
      exact .inl parts.symm
    | cons byte rest =>
      -- The first byte that is left is the one that the front stopped at.
      have zero : byte = 0 := by
        have stops := List.head_dropWhile_not (· != 0) (l := data) (by simp [behind])
        simpa [behind] using stops
      rw [behind, zero] at parts
      refine .inr ⟨rest, ?_⟩
      rw [List.append_assoc]
      exact parts

/-- Whether there is nothing to read about a subject but its name. -/
structure Bare (message : MessageCode) (data : Bytes) : Prop where
  /-- A version can always be read. -/
  version : message ≠ .version
  /-- The reason of a startup stands first. -/
  startup : message = .startupMesg → data = []
  /-- The status of a command stands third. -/
  status : message.Reports → data.length < 3

/-- What there is to read about a subject. -/
inductive Means (data : Bytes) : MessageCode → Summary → Prop
  /-- The version is the text in front of the first zero. -/
  | version {front : Bytes} {text : String} (before : Front data front)
      (lossy : Utf8.Lossy front text.toList) : Means data .version (.version text)
  /-- The first byte is the reason of a startup. -/
  | startup {byte : UInt8} (first : data[0]? = some byte) :
      Means data .startupMesg (.startup (.ofByte byte))
  /-- The third byte is the status of a command. -/
  | status {message : MessageCode} {code : UInt8} (reports : message.Reports)
      (third : data[2]? = some code) : Means data message (.status message code)
  /-- There is nothing else to read. -/
  | other {message : MessageCode} (bare : Bare message data) : Means data message (.other message)

theorem ofPlain_of_reports (reports : message.Reports) : ofPlain message data =
    match data[2]? with
    | some code => .status message code
    | none => .other message := by
  obtain ⟨known, version, startup, event⟩ := reports
  cases message with
  | version => exact absurd rfl version
  | startupMesg => exact absurd rfl startup
  | responseEvent => exact absurd rfl event
  | unknown byte => exact absurd rfl (known byte)
  | _ => rfl

theorem means_ofPlain (message : MessageCode) (data : Bytes) :
    Means data message (ofPlain message data) := by
  rcases message.kinds with rfl | rfl | rfl | ⟨byte, rfl⟩ | reports
  · exact .version (front_iff.mpr rfl) (Utf8.decodeLossy_eq_iff.mp rfl)
  · cases data with
    | nil => exact .other ⟨nofun, fun _ => rfl, fun reports => absurd rfl reports.startup⟩
    | cons byte rest => exact .startup rfl
  · exact .other ⟨nofun, nofun, fun reports => absurd rfl reports.event⟩
  · exact .other ⟨nofun, nofun, fun reports => absurd rfl (reports.known byte)⟩
  · rw [ofPlain_of_reports reports]
    split
    · next third => exact .status reports third
    · next short =>
      refine .other ⟨reports.version, fun startup => absurd startup reports.startup, fun _ => ?_⟩
      rw [List.getElem?_eq_none_iff] at short
      omega

theorem ofPlain_eq_of_means (means : Means data message summary) :
    ofPlain message data = summary := by
  cases means with
  | version before lossy =>
    rw [ofPlain, front_iff.mp before, Utf8.decodeLossy_eq_iff.mpr lossy]
  | startup first =>
    rw [← List.head?_eq_getElem?] at first
    rw [ofPlain, first]
  | status reports third => rw [ofPlain_of_reports reports, third]
  | other bare =>
    rcases message.kinds with rfl | rfl | rfl | ⟨byte, rfl⟩ | reports
    · exact absurd rfl bare.version
    · rw [bare.startup rfl]
      rfl
    · rfl
    · rfl
    · rw [ofPlain_of_reports reports,
        List.getElem?_eq_none (Nat.le_of_lt_succ (bare.status reports))]

/-- A response says what there is to read about its subject. -/
theorem ofResponse_eq_iff :
    ofResponse command data = summary ↔ Means data (subject command data) summary := by
  rw [ofResponse_eq_ofPlain]
  exact ⟨fun same => same ▸ means_ofPlain _ data, ofPlain_eq_of_means⟩

section Means

variable {about : MessageCode}

theorem means_version_iff {text : String} : Means data about (.version text) ↔
    about = .version ∧ ∃ front, Front data front ∧ Utf8.Lossy front text.toList := by
  constructor
  · rintro (⟨before, lossy⟩ | _ | _ | _)
    exact ⟨rfl, _, before, lossy⟩
  · rintro ⟨rfl, front, before, lossy⟩
    exact .version before lossy

theorem means_startup_iff {reason : ResetReason} : Means data about (.startup reason) ↔
    about = .startupMesg ∧ ∃ byte, data[0]? = some byte ∧ reason = .ofByte byte := by
  constructor
  · rintro (_ | ⟨first⟩ | _ | _)
    exact ⟨rfl, _, first, rfl⟩
  · rintro ⟨rfl, byte, first, rfl⟩
    exact .startup first

theorem means_status_iff {code : UInt8} : Means data about (.status message code) ↔
    message = about ∧ message.Reports ∧ data[2]? = some code := by
  constructor
  · rintro (_ | _ | ⟨reports, third⟩ | _)
    exact ⟨rfl, reports, third⟩
  · rintro ⟨rfl, reports, third⟩
    exact .status reports third

theorem means_other_iff :
    Means data about (.other message) ↔ message = about ∧ Bare message data := by
  constructor
  · rintro (_ | _ | _ | ⟨bare⟩)
    exact ⟨rfl, bare⟩
  · rintro ⟨rfl, bare⟩
    exact .other bare

end Means

/-- What it means that just this is to be read out of a response. -/
structure Faithful (command : MessageCode) (data : Bytes) (summary : Summary) : Prop where
  /-- Reading ends, and unwraps one reply at the most. -/
  ends : ∃ unwrapped ≤ 1, ∀ times other,
    Reads data command times other ↔ times = unwrapped ∧ other = summary
  /-- It reads as its subject does when that comes by itself. -/
  unwrapped : summary = ofResponse (subject command data) data
  /-- A response event that names no other command says no more than its name. -/
  empty : command = .responseEvent → (∀ byte, data[1]? = some byte → byte = 0x40) →
    summary = .other .responseEvent
  /-- A status is that of the subject, and stands third. -/
  status : ∀ message code, summary = .status message code ↔
    message = subject command data ∧ message.Reports ∧ data[2]? = some code
  /-- A version is the text in front of the first zero. -/
  version : ∀ text, summary = .version text ↔
    subject command data = .version ∧ ∃ front, Front data front ∧ Utf8.Lossy front text.toList
  /-- It has no NUL character. -/
  nulless : ∀ text, summary = .version text → '\x00' ∉ text.toList
  /-- What comes behind the first zero makes no difference to it. -/
  behind : ∀ other others front, Front data front → Front others front →
    subject command data = .version → subject other others = .version →
      ofResponse other others = summary
  /-- The reason of a startup stands first. -/
  startup : ∀ reason, summary = .startup reason ↔
    subject command data = .startupMesg ∧ ∃ byte, data[0]? = some byte ∧ reason = .ofByte byte
  /-- In all other cases only the name of the subject is read. -/
  other : ∀ message, summary = .other message ↔ message = subject command data ∧ Bare message data

theorem faithful_ofResponse (command : MessageCode) (data : Bytes) :
    Faithful command data (ofResponse command data) where
  ends := by
    refine ⟨if subject command data = command then 0 else 1, by split <;> decide, ?_⟩
    intro times other
    rw [reads_iff, and_comm]
  unwrapped := by
    rw [ofResponse_eq_ofPlain, ofResponse_eq_ofPlain, subject_subject]
  empty := by
    rintro rfl none
    rw [ofResponse_eq_ofPlain, subject_responseEvent none]
    rfl
  status _ _ := ofResponse_eq_iff.trans means_status_iff
  version _ := ofResponse_eq_iff.trans means_version_iff
  nulless text version nul := by
    rw [ofResponse_eq_iff, means_version_iff] at version
    obtain ⟨-, front, before, lossy⟩ := version
    exact before.zeroless (lossy.zero_mem nul)
  behind other others front before again version another := by
    rw [ofResponse_eq_ofPlain, ofResponse_eq_ofPlain, version, another, ofPlain, ofPlain,
      front_iff.mp before, front_iff.mp again]
  startup _ := ofResponse_eq_iff.trans means_startup_iff
  other _ := ofResponse_eq_iff.trans means_other_iff

/-- A response event that names a response event is not unwrapped. -/
example : ofResponse .responseEvent [0, 0x40, 0] = .other .responseEvent := by cbv

end Summary

/-! ### What is said about it -/

namespace Commentary

open Summary (subject Front Bare Means)

variable {channel : Channel} {command message : MessageCode} {data : Bytes} {level : Level}
  {text : String}

/-- What there is to say about a response, by its subject, and how loud. -/
inductive Said (channel : Channel) (data : Bytes) : MessageCode → Level → String → Prop
  /-- A version is told. -/
  | version {front : Bytes} {text : String} (before : Front data front)
      (lossy : Utf8.Lossy front text.toList) :
      Said channel data .version .info ("ANT version " ++ text)
  /-- So is the reason of a startup. -/
  | startup {byte : UInt8} (first : data[0]? = some byte) :
      Said channel data .startupMesg .info ("Reset complete: " ++ (ResetReason.ofByte byte).text)
  /-- A command succeeds with the status zero. -/
  | succeeded {message : MessageCode} (reports : message.Reports) (third : data[2]? = some 0) :
      Said channel data message .info
        ("Channel " ++ channel.text ++ ": " ++ message.text ++ " succeeded")
  /-- With any other status it fails. -/
  | failed {message : MessageCode} {code : UInt8} (reports : message.Reports)
      (third : data[2]? = some code) (failure : code ≠ 0) :
      Said channel data message .error
        ("Channel " ++ channel.text ++ ": " ++ message.text ++ " failed with status "
          ++ Hex.code code)
  /-- Where nothing can be read, the first bytes are listed. -/
  | other {message : MessageCode} (bare : Bare message data) :
      Said channel data message .debug
        ("Response for channel " ++ channel.text ++ ": " ++ message.text ++ ": "
          ++ Hex.listing (data.take 4))

theorem said_iff : Said channel data message level text ↔
    ∃ summary, Means data message summary ∧ onSummary channel data summary = say level text := by
  constructor
  · rintro (⟨before, lossy⟩ | ⟨first⟩ | ⟨reports, third⟩ | ⟨reports, third, failure⟩ | ⟨bare⟩)
    · exact ⟨_, .version before lossy, rfl⟩
    · exact ⟨_, .startup first, rfl⟩
    · exact ⟨_, .status reports third, rfl⟩
    · exact ⟨_, .status reports third, if_neg failure⟩
    · exact ⟨_, .other bare, rfl⟩
  · rintro ⟨summary, ⟨before, lossy⟩ | ⟨first⟩ | ⟨reports, third⟩ | ⟨bare⟩, line⟩
    · cases line
      exact .version before lossy
    · cases line
      exact .startup first
    · rw [onSummary] at line
      split at line
      · next success =>
        cases line
        exact .succeeded reports (success ▸ third)
      · next failure =>
        cases line
        exact .failed reports third failure
    · cases line
      exact .other bare

/-- The line about a response says what there is to say about its subject. -/
theorem onResponse_eq_iff : onResponse channel command data = say level text ↔
    Said channel data (subject command data) level text := by
  rw [said_iff, onResponse]
  constructor
  · intro line
    exact ⟨_, Summary.ofResponse_eq_iff.mp rfl, line⟩
  · rintro ⟨summary, means, line⟩
    rwa [Summary.ofResponse_eq_iff.mpr means]

/-- It comes from the handlers, and its message is all there is to it. -/
theorem onResponse_eq_say (channel : Channel) (command : MessageCode) (data : Bytes) :
    onResponse channel command data =
      say (onResponse channel command data).level (onResponse channel command data).message := by
  rw [onResponse]
  cases Summary.ofResponse command data with
  | version | startup | other => rfl
  | status message code =>
    rw [onSummary]
    split <;> rfl

theorem said_onResponse_iff : Said channel data (subject command data) level text ↔
    (onResponse channel command data).level = level ∧
      (onResponse channel command data).message = text := by
  rw [← onResponse_eq_iff]
  constructor
  · intro line
    rw [line]
    exact ⟨rfl, rfl⟩
  · rintro ⟨rfl, rfl⟩
    exact onResponse_eq_say channel command data

section Levels

variable {summary : Summary}

theorem level_onSummary_eq_error_iff : (onSummary channel data summary).level = .error ↔
    ∃ message code, summary = .status message code ∧ code ≠ 0 := by
  cases summary with
  | version | startup | other => simp [onSummary, say]
  | status message code => by_cases success : code = 0 <;> simp [onSummary, say, success]

theorem level_onSummary_eq_debug_iff : (onSummary channel data summary).level = .debug ↔
    ∃ message, summary = .other message := by
  cases summary with
  | version | startup | other => simp [onSummary, say]
  | status message code => by_cases success : code = 0 <;> simp [onSummary, say, success]

theorem level_onSummary_eq_info_iff : (onSummary channel data summary).level = .info ↔
    (∃ text, summary = .version text) ∨ (∃ reason, summary = .startup reason) ∨
      ∃ message, summary = .status message 0 := by
  cases summary with
  | version | startup | other => simp [onSummary, say]
  | status message code => by_cases success : code = 0 <;> simp [onSummary, say, success]

end Levels

end Commentary

/-! ### The handler -/

/-- What a handler that comments on responses does with one. -/
structure Response.Commented {σ : Type} (response : Response) (perform : Performer σ)
    (host : Host σ) (line : LogLine) : Prop where
  /-- It accepts the response, and all that it does to the host is to write a line. -/
  accepts : (ResponseHandler.commenting.react response).run perform host =
    (.ok true, host.write line)
  /-- That is one line more than before. -/
  writes : (host.write line).journal.lines = host.journal.lines ++ [line]
  /-- The line comes from the handlers, and there are no values behind its message. -/
  plain : line.component = .handlers ∧ line.fields = []
  /-- It says what there is to say about the subject, and only that. -/
  said : ∀ level text, line.level = level ∧ line.message = text ↔
    Commentary.Said response.channel response.payload
      (Summary.subject response.code response.payload) level text
  /-- It is an error if and only if a command has failed. -/
  error : line.level = .error ↔ ∃ message code,
    Summary.ofResponse response.code response.payload = .status message code ∧ code ≠ 0
  /-- It is a detail if and only if no more than a name was read. -/
  debug : line.level = .debug ↔
    ∃ message, Summary.ofResponse response.code response.payload = .other message
  /-- Otherwise it informs. -/
  info : line.level = .info ↔
    (∃ text, Summary.ofResponse response.code response.payload = .version text) ∨
      (∃ reason, Summary.ofResponse response.code response.payload = .startup reason) ∨
      ∃ message, Summary.ofResponse response.code response.payload = .status message 0

theorem Response.commented {σ : Type} (response : Response) (perform : Performer σ)
    (host : Host σ) : response.Commented perform host
      (Commentary.onResponse response.channel response.code response.payload) where
  accepts := rfl
  writes := List.reverse_cons
  plain := by
    rw [Commentary.onResponse_eq_say]
    exact ⟨rfl, rfl⟩
  said _ _ := Commentary.said_onResponse_iff.symm
  error := Commentary.level_onSummary_eq_error_iff
  debug := Commentary.level_onSummary_eq_debug_iff
  info := Commentary.level_onSummary_eq_info_iff

/-- What it means that a response is understood. -/
structure Response.Understood (response : Response) : Prop where
  /-- What is read out of it. -/
  read : Summary.Faithful response.code response.payload
    (Summary.ofResponse response.code response.payload)
  /-- What the handler that comments on it does, in any host. -/
  commented : ∀ (σ : Type) (perform : Performer σ) (host : Host σ),
    ∃ line, response.Commented perform host line

/-- Every response is understood, whatever it is about and however long it is. -/
theorem Response.understood (response : Response) : response.Understood :=
  ⟨Summary.faithful_ofResponse _ _, fun _ perform host => ⟨_, response.commented perform host⟩⟩

end CallbackFerry
