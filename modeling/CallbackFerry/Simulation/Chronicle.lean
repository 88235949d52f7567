import CallbackFerry.Simulation.Campaign

/-!
# A simulation from its start to its report

A `Chronicle` is a campaign with the lines that it has written.  Every move adds its own: what the
bridge and the host's world have written, and what is said about it at the loop and around the end.

`Simulation.run` makes the moves of a campaign in one order.  The threads take turns, each one fires
all its events before the next one starts, and each of its calls is answered before anything else
happens.
-/

namespace CallbackFerry

/-- A campaign and the lines that it has written. -/
structure Chronicle where
  /-- The campaign. -/
  campaign : Campaign
  /-- The lines. -/
  journal : Journal := {}

namespace Campaign

/-- The lines in the journals of the bridge and of the host's world. -/
def noted (campaign : Campaign) : List LogLine :=
  campaign.bridge.journal.lines ++ campaign.world.journal.lines

/-- The campaign with nothing in these journals. -/
def unnoted (campaign : Campaign) : Campaign :=
  { campaign with
    bridge := { campaign.bridge with journal := {} }
    world := { campaign.world with journal := {} } }

/-- What is said about a move that nobody notes. -/
def spoken (campaign : Campaign) : Move → List LogLine
  | .notice place =>
    match campaign.loop.ended[place]? with
    | some (_, fault) => HostLoop.noticeLines fault
    | none => []
  | .finish => [campaign.loop.finishLine]
  | .abort => [campaign.bridge.shutdownLine]
  | .snapshot => [Bridge.stoppedLine campaign.bridge.metrics]
  | _ => []

/-- The lines of a move: what it notes in journals that were empty before, and what is said. -/
def linesOf (campaign : Campaign) (move : Move) : List LogLine :=
  ((campaign.unnoted.step move).map noted).getD [] ++ campaign.spoken move

/-- The moves of one whole call, from the submission to the landing.  It takes no time. -/
def call (thread key : Nat) : List Move :=
  let onward : Move := .advance ⟨⟨0⟩, ⟨0⟩⟩
  [.submit thread, .push key, .take, .offer, .receive, .begin, onward, onward, onward, .notice 0,
    .settle, .collect key, .leave key, .land thread]

/-- The moves with which a campaign ends. -/
def closing : List Move :=
  [.muster, .abort, .take, .retire, .snapshot, .closeHost, .finish]

end Campaign

namespace Chronicle

/-- The chronicle of a campaign that is about to begin. -/
def ofCampaign (campaign : Campaign) : Chronicle :=
  ⟨campaign, Journal.append {} (campaign.noted ++ [HostLoop.startLine])⟩

/-- Makes a move; one that is not possible changes nothing. -/
def make (chronicle : Chronicle) (move : Campaign.Move) : Chronicle :=
  match chronicle.campaign.step move with
  | some after => ⟨after, chronicle.journal.append (chronicle.campaign.linesOf move)⟩
  | none => chronicle

/-- Makes some moves. -/
def play (chronicle : Chronicle) (moves : List Campaign.Move) : Chronicle :=
  moves.foldl make chronicle

/-- Lets a thread launch what is next, and waits until it has landed. -/
def fly (chance : Nat → Chance) (thread : Nat) (chronicle : Chronicle) : Chronicle :=
  let campaign := chronicle.campaign
  chronicle.play (.launch thread (chance campaign.fleet.sequence) ::
    Campaign.call thread campaign.bridge.submissions.size)

/-- Lets a thread fly so often. -/
def flyOften (chance : Nat → Chance) (thread : Nat) : (flights : Nat) → Chronicle → Chronicle
  | 0, chronicle => chronicle
  | flights + 1, chronicle => flyOften chance thread flights (chronicle.fly chance thread)

/-- Lets all threads fire all their events; one flight more leaves room for the reset. -/
def flyAll (chance : Nat → Chance) (chronicle : Chronicle) : Chronicle :=
  let settings := chronicle.campaign.orders.settings
  (List.range settings.threads).foldl
    (fun chronicle thread => chronicle.flyOften chance thread (settings.eventsPerThread + 1))
    chronicle

end Chronicle

namespace Simulation

/-- How a simulation ended. -/
inductive Ending where
  /-- With a report. -/
  | complete (report : RunReport)
  /-- With a failure: the messages about it, from the outermost to the innermost. -/
  | failed (chain : List String)
  /-- The program broke off. -/
  | brokeOff (fault : Fault)

/-- Runs a simulation with these settings, and returns the lines written with how it ended.  There
is no report if a thread broke off; the first one is told about then. -/
def run (settings : Settings) (chance : Nat → Chance) : Ending × List LogLine :=
  match Bridge.start settings.bridge with
  | .error fault => (.brokeOff fault, [])
  | .ok (.error failure) => (.failed ["Failed to start callback bridge", failure.message], [])
  | .ok (.ok bridge) =>
    let fresh := Chronicle.ofCampaign (Campaign.fresh settings bridge)
    let ended := (fresh.flyAll chance).play Campaign.closing
    let ending : Ending :=
      match ended.campaign.report? with
      | some report => .complete report
      | none => .failed (ended.campaign.fleet.broken?.map brokenMessage).toList
    (ending, ended.journal.lines)

end Simulation
end CallbackFerry
