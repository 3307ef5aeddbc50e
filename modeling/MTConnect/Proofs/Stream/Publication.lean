import Mathlib.Data.List.Induction
import MTConnect.Proofs.Agent.Page
import MTConnect.Proofs.Observation.Ranges
import MTConnect.Proofs.Stream.CatchUp
import MTConnect.Proofs.Stream.Ending

namespace MTConnect

/-!
# What an agent publishes

An agent is told commands, answers requests and has any number of streams read
from it, in any order. An answer is made in two steps. First the log is read;
then what was read gets its header, which bears the identifier that is the
current one by then. Everything that is shown of observations is kept here as
an exhibit: the header of the answer or frame, and the observations under it.

What is shown was logged in the history from which it was read, and numbers are
not given twice in one history. A history and a number therefore stand for one
observation, whichever way and whenever it was read. The identifier in a header
stands for that history unless the agent is reset between the two steps; then
it is a later one.
-/

/-- Observations, and the header that they are shown under. -/
structure Exhibit where
  /-- The identifier of the history from which the observations were read. -/
  under : Nat
  header : Header
  observations : List Observation

/-- The header bears the identifier of the history from which the observations were read. -/
def Exhibit.IsWhole (exhibit : Exhibit) : Prop :=
  exhibit.header.instanceId = exhibit.under

/-- What was read from the log and has no header yet, and from which history. -/
inductive Draft where
  | current (under : Nat) (snapshot : Snapshot)
  | sample (under : Nat) (page : Page)

/-- What is shown once the header has been made. -/
def Draft.headed (agent : Agent) : Draft → Exhibit
  | .current under snapshot =>
      let document := agent.currentOf snapshot
      { under := under
        header := document.header
        observations := document.observations }
  | .sample under page =>
      let document := agent.sampleOf page
      { under := under
        header := document.header
        observations := document.observations }

/-- A session whose client has taken a frame, if there was one. -/
def Session.relieved (session : Session) : Session :=
  match session.take? with
  | none => session
  | some (_, rest) => rest

/-- A session, and the history from which it read last. -/
structure Reader where
  session : Session
  under : Nat := 0

namespace Reader

/-- The session takes a step, if it does not have to wait. -/
def step? (reader : Reader) (agent : Agent) (now : Nat) : Option Reader :=
  (reader.session.step? agent now).map fun next =>
    { session := next
      under :=
        if reader.session.phase = .reading then
          agent.instanceId
        else
          reader.under }

/-- What the session shows with the frame that it has made. -/
def exhibits (reader : Reader) : List Exhibit :=
  reader.session.blocked.filterMap fun frame =>
    match frame with
    | .data document =>
        some
          { under := reader.under
            header := document.header
            observations := document.observations }
    | _ => none

end Reader

/-- An agent, those who read from it, and all that it has shown. -/
structure Publication where
  chronicle : Chronicle
  now : Nat := 0
  /-- The answers that have no header yet. -/
  drafts : List Draft := []
  /-- The streams in the order in which they were opened. -/
  readers : List Reader := []
  /-- Oldest first; a frame is shown when its session makes it. -/
  shown : List Exhibit := []

/-- What can happen to an agent and its readers. -/
inductive PublicationEvent where
  /-- The agent is told something. -/
  | command (command : Agent.Command)
  /-- Time passes. -/
  | pass (millis : Nat)
  /-- The log is read for somebody who asks for current values, now or as of a number. -/
  | readCurrent (request : CurrentRequest)
  /--
  The log is read for somebody who asks for a range of observations. A request
  that does not say where to begin has looked for the beginning before, and may
  have found it anywhere.
  -/
  | readSample (earliest : Nat) (request : SampleRequest)
  /-- The answer at a place gets its header. -/
  | head (place : Nat)
  | openStream (options : StreamOptions)
  /--
  The session at a place takes a step, if it does not have to wait; so many
  announcements of the log are still to come.
  -/
  | step (place : Nat) (withheld : Nat)
  /-- The client of the session at a place takes a frame, if there is one. -/
  | receive (place : Nat)
  | stop (place : Nat)
  /-- The client of the session at a place goes away. -/
  | disconnect (place : Nat)
  deriving DecidableEq

/-- The command that an event gives to the agent. -/
def PublicationEvent.command? : PublicationEvent → Option Agent.Command
  | .command told => some told
  | _ => none

namespace Publication

/-- A new agent that nobody has read from. -/
def opened (plan : AgentPlan) (begun : Timestamp) : Publication where
  chronicle := .start plan begun

/-- The agent as it is now. -/
def agent (publication : Publication) : Agent :=
  publication.chronicle.agent

/-- Keep what was read for an answer, if it was found. -/
def keep (publication : Publication) : Except Fault Draft → Publication
  | .error _ => publication
  | .ok draft =>
      { publication with drafts := publication.drafts ++ [draft] }

/-- Show an answer with the header that it gets now. -/
def head (publication : Publication) (place : Nat) : Publication :=
  match publication.drafts[place]? with
  | none => publication
  | some draft =>
      { publication with
        drafts := publication.drafts.eraseIdx place
        shown := publication.shown ++ [draft.headed publication.agent] }

/-- The session at a place has taken a step; the frame that waits now was made in it. -/
def stepped (publication : Publication) (place : Nat) (next : Reader) : Publication :=
  { publication with
    readers := publication.readers.set place next
    shown := publication.shown ++ next.exhibits }

/-- Change the session at a place, if there is one. -/
def change
    (publication : Publication)
    (place : Nat)
    (change : Session → Session) :
    Publication :=
  { publication with
    readers :=
      publication.readers.modify place fun reader =>
        { reader with session := change reader.session } }

/-- What follows an event. -/
def after (publication : Publication) : PublicationEvent → Publication
  | .command command =>
      { publication with chronicle := publication.chronicle.perform command }
  | .pass millis => { publication with now := publication.now + millis }
  | .readCurrent request =>
      publication.keep
        ((publication.agent.currentSnapshot request).map
          (.current publication.agent.instanceId))
  | .readSample earliest request =>
      publication.keep
        ((publication.agent.samplePage earliest request).map
          (.sample publication.agent.instanceId))
  | .head place => publication.head place
  | .openStream options =>
      { publication with
        readers := publication.readers ++ [{ session := .fresh options }] }
  | .step place withheld =>
      match publication.readers[place]?.bind
          (·.step? (publication.agent.withholding withheld)
            publication.now) with
      | none => publication
      | some next => publication.stepped place next
  | .receive place => publication.change place Session.relieved
  | .stop place => publication.change place Session.requestStop
  | .disconnect place => publication.change place Session.disconnect

/-- What follows events, one after the other. -/
def run (publication : Publication) (events : List PublicationEvent) : Publication :=
  events.foldl after publication

end Publication

/-- A page that waits for its header was read in the step before. -/
theorem Session.reads_of_step
    {session next : Session}
    {agent : Agent}
    {now : Nat}
    (stepped : session.step? agent now = some next)
    {page : Page}
    (heading : next.phase = .heading page) :
    session.phase = .reading ∧
      agent.log.range session.cursor none session.count session.filter =
        .ok page := by
  cases takes_of_step stepped with
  | reads found reading readEq =>
      obtain rfl := SessionPhase.heading.inj heading
      exact ⟨reading, readEq⟩
  | emits frame => cases frame <;> cases heading
  | _ => cases heading

/-- What was read is what somebody finds in the log of an agent. -/
inductive Draft.ReadIn (agent : Agent) : Draft → Prop where
  | current
      (request : CurrentRequest)
      (snapshot : Snapshot)
      (found : agent.currentSnapshot request = .ok snapshot) :
      ReadIn agent (.current agent.instanceId snapshot)
  | sample
      (earliest : Nat)
      (request : SampleRequest)
      (page : Page)
      (found : agent.samplePage earliest request = .ok page) :
      ReadIn agent (.sample agent.instanceId page)
  | stream
      (cursor : Nat)
      (count : Int)
      (filter : ObservationFilter)
      (page : Page)
      (found : agent.log.range cursor none count filter = .ok page) :
      ReadIn agent (.sample agent.instanceId page)

namespace Agent

variable {agent : Agent} {history : History}

/-- A snapshot of any number shows what was logged, whether or not it is still retained. -/
theorem mem_entries_of_snapshot
    (represents : agent.log.Represents history)
    {point? : Option Nat}
    {filter : ObservationFilter}
    (anyCategory : filter.categories = none)
    {snapshot : Snapshot}
    (found : agent.snapshot point? filter = .ok snapshot)
    {observation : Observation}
    (member : observation ∈ snapshot.observations) :
    observation ∈ history.entries := by
  cases point? with
  | none =>
      have nowEq : agent.log.now filter = snapshot := Except.ok.inj found
      rw [← nowEq] at member
      exact
        (((represents.now_replays anyCategory).mem_iff observation).mp
          member).2.member
  | some point =>
      cases accepted : agent.log.window.accepts point with
      | false =>
          have refused :=
            found.symm.trans (ObservationLog.asOf_of_refused accepted filter)
          simp at refused
      | true =>
          obtain ⟨read, readEq, _, replays⟩ :=
            represents.asOf_replays accepted anyCategory
          have same : read = snapshot :=
            Except.ok.inj (readEq.symm.trans found)
          rw [← same] at member
          exact
            (List.mem_filter.mp
              ((replays.mem_iff observation).mp member).2.member).1

end Agent

namespace Draft.ReadIn

variable {draft : Draft} {read headed : Agent} {history : History}

/-- A draft bears the identifier of the history from which it was read. -/
theorem under_eq (readIn : draft.ReadIn read) :
    (draft.headed headed).under = read.instanceId := by
  cases readIn <;> rfl

/-- What was read was logged. -/
theorem logged
    (readIn : draft.ReadIn read)
    (represents : read.log.Represents history) :
    (draft.headed headed).observations ⊆ history.entries := by
  intro observation member
  cases readIn with
  | current request snapshot found =>
      obtain ⟨filter, selected, taken⟩ := bind_eq_ok_iff.mp found
      exact
        Agent.mem_entries_of_snapshot represents
          (Catalog.categories_of_select selected) taken member
  | sample earliest request page found =>
      obtain ⟨_, _, _, _, paged⟩ := Agent.samplePage_eq_ok_iff.mp found
      exact
        represents.mem_entries_of_retained
          (ObservationLog.mem_retained_of_range
            (Agent.pageFiltered_eq_ok_iff.mp paged).2 member)
  | stream cursor count filter page found =>
      exact
        represents.mem_entries_of_retained
          (ObservationLog.mem_retained_of_range found member)

end Draft.ReadIn

/-- The header bears the identifier that was the current one when it was made. -/
theorem Draft.instanceId_headed (draft : Draft) (agent : Agent) :
    (draft.headed agent).header.instanceId = agent.instanceId := by
  cases draft <;> rfl

namespace Chronicle

/-- The capacity outlasts all commands. -/
theorem capacity_perform (chronicle : Chronicle) (command : Agent.Command) :
    (chronicle.perform command).agent.log.capacity =
      chronicle.agent.log.capacity := by
  by_cases reset : command = .reset
  · rw [reset]
    exact raisedCapacity_of_pos chronicle.agent.log.capacity_pos
  · have wrote := chronicle.agent.perform_wrote reset
    have logEq :
        (chronicle.perform command).agent.log =
          chronicle.agent.log.offerAll (chronicle.agent.reports command) :=
      wrote.log_eq
    rw [logEq]
    generalize chronicle.agent.reports command = readings
    generalize chronicle.agent.log = log
    induction readings generalizing log with
    | nil => rfl
    | cons reading rest inductionHypothesis =>
        exact
          (inductionHypothesis (log.offer reading)).trans
            (log.capacity_offer reading)

/-- The capacity outlasts every run. -/
theorem capacity_run (chronicle : Chronicle) (commands : List Agent.Command) :
    (chronicle.run commands).agent.log.capacity =
      chronicle.agent.log.capacity := by
  induction commands generalizing chronicle with
  | nil => rfl
  | cons command rest inductionHypothesis =>
      exact
        (inductionHypothesis (chronicle.perform command)).trans
          (chronicle.capacity_perform command)

/-- Within one instance the window only moves on. -/
theorem window_le_run
    {chronicle : Chronicle}
    (sound : chronicle.Sound)
    {commands : List Agent.Command}
    (sameId :
      (chronicle.run commands).agent.instanceId =
        chronicle.agent.instanceId) :
    chronicle.agent.log.first ≤ (chronicle.run commands).agent.log.first ∧
      chronicle.agent.log.next ≤ (chronicle.run commands).agent.log.next := by
  have later := (sound.run commands).represents
  obtain ⟨readings, grown⟩ :=
    chronicle.exists_annals_run commands chronicle.agent.instanceId
  rw [history, sameId, grown] at later
  have earlier := sound.represents
  rw [history] at earlier
  generalize chronicle.annals chronicle.agent.instanceId = history
    at earlier later
  have firstEq := later.first_eq
  rw [chronicle.capacity_run commands, history.origin_offerAll readings]
    at firstEq
  have longer := (history.entries_prefix_offerAll readings).length_le
  constructor
  · rw [firstEq, earlier.first_eq]
    omega
  · rw [later.next_eq, earlier.next_eq]
    exact history.next_le_offerAll readings

end Chronicle

namespace Publication

variable {opened : Publication} {events : List PublicationEvent}

/-! ## What follows events -/

/-- What follows two runs follows the second one after the first. -/
theorem run_append
    (publication : Publication)
    (earlier later : List PublicationEvent) :
    publication.run (earlier ++ later) =
      (publication.run earlier).run later :=
  List.foldl_append

/-- To the agent, its readers are nothing but the commands between their requests. -/
theorem chronicle_after
    (publication : Publication)
    (event : PublicationEvent) :
    (publication.after event).chronicle =
      publication.chronicle.run event.command?.toList := by
  cases event with
  | readCurrent request =>
      rw [after]
      cases publication.agent.currentSnapshot request <;> rfl
  | readSample earliest request =>
      rw [after]
      cases publication.agent.samplePage earliest request <;> rfl
  | head place =>
      rw [after, head]
      split <;> rfl
  | step place withheld =>
      rw [after]
      split <;> rfl
  | _ => rfl

/-- In a run the agent carries out the commands of the events. -/
theorem chronicle_run
    (publication : Publication)
    (events : List PublicationEvent) :
    (publication.run events).chronicle =
      publication.chronicle.run
        (events.filterMap PublicationEvent.command?) := by
  induction events generalizing publication with
  | nil => rfl
  | cons event rest inductionHypothesis =>
      have restEq := inductionHypothesis (publication.after event)
      rw [chronicle_after] at restEq
      cases told : event.command? with
      | none =>
          rw [List.filterMap_cons_none told]
          rw [told] at restEq
          exact restEq
      | some command =>
          rw [List.filterMap_cons_some told]
          rw [told] at restEq
          exact restEq

/-- The identifier changes in a run exactly if the agent is reset in it. -/
theorem instanceId_run_eq_iff
    (publication : Publication)
    (events : List PublicationEvent) :
    (publication.run events).agent.instanceId = publication.agent.instanceId ↔
      .command .reset ∉ events := by
  rw [agent, agent, chronicle_run]
  have isReset :
      .reset ∈ events.filterMap PublicationEvent.command? ↔
        .command .reset ∈ events := by
    rw [List.mem_filterMap]
    constructor
    · rintro ⟨event, member, told⟩
      cases event with
      | command command => exact Option.some.inj told ▸ member
      | _ => cases told
    · exact fun member => ⟨_, member, rfl⟩
  rw [← isReset]
  constructor
  · intro same reset
    exact
      absurd same
        (Nat.ne_of_gt (publication.chronicle.instanceId_lt_run reset))
  · exact publication.chronicle.instanceId_run_of_noReset

/-! ## Where everything that is shown comes from -/

/-- At some time in the course of events a draft was read. -/
def WasRead
    (opened : Publication)
    (events : List PublicationEvent)
    (draft : Draft) : Prop :=
  ∃ earlier later,
    events = earlier ++ later ∧ draft.ReadIn (opened.run earlier).agent

/-- An exhibit was read at some time, and got its header at a later one. -/
structure WasMade
    (opened : Publication)
    (exhibit : Exhibit)
    (earlier between : List PublicationEvent) : Prop where
  made :
    ∃ draft : Draft,
      draft.ReadIn (opened.run earlier).agent ∧
        exhibit = draft.headed (opened.run (earlier ++ between)).agent
  /-- It is whole unless the agent was reset in between. -/
  whole_iff : exhibit.IsWhole ↔ .command .reset ∉ between

/-- What has no header yet was read, and what is shown was read and got a header later. -/
structure Accounts
    (opened : Publication)
    (events : List PublicationEvent) : Prop where
  drafts :
    ∀ draft ∈ (opened.run events).drafts, opened.WasRead events draft
  readers :
    ∀ reader ∈ (opened.run events).readers,
      ∀ page,
        reader.session.phase = .heading page →
        opened.WasRead events (.sample reader.under page)
  shown :
    ∀ exhibit ∈ (opened.run events).shown,
      ∃ earlier between later,
        events = earlier ++ between ++ later ∧
          opened.WasMade exhibit earlier between

/-- What was read now was read at some time. -/
theorem wasRead_now
    {draft : Draft}
    (readIn : draft.ReadIn (opened.run events).agent) :
    opened.WasRead events draft :=
  ⟨events, [], (List.append_nil events).symm, readIn⟩

/-- What was read stays read. -/
theorem WasRead.append
    {draft : Draft}
    (wasRead : opened.WasRead events draft)
    (more : List PublicationEvent) :
    opened.WasRead (events ++ more) draft := by
  obtain ⟨earlier, later, rfl, readIn⟩ := wasRead
  exact ⟨earlier, later ++ more, List.append_assoc _ _ _, readIn⟩

/-- A draft that gets its header now was read before. -/
theorem WasRead.wasMade
    {draft : Draft}
    (wasRead : opened.WasRead events draft) :
    ∃ earlier between later,
      events = earlier ++ between ++ later ∧
        opened.WasMade (draft.headed (opened.run events).agent) earlier
          between := by
  obtain ⟨earlier, between, rfl, readIn⟩ := wasRead
  refine ⟨earlier, between, [], (List.append_nil _).symm, ⟨draft, readIn, rfl⟩, ?_⟩
  rw [Exhibit.IsWhole, draft.instanceId_headed, readIn.under_eq, run_append]
  exact (opened.run earlier).instanceId_run_eq_iff between

namespace Accounts

/-- At first there is nothing to account for. -/
theorem nil
    (noDrafts : opened.drafts = [])
    (noReaders : opened.readers = [])
    (nothingShown : opened.shown = []) :
    opened.Accounts [] where
  drafts := by simp [run, noDrafts]
  readers := by simp [run, noReaders]
  shown := by simp [run, nothingShown]

/--
After an event everything is accounted for if what is new was read, or got its
header, with that event.
-/
theorem extend
    (accounts : opened.Accounts events)
    {event : PublicationEvent}
    {next : Publication}
    (afterEq : (opened.run events).after event = next)
    (drafts :
      ∀ draft ∈ next.drafts,
        draft ∈ (opened.run events).drafts ∨
          draft.ReadIn (opened.run events).agent)
    (readers :
      ∀ reader ∈ next.readers,
        ∀ page,
          reader.session.phase = .heading page →
          opened.WasRead events (.sample reader.under page))
    (shown :
      ∀ exhibit ∈ next.shown,
        exhibit ∈ (opened.run events).shown ∨
          ∃ draft,
            opened.WasRead events draft ∧
              exhibit = draft.headed (opened.run events).agent) :
    opened.Accounts (events ++ [event]) := by
  have runEq : opened.run (events ++ [event]) = next :=
    (run_append _ _ _).trans afterEq
  refine { drafts := ?_, readers := ?_, shown := ?_ }
  · rw [runEq]
    intro draft member
    rcases drafts draft member with before | isNew
    · exact (accounts.drafts draft before).append [event]
    · exact (wasRead_now isNew).append [event]
  · rw [runEq]
    intro reader member page heading
    exact (readers reader member page heading).append [event]
  · rw [runEq]
    intro exhibit member
    have wasShown :
        ∃ earlier between later,
          events = earlier ++ between ++ later ∧
            opened.WasMade exhibit earlier between := by
      rcases shown exhibit member with before | ⟨draft, wasRead, rfl⟩
      · exact accounts.shown exhibit before
      · exact wasRead.wasMade
    obtain ⟨earlier, between, later, eventsEq, wasMade⟩ := wasShown
    refine ⟨earlier, between, later ++ [event], ?_, wasMade⟩
    rw [eventsEq, List.append_assoc]

/-- An event that leaves drafts, sessions and exhibits as they are needs no account. -/
theorem idle
    (accounts : opened.Accounts events)
    {event : PublicationEvent}
    (draftsEq :
      ((opened.run events).after event).drafts = (opened.run events).drafts)
    (readersEq :
      ((opened.run events).after event).readers = (opened.run events).readers)
    (shownEq :
      ((opened.run events).after event).shown = (opened.run events).shown) :
    opened.Accounts (events ++ [event]) :=
  accounts.extend rfl
    (fun _ member => .inl (draftsEq ▸ member))
    (fun reader member => accounts.readers reader (readersEq ▸ member))
    (fun _ member => .inl (shownEq ▸ member))

/-- What is read for an answer now is kept. -/
theorem keep
    (accounts : opened.Accounts events)
    {event : PublicationEvent}
    {outcome : Except Fault Draft}
    (afterEq :
      (opened.run events).after event = (opened.run events).keep outcome)
    (readIn :
      ∀ draft,
        outcome = .ok draft → draft.ReadIn (opened.run events).agent) :
    opened.Accounts (events ++ [event]) := by
  cases outcome with
  | error fault =>
      rw [Publication.keep] at afterEq
      apply accounts.idle <;> rw [afterEq]
  | ok kept =>
      rw [Publication.keep] at afterEq
      refine accounts.extend afterEq ?_ accounts.readers fun _ => .inl
      intro draft member
      rcases List.mem_append.mp member with before | isNew
      · exact .inl before
      · rw [List.mem_singleton.mp isNew]
        exact .inr (readIn kept rfl)

/-- An answer gets its header. -/
theorem head
    (accounts : opened.Accounts events)
    (place : Nat) :
    opened.Accounts (events ++ [.head place]) := by
  cases found : (opened.run events).drafts[place]? with
  | none =>
      have afterEq :
          (opened.run events).after (.head place) = opened.run events := by
        rw [Publication.after, Publication.head, found]
      apply accounts.idle <;> rw [afterEq]
  | some draft =>
      have afterEq :
          (opened.run events).after (.head place) =
            (opened.run events).head place := rfl
      rw [Publication.head, found] at afterEq
      refine accounts.extend afterEq ?_ accounts.readers ?_
      · exact fun _ member => .inl (List.mem_of_mem_eraseIdx member)
      · intro exhibit member
        rcases List.mem_append.mp member with before | isNew
        · exact .inl before
        · have wasRead := accounts.drafts draft (List.mem_of_getElem? found)
          exact .inr ⟨draft, wasRead, List.mem_singleton.mp isNew⟩

/-- A change that no session takes a step in leaves what the sessions have read. -/
theorem change
    (accounts : opened.Accounts events)
    {event : PublicationEvent}
    {place : Nat}
    {change : Session → Session}
    (afterEq :
      (opened.run events).after event =
        (opened.run events).change place change)
    (phaseEq : ∀ session, (change session).phase = session.phase) :
    opened.Accounts (events ++ [event]) := by
  refine accounts.extend afterEq (fun _ => .inl) ?_ fun _ => .inl
  intro reader member page heading
  obtain ⟨index, at_index⟩ := List.mem_iff_getElem?.mp member
  rw [Publication.change, List.getElem?_modify] at at_index
  obtain ⟨before, isBefore, readerEq⟩ := Option.map_eq_some_iff.mp at_index
  have wasThere := List.mem_of_getElem? isBefore
  split at readerEq
  · rw [← readerEq] at heading ⊢
    rw [phaseEq] at heading
    exact accounts.readers before wasThere page heading
  · rw [← readerEq] at heading ⊢
    exact accounts.readers before wasThere page heading

/-- A stream that is opened has read nothing yet. -/
theorem openStream
    (accounts : opened.Accounts events)
    (options : StreamOptions) :
    opened.Accounts (events ++ [.openStream options]) := by
  refine accounts.extend rfl (fun _ => .inl) ?_ fun _ => .inl
  intro reader member page heading
  rcases List.mem_append.mp member with before | isNew
  · exact accounts.readers reader before page heading
  · rw [List.mem_singleton.mp isNew] at heading
    cases heading

/-- A session reads, or gives what it has read a header, or does neither. -/
theorem step
    (accounts : opened.Accounts events)
    (place withheld : Nat) :
    opened.Accounts (events ++ [.step place withheld]) := by
  cases taken :
      (opened.run events).readers[place]?.bind
        (·.step? ((opened.run events).agent.withholding withheld)
          (opened.run events).now) with
  | none =>
      have afterEq :
          (opened.run events).after (.step place withheld) =
            opened.run events := by
        rw [Publication.after, taken]
      apply accounts.idle <;> rw [afterEq]
  | some next =>
      obtain ⟨reader, isReader, tookStep⟩ := Option.bind_eq_some_iff.mp taken
      obtain ⟨session, stepped, nextEq⟩ := Option.map_eq_some_iff.mp tookStep
      have wasThere := List.mem_of_getElem? isReader
      subst nextEq
      refine accounts.extend rfl ?_ ?_ ?_ <;> rw [Publication.after, taken]
      · exact fun _ => .inl
      · intro other member page heading
        rcases List.mem_or_eq_of_mem_set member with before | isNew
        · exact accounts.readers other before page heading
        · subst isNew
          obtain ⟨reading, found⟩ := Session.reads_of_step stepped heading
          rw [if_pos reading]
          exact wasRead_now (.stream _ _ _ page found)
      · intro exhibit member
        rcases List.mem_append.mp member with before | isNew
        · exact .inl before
        · obtain ⟨frame, waits, shownEq⟩ := List.mem_filterMap.mp isNew
          cases Session.makes_of_step stepped waits with
          | data page heading something =>
              have notReading : reader.session.phase ≠ .reading := by
                simp [heading]
              rw [if_neg notReading] at shownEq
              have wasRead := accounts.readers reader wasThere page heading
              exact .inr ⟨_, wasRead, (Option.some.inj shownEq).symm⟩
          | heartbeat beating => cases shownEq
          | failure fault failing => cases shownEq

/-- Whatever happens, everything is accounted for. -/
theorem run
    (nothing : opened.Accounts [])
    (events : List PublicationEvent) :
    opened.Accounts events := by
  induction events using List.reverseRecOn with
  | nil => exact nothing
  | append_singleton earlier event accounts =>
      cases event with
      | command command => exact accounts.idle rfl rfl rfl
      | pass millis => exact accounts.idle rfl rfl rfl
      | readCurrent request =>
          refine accounts.keep rfl fun draft kept => ?_
          obtain ⟨snapshot, found, rfl⟩ := map_eq_ok_iff.mp kept
          exact .current request snapshot found
      | readSample earliest request =>
          refine accounts.keep rfl fun draft kept => ?_
          obtain ⟨page, found, rfl⟩ := map_eq_ok_iff.mp kept
          exact .sample earliest request page found
      | head place => exact accounts.head place
      | openStream options => exact accounts.openStream options
      | step place withheld => exact accounts.step place withheld
      | receive place =>
          refine accounts.change rfl fun session => ?_
          rw [Session.relieved, Session.take?]
          cases session.queue.pop? <;> rfl
      | stop place => exact accounts.change rfl fun _ => rfl
      | disconnect place => exact accounts.change rfl fun _ => rfl

end Accounts

/-! ## What identifiers and numbers stand for -/

/-- What is shown was logged in the history from which it was read. -/
theorem WasMade.logged
    (sound : opened.chronicle.Sound)
    {exhibit : Exhibit}
    {earlier between : List PublicationEvent}
    (wasMade : opened.WasMade exhibit earlier between)
    (later : List PublicationEvent) :
    exhibit.observations ⊆
      ((opened.run (earlier ++ later)).chronicle.annals
        exhibit.under).entries := by
  obtain ⟨draft, readIn, rfl⟩ := wasMade.made
  have represents :
      (opened.run earlier).agent.log.Represents
        (opened.run earlier).chronicle.history := by
    rw [agent, chronicle_run]
    exact (sound.run _).represents
  have logged :
      (draft.headed (opened.run (earlier ++ between)).agent).observations ⊆
        (opened.run earlier).chronicle.history.entries :=
    readIn.logged represents
  obtain ⟨readings, grown⟩ :=
    (opened.run earlier).chronicle.exists_annals_run
      (later.filterMap PublicationEvent.command?)
      (opened.run earlier).agent.instanceId
  have stays :=
    (((opened.run earlier).chronicle.annals
      (opened.run earlier).agent.instanceId).entries_prefix_offerAll
        readings).subset
  rw [← grown, ← chronicle_run, ← run_append] at stays
  rw [readIn.under_eq]
  exact List.Subset.trans logged stays

/-- What was read from one history under one number is one observation. -/
theorem Accounts.eq_of_sequence
    (accounts : opened.Accounts events)
    (sound : opened.chronicle.Sound)
    {first second : Exhibit}
    (firstShown : first ∈ (opened.run events).shown)
    (secondShown : second ∈ (opened.run events).shown)
    (sameHistory : first.under = second.under)
    {observation other : Observation}
    (inFirst : observation ∈ first.observations)
    (inSecond : other ∈ second.observations)
    (sameNumber : observation.sequence = other.sequence) :
    observation = other := by
  obtain ⟨earlier, between, later, eventsEq, firstMade⟩ :=
    accounts.shown first firstShown
  obtain ⟨sooner, meanwhile, rest, eventsSame, secondMade⟩ :=
    accounts.shown second secondShown
  have firstLogged := firstMade.logged sound (between ++ later) inFirst
  have secondLogged := secondMade.logged sound (meanwhile ++ rest) inSecond
  rw [← List.append_assoc, ← eventsEq, sameHistory] at firstLogged
  rw [← List.append_assoc, ← eventsSame] at secondLogged
  exact History.eq_of_sequence firstLogged secondLogged sameNumber

/-- What identifiers and numbers stand for in everything that is shown of an agent. -/
structure NamesLast
    (opened : Publication)
    (events : List PublicationEvent) : Prop where
  /-- A reset makes the identifier larger, wherever the clock stands. -/
  renewed :
    ∀ earlier later,
      events = earlier ++ .command .reset :: later →
      (opened.run earlier).agent.instanceId <
        (opened.run (earlier ++ [.command .reset])).agent.instanceId
  /-- The identifier of now is accepted, and no other. -/
  accepted_iff :
    ∀ presented,
      (opened.run events).agent.checkInstance presented = .ok () ↔
        presented = (opened.run events).agent.instanceId
  /-- An identifier from before a reset is refused for ever. -/
  refused :
    ∀ earlier later,
      events = earlier ++ later →
      .command .reset ∈ later →
      (opened.run events).agent.checkInstance
          (opened.run earlier).agent.instanceId =
        .error
          (.instanceMismatch (opened.run earlier).agent.instanceId
            (opened.run events).agent.instanceId)
  /-- As long as the identifier stays, the window only moves on. -/
  window_le :
    ∀ earlier later,
      events = earlier ++ later →
      (opened.run events).agent.instanceId =
        (opened.run earlier).agent.instanceId →
      (opened.run earlier).agent.header.firstSequence ≤
          (opened.run events).agent.header.firstSequence ∧
        (opened.run earlier).agent.header.nextSequence ≤
          (opened.run events).agent.header.nextSequence
  /-- What is shown was read, and got its header later; a reset in between tears the two apart. -/
  made :
    ∀ exhibit ∈ (opened.run events).shown,
      ∃ earlier between later,
        events = earlier ++ between ++ later ∧
          opened.WasMade exhibit earlier between
  /-- A history and a number stand for one observation. -/
  agree :
    ∀ first ∈ (opened.run events).shown,
      ∀ second ∈ (opened.run events).shown,
        first.under = second.under →
        ∀ observation ∈ first.observations,
          ∀ other ∈ second.observations,
            observation.sequence = other.sequence →
            observation = other
  /-- An identifier and a number do so, too, in whatever was not torn apart. -/
  named :
    ∀ first ∈ (opened.run events).shown,
      ∀ second ∈ (opened.run events).shown,
        first.IsWhole →
        second.IsWhole →
        first.header.instanceId = second.header.instanceId →
        ∀ observation ∈ first.observations,
          ∀ other ∈ second.observations,
            observation.sequence = other.sequence →
            observation = other

/--
However an agent is told and read, a history and a number name one observation,
and the identifier in a header names that history if no reset falls between the
reading and the header.
-/
theorem names_last
    (plan : AgentPlan)
    (begun : Timestamp)
    (events : List PublicationEvent) :
    (Publication.opened plan begun).NamesLast events := by
  have sound := Chronicle.sound_start plan begun
  have accounts : (Publication.opened plan begun).Accounts events :=
    .run (.nil rfl rfl rfl) events
  exact
    { renewed := by
        intro earlier later _
        rw [run_append]
        exact Chronicle.instanceId_lt_reset _
      accepted_iff := fun presented =>
        Agent.checkInstance_eq_ok_iff _ presented
      refused := by
        rintro earlier later rfl resetLater
        have changed :=
          mt
            (((Publication.opened plan begun).run
              earlier).instanceId_run_eq_iff later).mp
            (not_not_intro resetLater)
        rw [run_append]
        exact if_neg (Ne.symm changed)
      window_le := by
        rintro earlier later rfl sameId
        have soundThen := sound.run (earlier.filterMap PublicationEvent.command?)
        rw [run_append] at sameId ⊢
        rw [agent, agent,
          chronicle_run ((Publication.opened plan begun).run earlier)]
          at sameId ⊢
        rw [chronicle_run] at sameId ⊢
        exact Chronicle.window_le_run soundThen sameId
      made := accounts.shown
      agree := by
        intro first firstShown second secondShown sameHistory _ inFirst _
          inSecond
        exact
          accounts.eq_of_sequence sound firstShown secondShown sameHistory
            inFirst inSecond
      named := by
        intro first firstShown second secondShown firstWhole secondWhole sameId
          _ inFirst _ inSecond
        have sameHistory : first.under = second.under :=
          firstWhole.symm.trans (sameId.trans secondWhole)
        exact
          accounts.eq_of_sequence sound firstShown secondShown sameHistory
            inFirst inSecond }

/-- A value is read, the agent is reset, and only then what was read gets its header. -/
def readAcrossReset : List PublicationEvent :=
  [.command (AgentPlan.oneItemValue "1"), .readCurrent {}, .command .reset,
    .head 0, .command (AgentPlan.oneItemValue "2"), .readCurrent {}, .head 0]

/-- Under one identifier the first number is shown with two observations. -/
theorem number_named_twice :
    ∃ first ∈ ((Publication.opened .oneItem ⟨0⟩).run readAcrossReset).shown,
      ∃ second ∈ ((Publication.opened .oneItem ⟨0⟩).run readAcrossReset).shown,
        first.header.instanceId = second.header.instanceId ∧
          ∃ observation ∈ first.observations,
            ∃ other ∈ second.observations,
              observation.sequence = other.sequence ∧
                observation ≠ other := by
  decide

end Publication

end MTConnect
