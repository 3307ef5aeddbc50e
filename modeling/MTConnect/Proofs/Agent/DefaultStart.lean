import MTConnect.Proofs.Agent.Page
import MTConnect.Proofs.Stream.Publication

namespace MTConnect

/-!
# Where a sample begins that is not told where

A sample without a start begins at the first retained observation. To do so it
looks at the window before it reads the log, and reads once more if the window
has moved on in between. Within one instance the second reading answers like a
sample that finds the window where the first reading found it; if the window has
moved on again before that, the sample is refused.

The order of the two ends of a range is checked before a missing start is
filled in. So a sample that has no start and ends before the window is not
refused, unlike the same sample with the start written out, and is answered
with nothing.
-/

namespace Agent

/--
A sample without a start, as it is carried out: from the number at which the
window began when it was looked at. If that is no longer retained when the log
is read, the log is read again from the first number that was then retained.
-/
def sampleMoving
    (seen found again : Agent)
    (last? : Option Nat)
    (count : Int)
    (filter : ObservationFilter) :
    Except Fault SampleDocument :=
  match found.log.range seen.log.window.first last? count filter with
  | .ok page => .ok (found.sampleOf page)
  | .error (.outOfRange requested first next) =>
      if seen.log.window.first < first then
        (again.log.range first last? count filter).map again.sampleOf
      else
        .error (.outOfRange requested first next)
  | .error fault => .error fault

/-- What a sample without a start answers, beside one with the start written out. -/
structure StartsByDefault
    (agent : Agent)
    (last? : Option Nat)
    (count : Int)
    (filter : ObservationFilter) : Prop where
  /-- As long as nothing is written in between, the log is not read a second time. -/
  moving_eq :
    agent.sampleMoving agent agent last? count filter =
      agent.sampleFiltered none last? count filter
  /-- The answers are the same unless the end is before the window. -/
  same_iff :
    agent.sampleFiltered none last? count filter =
        agent.sampleFiltered (some agent.log.window.first) last? count
          filter ↔
      ∀ last, last? = some last → agent.log.window.first ≤ last
  /-- Then the one is answered with nothing and the other is refused. -/
  differ :
    ∀ last,
      last? = some last →
      last < agent.log.window.first →
      agent.sampleFiltered none last? count filter =
          .ok
            (agent.sampleOf
              { observations := []
                endSequence := agent.log.window.first
                window := agent.log.window }) ∧
        agent.sampleFiltered (some agent.log.window.first) last? count
            filter =
          .error
            (.invalidRequest
              (.reversedRange agent.log.window.first last))

variable
  {agent seen found : Agent}
  {history : History}
  {last? : Option Nat}
  {last : Nat}

/-- Without a start there is no order to check. -/
theorem sampleFiltered_none
    (agent : Agent)
    (last? : Option Nat)
    (count : Int)
    (filter : ObservationFilter) :
    agent.sampleFiltered none last? count filter =
      (agent.log.range agent.log.window.first last? count filter).map
        agent.sampleOf := by
  cases found : agent.log.range agent.log.window.first last? count filter with
  | ok page =>
      exact
        sampleFiltered_eq_ok_iff.mpr ⟨rfl, page, found, rfl⟩
  | error fault =>
      simp [sampleFiltered, pageFiltered, checkedRange, found, bind,
        Except.bind, Except.map]

/-- An end in the window is in order wherever the start is written. -/
theorem sampleFiltered_of_ordered
    (ordered : ∀ last, last? = some last → agent.log.window.first ≤ last)
    (count : Int)
    (filter : ObservationFilter) :
    agent.sampleFiltered none last? count filter =
      agent.sampleFiltered (some agent.log.window.first) last? count filter := by
  have allowed :
      checkedRange (some agent.log.window.first) last? =
        checkedRange none last? := by
    cases last? with
    | none => rfl
    | some last => exact if_neg (Nat.not_lt_of_le (ordered last rfl))
  rw [sampleFiltered, sampleFiltered, pageFiltered, pageFiltered, allowed]
  rfl

/-- With the start written out an end before it is refused. -/
theorem sampleFiltered_of_reversed
    (reversed : last < agent.log.window.first)
    (count : Int)
    (filter : ObservationFilter) :
    agent.sampleFiltered (some agent.log.window.first) (some last) count
        filter =
      .error
        (.invalidRequest (.reversedRange agent.log.window.first last)) := by
  rw [sampleFiltered, pageFiltered, checkedRange, if_pos reversed]
  rfl

/-- Without a start an end before the window is not noticed. -/
theorem sampleFiltered_before_window
    (represents : agent.log.Represents history)
    (reversed : last < agent.log.window.first)
    (count : Int)
    (filter : ObservationFilter) :
    agent.sampleFiltered none (some last) count filter =
      .ok
        (agent.sampleOf
          { observations := []
            endSequence := agent.log.window.first
            window := agent.log.window }) := by
  have unread :
      ¬agent.log.Looks agent.log.window.first (some last) count := by
    intro looks
    have reaches : agent.log.window.first ≤ last :=
      Nat.le_trans looks.1 (Nat.min_le_left _ _)
    exact absurd reversed (Nat.not_lt_of_le reaches)
  rw [sampleFiltered_none,
    ObservationLog.range_of_unread represents.accepts_first unread]
  rfl

/-- A window that is found where it was seen is read from its beginning. -/
theorem sampleMoving_of_eq
    (represents : found.log.Represents history)
    (stayed : seen.log.window.first = found.log.window.first)
    (again : Agent)
    (last? : Option Nat)
    (count : Int)
    (filter : ObservationFilter) :
    seen.sampleMoving found again last? count filter =
      found.sampleFiltered none last? count filter := by
  obtain ⟨page, answered, _⟩ :=
    represents.range_answers represents.accepts_first last? count filter
  rw [sampleFiltered_none, sampleMoving, stayed, answered]
  rfl

/-- A window that has moved on is read once more, from where it was found to begin. -/
theorem sampleMoving_of_lt
    (moved : seen.log.window.first < found.log.window.first)
    (again : Agent)
    (last? : Option Nat)
    (count : Int)
    (filter : ObservationFilter) :
    seen.sampleMoving found again last? count filter =
      (again.log.range found.log.window.first last? count filter).map
        again.sampleOf := by
  have refused :
      found.log.window.accepts seen.log.window.first = false := by
    rw [← Bool.not_eq_true, ObservationLog.accepts_iff]
    intro accepted
    exact absurd moved (Nat.not_lt_of_le accepted.1)
  rw [sampleMoving, ObservationLog.range_of_refused refused]
  exact if_pos moved

/-- An agent whose log keeps its history tells the two apart in one case only. -/
theorem startsByDefault_of_represents
    (represents : agent.log.Represents history)
    (last? : Option Nat)
    (count : Int)
    (filter : ObservationFilter) :
    agent.StartsByDefault last? count filter where
  moving_eq := sampleMoving_of_eq represents rfl agent last? count filter
  same_iff := by
    constructor
    · rintro same last rfl
      apply Nat.le_of_not_lt
      intro reversed
      rw [sampleFiltered_before_window represents reversed,
        sampleFiltered_of_reversed reversed] at same
      cases same
    · intro ordered
      exact sampleFiltered_of_ordered ordered count filter
  differ := by
    rintro last rfl reversed
    exact
      ⟨sampleFiltered_before_window represents reversed count filter,
        sampleFiltered_of_reversed reversed count filter⟩

end Agent

namespace Chronicle

/--
Between the look at the window, the first reading and the second one more may
be written. In one instance the sample answers like one that finds the window
where it was found before, and is refused if that has been lost twice.
-/
theorem sampleMoving_run
    {chronicle : Chronicle}
    (sound : chronicle.Sound)
    {meanwhile further : List Agent.Command}
    (noReset : .reset ∉ meanwhile ++ further)
    (last? : Option Nat)
    (count : Int)
    (filter : ObservationFilter) :
    let seen := chronicle.agent
    let found := (chronicle.run meanwhile).agent
    let again := (chronicle.run (meanwhile ++ further)).agent
    seen.sampleMoving found again last? count filter =
      if seen.log.window.first = found.log.window.first then
        found.sampleFiltered none last? count filter
      else if found.log.window.first = again.log.window.first then
        again.sampleFiltered none last? count filter
      else
        .error (again.log.outOfRange found.log.window.first) := by
  intro seen found again
  rw [List.mem_append, not_or] at noReset
  have foundSound := sound.run meanwhile
  have movedOn : seen.log.window.first ≤ found.log.window.first :=
    (window_le_run sound
      (chronicle.instanceId_run_of_noReset noReset.1)).1
  have againEq : again = ((chronicle.run meanwhile).run further).agent :=
    congrArg agent (chronicle.run_append meanwhile further)
  have movedAgain : found.log.window.first ≤ again.log.window.first := by
    rw [againEq]
    exact
      (window_le_run foundSound
        (Chronicle.instanceId_run_of_noReset _ noReset.2)).1
  split
  next stayed =>
    exact
      Agent.sampleMoving_of_eq foundSound.represents stayed again last? count
        filter
  next moved =>
    rw [Agent.sampleMoving_of_lt (Nat.lt_of_le_of_ne movedOn moved)]
    split
    next stayedNow => rw [stayedNow, Agent.sampleFiltered_none]
    next lost =>
      have refused :
          again.log.window.accepts found.log.window.first = false := by
        rw [← Bool.not_eq_true, ObservationLog.accepts_iff]
        intro accepted
        exact lost (Nat.le_antisymm movedAgain accepted.1)
      rw [ObservationLog.range_of_refused refused]
      rfl

/--
A sample without a start answers like one from the first retained observation,
except that it is not refused if it ends before that.
-/
theorem starts_by_default
    (plan : AgentPlan)
    (begun : Timestamp)
    (commands : List Agent.Command)
    (last? : Option Nat)
    (count : Int)
    (filter : ObservationFilter) :
    ((start plan begun).run commands).agent.StartsByDefault last? count
      filter :=
  Agent.startsByDefault_of_represents
    ((sound_start plan begun).run commands).represents last? count filter

/-- Of two values the second one is retained; a sample up to the first one is not refused. -/
theorem early_end_accepted :
    ((start .oneItem ⟨0⟩).run
        [AgentPlan.oneItemValue "1",
          AgentPlan.oneItemValue "2"]).agent.log.window.first = 2 ∧
      ((start .oneItem ⟨0⟩).run
          [AgentPlan.oneItemValue "1",
            AgentPlan.oneItemValue "2"]).agent.sampleFiltered
          (some 2) (some 1) 100 .all =
        .error (.invalidRequest (.reversedRange 2 1)) ∧
      ((start .oneItem ⟨0⟩).run
          [AgentPlan.oneItemValue "1",
            AgentPlan.oneItemValue "2"]).agent.sampleFiltered
          none (some 1) 100 .all ≠
        .error (.invalidRequest (.reversedRange 2 1)) := by
  exact ⟨rfl, rfl, nofun⟩

end Chronicle

end MTConnect
