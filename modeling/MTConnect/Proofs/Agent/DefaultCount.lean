import MTConnect.Proofs.Agent.Page
import MTConnect.Proofs.Agent.Replay
import MTConnect.Proofs.Observation.Ranges
import MTConnect.Settings.Basic

namespace MTConnect

/-!
# The count of a request that has none

A request without a count is given the default one, which is a word in the
settings and is read as a signed word by the agent. A default count in the
signed range means what it says. A larger one passes the check of the settings
as well, but it turns negative: a sample then ends with the newest observations
instead of beginning with the oldest, and no stream starts.
-/

namespace Word

/-- A word beyond the signed range is read as one that is short of wrapping. -/
theorem toSigned_of_signedTop_lt
    {value : Nat}
    (above : signedTop < value) :
    toSigned value = (value : Int) - (count : Int) :=
  if_neg (Nat.not_le.mpr above)

/-- A word beyond the signed range turns negative, by as much as it is short of wrapping. -/
theorem natAbs_toSigned_of_signedTop_lt
    {value : Nat}
    (above : signedTop < value)
    (isWord : value ≤ top) :
    toSigned value < 0 ∧ (toSigned value).natAbs = count - value := by
  rw [toSigned_of_signedTop_lt above]
  unfold top at isWord
  unfold count
  omega

/-- It is nearer to wrapping than to nothing. -/
theorem count_sub_le
    {value : Nat}
    (above : signedTop < value) :
    count - value ≤ value := by
  unfold signedTop at above
  unfold count
  omega

end Word

namespace Agent

/-- Where a stream starts with a count that nobody objects to. -/
def startOf (agent : Agent) (options : StreamOptions) (count : Int) : Except Fault StreamStart := do
  agent.checkOptionalInstance options.instanceId
  let filter ← agent.catalog.select options.device options.path
  let cursor ← agent.streamCursor options.start
  pure { filter := filter, count := count, cursor := cursor }

/-- Requests without a count are given this many observations. -/
structure MeansDefault (agent : Agent) (count : Nat) : Prop where
  /-- A sample holds the first ones that the filter admits. -/
  sampled :
    ∀ device? path? filter,
      agent.catalog.select device? path? = .ok filter →
      ∃ document,
        agent.sample { device := device?, path := path? } = .ok document ∧
          document.observations =
            (agent.log.retained.toList.filter fun observation =>
              filter.admits observation).take count ∧
          document.observations.Pairwise fun earlier later =>
            earlier.sequence < later.sequence
  /-- A stream starts, or is refused for another reason than its count. -/
  streamed :
    ∀ options : StreamOptions,
      options.count = none →
      agent.prepareStream options = agent.startOf options count

/-- Requests without a count are read as if they asked for the last observations. -/
structure MisreadsDefault (agent : Agent) (count : Nat) : Prop where
  sampled :
    ∀ device? path? filter,
      agent.catalog.select device? path? = .ok filter →
      ∃ document,
        agent.sample { device := device?, path := path? } = .ok document ∧
          document.observations =
            ObservationLog.lastOf (Word.count - count)
              (agent.log.retained.toList.filter fun observation =>
                filter.admits observation)
  /-- No stream starts. -/
  refused :
    ∀ (options : StreamOptions) (filter : ObservationFilter),
      options.count = none →
      agent.checkOptionalInstance options.instanceId = .ok () →
      agent.catalog.select options.device options.path = .ok filter →
      agent.prepareStream options =
        .error
          (.invalidRequest
            (.negativeStreamCount ((count : Int) - (Word.count : Int))))

variable {agent : Agent} {history : History}

section

variable
  {count : Int}
  (checked : agent.checkedCount none = .ok count)

include checked

/-- A sample without bounds is what the count asks for of all that the filter admits. -/
theorem sample_of_checked
    (represents : agent.log.Represents history)
    {device? path? : Option String}
    {filter : ObservationFilter}
    (selected : agent.catalog.select device? path? = .ok filter) :
    ∃ document,
      agent.sample { device := device?, path := path? } = .ok document ∧
        document.observations =
          counted count
            (agent.log.retained.toList.filter fun observation =>
              filter.admits observation) ∧
        document.observations.Pairwise fun earlier later =>
          earlier.sequence < later.sequence := by
  obtain ⟨page, read, answers⟩ :=
    represents.range_answers represents.accepts_first none count filter
  have paged :
      agent.samplePage agent.log.window.first
          { device := device?, path := path? } =
        .ok page :=
    samplePage_eq_ok_iff.mpr
      ⟨filter, selected, count, checked,
        pageFiltered_eq_ok_iff.mpr ⟨rfl, read⟩⟩
  refine ⟨agent.sampleOf page, ?_, ?_, answers.ascending⟩
  · rw [sample, paged]
    rfl
  · rw [← represents.matching_whole filter]
    exact answers.observations_eq

/-- A positive count is not what a stream is refused for. -/
theorem prepareStream_of_checked
    {options : StreamOptions}
    (uncounted : options.count = none)
    (positive : 0 < count) :
    agent.prepareStream options = agent.startOf options count := by
  have forward : checkForward count = .ok () :=
    if_neg (Int.not_lt.mpr (Int.le_of_lt positive))
  simp only [prepareStream, checkedTerms, streamTerms, startOf, uncounted,
    checked, forward, bind, Except.bind, pure, Except.pure]
  cases agent.checkOptionalInstance options.instanceId with
  | error fault => rfl
  | ok _ => cases agent.catalog.select options.device options.path <;> rfl

/-- A negative count is what a stream is refused for that has passed all checks before it. -/
theorem prepareStream_of_negative
    {options : StreamOptions}
    {filter : ObservationFilter}
    (uncounted : options.count = none)
    (negative : count < 0)
    (fits : agent.checkOptionalInstance options.instanceId = .ok ())
    (selected :
      agent.catalog.select options.device options.path = .ok filter) :
    agent.prepareStream options =
      .error (.invalidRequest (.negativeStreamCount count)) := by
  have backward :
      checkForward count =
        .error (.invalidRequest (.negativeStreamCount count)) :=
    if_pos negative
  simp only [prepareStream, checkedTerms, streamTerms, uncounted, checked,
    fits, selected, backward, bind, Except.bind]

end

/-- A default count in the signed range means what it says. -/
theorem meansDefault
    (represents : agent.log.Represents history)
    (positive : 0 < agent.limits.defaultCount)
    (allowed : agent.limits.defaultCount ≤ agent.limits.maximumCount)
    (signed : agent.limits.defaultCount ≤ Word.signedTop) :
    agent.MeansDefault agent.limits.defaultCount := by
  have readAs := Word.toSigned_of_le_signedTop signed
  have positiveInt : (0 : Int) < agent.limits.defaultCount :=
    Int.natCast_pos.mpr positive
  have checked :
      agent.checkedCount none = .ok (agent.limits.defaultCount : Int) :=
    checkedCount_eq_ok_iff.mpr ⟨readAs, Int.ne_of_gt positiveInt, allowed⟩
  refine ⟨?_, ?_⟩
  · intro device? path? filter selected
    obtain ⟨document, answered, observationsEq, ascending⟩ :=
      sample_of_checked checked represents selected
    rw [counted_of_pos positiveInt, Int.natAbs_natCast] at observationsEq
    exact ⟨document, answered, observationsEq, ascending⟩
  · intro options uncounted
    exact prepareStream_of_checked checked uncounted positiveInt

/-- A larger one is misread. -/
theorem misreadsDefault
    (represents : agent.log.Represents history)
    (above : Word.signedTop < agent.limits.defaultCount)
    (allowed : agent.limits.defaultCount ≤ agent.limits.maximumCount)
    (isWord : agent.limits.defaultCount ≤ Word.top) :
    agent.MisreadsDefault agent.limits.defaultCount := by
  obtain ⟨negative, natAbsEq⟩ :=
    Word.natAbs_toSigned_of_signedTop_lt above isWord
  -- The magnitude keeps within the limits, so that only streams notice the sign.
  have inLimits :
      (Word.toSigned agent.limits.defaultCount).natAbs ≤
        agent.limits.maximumCount := by
    rw [natAbsEq]
    exact Nat.le_trans (Word.count_sub_le above) allowed
  have checked :
      agent.checkedCount none =
        .ok (Word.toSigned agent.limits.defaultCount) :=
    checkedCount_eq_ok_iff.mpr ⟨rfl, Int.ne_of_lt negative, inLimits⟩
  refine ⟨?_, ?_⟩
  · intro device? path? filter selected
    obtain ⟨document, answered, observationsEq, _⟩ :=
      sample_of_checked checked represents selected
    rw [counted_of_neg negative, natAbsEq] at observationsEq
    exact ⟨document, answered, observationsEq⟩
  · intro options filter uncounted fits selected
    rw [prepareStream_of_negative checked uncounted negative fits selected,
      Word.toSigned_of_signedTop_lt above]

/-- A stream of everything starts with the first retained observation. -/
theorem startOf_default
    (represents : agent.log.Represents history)
    (count : Int) :
    agent.startOf {} count =
      .ok
        { filter := .all
          count := count
          cursor := agent.log.window.first } := by
  have placed :
      agent.streamCursor none = .ok agent.log.window.first :=
    streamCursor_eq_ok_iff.mpr ⟨rfl, represents.accepts_first⟩
  have selected : agent.catalog.select none none = .ok .all := rfl
  simp only [startOf, checkOptionalInstance, selected, placed, bind,
    Except.bind, pure, Except.pure]

/-- Where the default count is misread it does not mean what it says. -/
theorem MisreadsDefault.not_means
    {count : Nat}
    (misreads : agent.MisreadsDefault count)
    (represents : agent.log.Represents history) :
    ¬ agent.MeansDefault count := by
  intro means
  have refused := misreads.refused {} .all rfl rfl rfl
  rw [means.streamed {} rfl, startOf_default represents] at refused
  cases refused

end Agent

namespace Settings

/-- With checked settings the default count means what it says in the signed range only. -/
theorem default_count_meant_iff
    {settings : Settings}
    (valid : settings.Valid)
    (isWord : settings.buffer.limits.defaultCount ≤ Word.top)
    (begun : Timestamp)
    (commands : List Agent.Command) :
    let agent := ((Chronicle.start settings.plan begun).run commands).agent
    let count := settings.buffer.limits.defaultCount
    (agent.MeansDefault count ↔ count ≤ Word.signedTop) ∧
      (Word.signedTop < count → agent.MisreadsDefault count) := by
  intro agent count
  have represents :=
    ((Chronicle.sound_start settings.plan begun).run commands).represents
  have limitsEq : agent.limits = settings.buffer.limits :=
    (Chronicle.start settings.plan begun).limits_run commands
  have countEq : agent.limits.defaultCount = count :=
    congrArg QueryLimits.defaultCount limitsEq
  obtain ⟨positive, allowed⟩ := valid.checked.defaultCount
  have misreads
      (above : Word.signedTop < count) :
      agent.MisreadsDefault count := by
    rw [← countEq]
    apply Agent.misreadsDefault represents
    all_goals rw [limitsEq]
    · exact above
    · exact allowed
    · exact isWord
  refine ⟨⟨?_, ?_⟩, misreads⟩
  · intro means
    exact Nat.not_lt.mp fun above =>
      (misreads above).not_means represents means
  · intro signed
    rw [← countEq]
    apply Agent.meansDefault represents
    all_goals rw [limitsEq]
    · exact positive
    · exact allowed
    · exact signed

/-- One data item, and the largest default count that there is. -/
def unbounded : Settings where
  buffer :=
    { size := 8
      limits := { defaultCount := Word.top, maximumCount := Word.top } }
  devices := AgentPlan.oneItem.catalog.devices

theorem valid_unbounded : unbounded.Valid :=
  rfl

/-- With the largest default, two retained observations show that it is misread. -/
theorem default_count_meant_iff_unbounded :
    unbounded.Valid ∧
      Word.top ≤ Word.top ∧
      (((Chronicle.start unbounded.plan ⟨5⟩).run
            [AgentPlan.oneItemValue "1",
              AgentPlan.oneItemValue "2"]).agent.MeansDefault Word.top ↔
          Word.top ≤ Word.signedTop) ∧
      (Word.signedTop < Word.top →
        ((Chronicle.start unbounded.plan ⟨5⟩).run
            [AgentPlan.oneItemValue "1",
              AgentPlan.oneItemValue "2"]).agent.MisreadsDefault Word.top) :=
  ⟨valid_unbounded, Nat.le_refl _,
    default_count_meant_iff valid_unbounded (Nat.le_refl _) ⟨5⟩
      [AgentPlan.oneItemValue "1", AgentPlan.oneItemValue "2"]⟩

/-- Of two values a sample shows the second one only, and no stream starts. -/
theorem unbounded_default_misread :
    unbounded.Valid ∧
      let agent :=
        ((Chronicle.start unbounded.plan ⟨5⟩).run
          [AgentPlan.oneItemValue "1", AgentPlan.oneItemValue "2"]).agent
      agent.log.retained.toList.map Observation.sequence = [1, 2] ∧
        (agent.sample {}).map
            (fun document =>
              document.observations.map Observation.sequence) =
          .ok [2] ∧
        agent.prepareStream {} =
          .error (.invalidRequest (.negativeStreamCount (-1))) :=
  ⟨valid_unbounded, rfl, rfl, rfl⟩

end Settings

end MTConnect
