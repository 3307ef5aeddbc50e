import MTConnect.Proofs.Agent.Page

namespace MTConnect

/-!
# Paging through a history

A client that wants all observations asks for one page after the other, each
from where the last one ended, and presents the instance identifier of its
first page. Between its requests anything may happen to the agent, and also in
the course of a request: after the identifier was checked, and again after the
page was read and before it has a header.

As long as no reset falls into the course of a request, the pages that the
client gets are a gapless stretch of that instance's history, and when the
stretch cannot be continued the client is told why. A reset between the check
and the reading is not noticed: the page is then one of the new history.
-/

/-- A page that a client got, with the number that it asked for. -/
structure PageRead where
  start : Nat
  document : SampleDocument

/-- A client that asks for one page after the other. -/
structure PageReader where
  filter : ObservationFilter
  /-- The number that the first request asks for. -/
  start : Nat
  pages : List PageRead := []

namespace PageReader

/-- The identifier of the first answer, which later requests present. -/
def presented? (reader : PageReader) : Option Nat :=
  reader.pages.head?.map fun read => read.document.header.instanceId

/-- The number that the next request asks for: where the last page ended. -/
def cursor (reader : PageReader) : Nat :=
  (reader.pages.getLast?.map fun read => read.document.endSequence).getD
    reader.start

/-- The observations of all pages. -/
def observations (reader : PageReader) : List Observation :=
  reader.pages.flatMap fun read => read.document.observations

/-- Take in the answer to a request. -/
def take (reader : PageReader) (document : SampleDocument) : PageReader :=
  { reader with
    pages :=
      reader.pages ++ [{ start := reader.cursor, document := document }] }

@[simp] theorem cursor_take (reader : PageReader) (document : SampleDocument) :
    (reader.take document).cursor = document.endSequence := by
  simp [cursor, take]

@[simp] theorem observations_take
    (reader : PageReader)
    (document : SampleDocument) :
    (reader.take document).observations =
      reader.observations ++ document.observations := by
  simp [observations, take]

/-- The first answer fixes the identifier. -/
theorem presented?_take (reader : PageReader) (document : SampleDocument) :
    (reader.take document).presented? =
      some (reader.presented?.getD document.header.instanceId) := by
  unfold presented? take
  cases reader.pages with
  | nil => rfl
  | cons read rest => rfl

end PageReader

/-- What can happen while a client pages. -/
inductive PagingEvent where
  /-- The agent is told something. -/
  | command (command : Agent.Command)
  /--
  The client asks for the next page, of at most so many observations. The agent
  is told something before the page is read, and before it gets its header.
  -/
  | request (count : Nat) (beforeReading beforeHeading : List Agent.Command)
  deriving DecidableEq

/-- No reset falls into the course of a request. -/
def PagingEvent.IsWhole : PagingEvent → Prop
  | .command _ => True
  | .request _ beforeReading beforeHeading =>
      .reset ∉ beforeReading ∧ .reset ∉ beforeHeading

/-- A chronicle with a client that pages through it. -/
structure Paging where
  chronicle : Chronicle
  reader : PageReader
  /-- Whether a reset came after the first page. -/
  interrupted : Bool := false

namespace Paging

/-- The answer to the next request of the client. -/
def answer
    (paging : Paging)
    (count : Nat)
    (beforeReading beforeHeading : List Agent.Command) :
    Except Fault SampleDocument :=
  Agent.pageAcross
    paging.chronicle.agent
    (paging.chronicle.run beforeReading).agent
    (paging.chronicle.run (beforeReading ++ beforeHeading)).agent
    paging.reader.presented? paging.reader.cursor count paging.reader.filter

/-- The agent is told some things. -/
def told (paging : Paging) (commands : List Agent.Command) : Paging :=
  { paging with
    chronicle := paging.chronicle.run commands
    interrupted :=
      paging.interrupted ||
        (decide (.reset ∈ commands) && !paging.reader.pages.isEmpty) }

/-- What follows an event; a client that gets a fault stays where it is. -/
def step (paging : Paging) : PagingEvent → Paging
  | .command command => paging.told [command]
  | .request count beforeReading beforeHeading =>
      let later := paging.told (beforeReading ++ beforeHeading)
      match paging.answer count beforeReading beforeHeading with
      | .error _ => later
      | .ok document => { later with reader := later.reader.take document }

/-- What follows events, one after the other. -/
def run (paging : Paging) (events : List PagingEvent) : Paging :=
  events.foldl step paging

/-- A new agent, and a client that has read nothing. -/
def start
    (plan : AgentPlan)
    (begun : Timestamp)
    (filter : ObservationFilter)
    (first : Nat) :
    Paging where
  chronicle := .start plan begun
  reader := { filter := filter, start := first }

end Paging

/-- A page belongs to an instance, and goes on as long as there is something to read. -/
structure PageRead.Progresses (read : PageRead) (id : Nat) : Prop where
  instanceId_eq : read.document.header.instanceId = id
  start_le : read.start ≤ read.document.endSequence
  end_le : read.document.endSequence ≤ read.document.header.nextSequence
  advances :
    read.start < read.document.header.nextSequence →
    read.start < read.document.endSequence
  complete :
    read.document.observations = [] →
    read.document.endSequence = read.document.header.nextSequence

/-- The pages of a client are a stretch of a history. -/
structure PageReader.Follows
    (reader : PageReader)
    (id : Nat)
    (history : History) : Prop where
  observations_eq :
    reader.observations =
      history.between reader.filter reader.start reader.cursor
  start_le : reader.start ≤ reader.cursor
  cursor_le : reader.pages ≠ [] → reader.cursor ≤ history.next
  progresses : ∀ read ∈ reader.pages, read.Progresses id

namespace PageReader

/-- Without pages nothing has been read of any history. -/
theorem follows_of_nothing
    {reader : PageReader}
    (nothing : reader.pages = [])
    (id : Nat)
    (history : History) :
    reader.Follows id history where
  observations_eq := by simp [observations, cursor, nothing]
  start_le := by simp [cursor, nothing]
  cursor_le := fun something => absurd nothing something
  progresses := by simp [nothing]

namespace Follows

variable {reader : PageReader} {id : Nat} {history : History}

/-- A history that grows keeps the stretch that was read. -/
theorem offerAll
    (follows : reader.Follows id history)
    (readings : List Reading) :
    reader.Follows id (history.offerAll readings) := by
  by_cases nothing : reader.pages = []
  · exact follows_of_nothing nothing id _
  · have cursorLe := follows.cursor_le nothing
    exact
      { observations_eq := by
          rw [History.between_offerAll cursorLe]
          exact follows.observations_eq
        start_le := follows.start_le
        cursor_le := fun _ =>
          Nat.le_trans cursorLe (history.next_le_offerAll readings)
        progresses := follows.progresses }

/-- A page from the cursor on lengthens the stretch. -/
theorem take
    (follows : reader.Follows id history)
    {read headed : Agent}
    (represents : read.log.Represents history)
    (sameId : headed.instanceId = id)
    {page : Page}
    (windowEq : page.window = read.log.window)
    {count : Nat}
    (positive : 0 < count)
    (covers : page.Covers history reader.filter reader.cursor count) :
    (reader.take (headed.sampleOf page)).Follows id history where
  observations_eq := by
    rw [observations_take, cursor_take, follows.observations_eq]
    change _ ++ page.observations = _
    rw [covers.observations_eq]
    exact history.between_append_between reader.filter follows.start_le
      covers.start_le
  start_le := by
    rw [cursor_take]
    exact Nat.le_trans follows.start_le covers.start_le
  cursor_le := fun _ => by
    rw [cursor_take]
    exact covers.end_le
  progresses := by
    intro taken member
    rcases List.mem_append.mp member with earlier | isNew
    · exact follows.progresses taken earlier
    · have nextEq :
          (headed.sampleOf page).header.nextSequence = history.next := by
        rw [← represents.next_eq]
        simp [Agent.sampleOf, Agent.headerFor, windowEq,
          ObservationLog.window, Window.between]
      rw [List.mem_singleton.mp isNew]
      exact
        { instanceId_eq := sameId
          start_le := covers.start_le
          end_le := nextEq ▸ covers.end_le
          advances := nextEq ▸ covers.advances
          complete := by
            intro nothing
            rw [nextEq]
            apply covers.complete
            change (headed.sampleOf page).observations.length < count
            rw [nothing]
            exact positive }

end Follows

end PageReader

namespace Paging

/-- The instance that the client reads: that of its first page, or the current one. -/
def instanceId (paging : Paging) : Nat :=
  paging.reader.presented?.getD paging.chronicle.agent.instanceId

/-- What holds all the time while a client pages. -/
structure Sound (paging : Paging) : Prop where
  chronicle : paging.chronicle.Sound
  follows :
    paging.reader.Follows paging.instanceId
      (paging.chronicle.annals paging.instanceId)
  instanceId_le : paging.instanceId ≤ paging.chronicle.agent.instanceId
  /-- The client is cut off exactly when the instance is gone. -/
  interrupted_iff :
    paging.interrupted = true ↔
      paging.instanceId ≠ paging.chronicle.agent.instanceId

/-- Before the first page nothing has been read. -/
theorem sound_start
    (plan : AgentPlan)
    (begun : Timestamp)
    (filter : ObservationFilter)
    (first : Nat) :
    (start plan begun filter first).Sound where
  chronicle := Chronicle.sound_start plan begun
  follows := PageReader.follows_of_nothing rfl _ _
  instanceId_le := Nat.le_refl _
  interrupted_iff := by simp [start, instanceId, PageReader.presented?]

/-- Without pages the client presents nothing, else the identifier of the first one. -/
theorem presented?_cases (paging : Paging) :
    (paging.reader.pages = [] ∧ paging.reader.presented? = none) ∨
      (paging.reader.pages ≠ [] ∧
        paging.reader.presented? = some paging.instanceId) := by
  unfold instanceId PageReader.presented?
  cases paging.reader.pages with
  | nil => exact .inl ⟨rfl, rfl⟩
  | cons read rest => exact .inr ⟨List.cons_ne_nil _ _, rfl⟩

variable {paging : Paging} {beforeReading beforeHeading : List Agent.Command}

theorem step_of_refused
    {count : Nat}
    {fault : Fault}
    (refused : paging.answer count beforeReading beforeHeading = .error fault) :
    paging.step (.request count beforeReading beforeHeading) =
      paging.told (beforeReading ++ beforeHeading) := by
  simp [step, refused]

/-- An answered request hands its page to the reader. -/
theorem step_of_answered
    {count : Nat}
    {document : SampleDocument}
    (answered :
      paging.answer count beforeReading beforeHeading = .ok document) :
    paging.step (.request count beforeReading beforeHeading) =
      { paging.told (beforeReading ++ beforeHeading) with
        reader := paging.reader.take document } := by
  simp [step, answered, told]

namespace Sound

/-- Before its first page the client goes with the agent. -/
theorem told_of_nothing
    (sound : paging.Sound)
    (nothing : paging.reader.pages = [])
    (notPresented : paging.reader.presented? = none)
    (commands : List Agent.Command) :
    (paging.told commands).Sound := by
  have currentId :
      (paging.told commands).instanceId =
        (paging.chronicle.run commands).agent.instanceId := by
    simp [instanceId, told, notPresented]
  have wasCurrent :
      paging.instanceId = paging.chronicle.agent.instanceId := by
    simp [instanceId, notPresented]
  have notInterrupted : paging.interrupted = false := by
    rw [← Bool.not_eq_true, sound.interrupted_iff]
    exact not_not_intro wasCurrent
  exact
    { chronicle := sound.chronicle.run commands
      follows := PageReader.follows_of_nothing nothing _ _
      instanceId_le := Nat.le_of_eq currentId
      interrupted_iff := by
        rw [currentId]
        simp [told, notInterrupted, nothing] }

/-- A reset cuts a client off that has a page; no other command does. -/
theorem interrupted_told_iff
    (sound : paging.Sound)
    (something : paging.reader.pages ≠ [])
    (commands : List Agent.Command) :
    (paging.told commands).interrupted = true ↔
      paging.instanceId ≠
        (paging.chronicle.run commands).agent.instanceId := by
  by_cases reset : .reset ∈ commands
  · have gone :
        paging.instanceId ≠
          (paging.chronicle.run commands).agent.instanceId :=
      Nat.ne_of_lt
        (Nat.lt_of_le_of_lt sound.instanceId_le
          (paging.chronicle.instanceId_lt_run reset))
    have interrupted : (paging.told commands).interrupted = true := by
      cases pages : paging.reader.pages with
      | nil => exact absurd pages something
      | cons read rest => simp [told, reset, pages]
    exact iff_of_true interrupted gone
  · have kept := paging.chronicle.instanceId_run_of_noReset reset
    have interruptedEq :
        (paging.told commands).interrupted = paging.interrupted := by
      simp [told, reset]
    rw [interruptedEq, sound.interrupted_iff, kept]

/-- Commands to the agent leave what the client has read. -/
theorem told
    (sound : paging.Sound)
    (commands : List Agent.Command) :
    (paging.told commands).Sound := by
  rcases paging.presented?_cases with
    ⟨nothing, notPresented⟩ | ⟨something, presented⟩
  · exact sound.told_of_nothing nothing notPresented commands
  · have sameId :
        (paging.told commands).instanceId = paging.instanceId := by
      change paging.reader.presented?.getD _ = paging.instanceId
      rw [presented, Option.getD_some]
    obtain ⟨readings, grown⟩ :=
      paging.chronicle.exists_annals_run commands paging.instanceId
    refine
      { chronicle := sound.chronicle.run commands
        follows := ?_
        instanceId_le := ?_
        interrupted_iff := ?_ }
    · rw [sameId]
      have follows := sound.follows.offerAll readings
      rw [← grown] at follows
      exact follows
    · rw [sameId]
      exact Nat.le_trans sound.instanceId_le
        (paging.chronicle.instanceId_le_run commands)
    · rw [sameId]
      exact sound.interrupted_told_iff something commands

/-- A client that gets an answer has presented the current instance or none. -/
theorem instanceId_eq_of_answered
    {count : Nat}
    {document : SampleDocument}
    (answered :
      paging.answer count beforeReading beforeHeading = .ok document) :
    paging.instanceId = paging.chronicle.agent.instanceId := by
  obtain ⟨fits, _, _⟩ := Agent.of_pageAcross_ok answered
  rcases paging.presented?_cases with ⟨_, notPresented⟩ | ⟨_, presented⟩
  · simp [Paging.instanceId, notPresented]
  · exact fits _ presented

/-- Between the check and the header of a request without a reset the instance stays. -/
theorem instanceId_run
    (current : paging.instanceId = paging.chronicle.agent.instanceId)
    {commands : List Agent.Command}
    (noReset : .reset ∉ commands) :
    (paging.chronicle.run commands).agent.instanceId = paging.instanceId :=
  (paging.chronicle.instanceId_run_of_noReset noReset).trans current.symm

/-- What is retained when the page is read belongs to the instance of the client. -/
theorem represents_run
    (sound : paging.Sound)
    (current : paging.instanceId = paging.chronicle.agent.instanceId)
    {commands : List Agent.Command}
    (noReset : .reset ∉ commands) :
    (paging.chronicle.run commands).agent.log.Represents
      ((paging.chronicle.run commands).annals paging.instanceId) := by
  have represents := (sound.chronicle.run commands).represents
  rw [Chronicle.history, instanceId_run current noReset] at represents
  exact represents

/-- What the client has read follows the history on, also while the page is read. -/
theorem follows_run
    (sound : paging.Sound)
    (commands : List Agent.Command) :
    paging.reader.Follows paging.instanceId
      ((paging.chronicle.run commands).annals paging.instanceId) := by
  obtain ⟨readings, grown⟩ :=
    paging.chronicle.exists_annals_run commands paging.instanceId
  rw [grown]
  exact sound.follows.offerAll readings

/-- A client of the current instance stays one while there is no reset. -/
theorem instanceId_told
    (current : paging.instanceId = paging.chronicle.agent.instanceId)
    {commands : List Agent.Command}
    (noReset : .reset ∉ commands) :
    (paging.told commands).instanceId = paging.instanceId := by
  change
    paging.reader.presented?.getD
        (paging.chronicle.run commands).agent.instanceId =
      paging.instanceId
  rw [instanceId_run current noReset, Paging.instanceId]
  cases paging.reader.presented? with
  | none => rfl
  | some presented => rfl

/-- A page of the current instance is taken in. -/
theorem take
    (sound : paging.Sound)
    {document : SampleDocument}
    (documentId :
      document.header.instanceId = paging.chronicle.agent.instanceId)
    (follows :
      (paging.reader.take document).Follows paging.instanceId
        (paging.chronicle.annals paging.instanceId)) :
    { paging with reader := paging.reader.take document }.Sound := by
  have sameId :
      { paging with reader := paging.reader.take document }.instanceId =
        paging.instanceId := by
    change (paging.reader.take document).presented?.getD _ = _
    rw [PageReader.presented?_take, documentId]
    rfl
  exact
    { chronicle := sound.chronicle
      follows := sameId.symm ▸ follows
      instanceId_le := sameId.symm ▸ sound.instanceId_le
      interrupted_iff := sameId.symm ▸ sound.interrupted_iff }

/-- A request that is answered takes the client on. -/
theorem answered
    (sound : paging.Sound)
    (noReset : .reset ∉ beforeReading ++ beforeHeading)
    {count : Nat}
    {document : SampleDocument}
    (answered :
      paging.answer count beforeReading beforeHeading = .ok document) :
    (paging.step (.request count beforeReading beforeHeading)).Sound := by
  have current := instanceId_eq_of_answered answered
  have headedId := instanceId_run current noReset
  have noResetBefore : .reset ∉ beforeReading :=
    fun member => noReset (List.mem_append_left _ member)
  have represents := sound.represents_run current noResetBefore
  obtain ⟨_, positive, _⟩ := Agent.of_pageAcross_ok answered
  obtain ⟨page, documentEq, windowEq, covers⟩ :=
    Agent.exists_page_of_ok represents answered
  rw [step_of_answered answered]
  apply (sound.told (beforeReading ++ beforeHeading)).take
  · rw [documentEq]
    rfl
  · -- What is logged before the header is made comes behind the page.
    obtain ⟨readings, grown⟩ :=
      (paging.chronicle.run beforeReading).exists_annals_run beforeHeading
        paging.instanceId
    have taken :=
      (sound.follows_run beforeReading).take represents headedId windowEq
        positive covers
    have takenLater := taken.offerAll readings
    rw [← grown, ← Chronicle.run_append, ← documentEq] at takenLater
    rw [instanceId_told current noReset]
    exact takenLater

/-- Whatever comes of it, a request without a reset in its course leaves the client sound. -/
theorem request
    (sound : paging.Sound)
    (noReset : .reset ∉ beforeReading ++ beforeHeading)
    (count : Nat) :
    (paging.step (.request count beforeReading beforeHeading)).Sound := by
  cases answered : paging.answer count beforeReading beforeHeading with
  | error fault =>
      rw [step_of_refused answered]
      exact sound.told _
  | ok document => exact sound.answered noReset answered

/-- Every event keeps the pages sound, if no reset falls within a request. -/
theorem step
    (sound : paging.Sound)
    {event : PagingEvent}
    (whole : event.IsWhole) :
    (paging.step event).Sound := by
  cases event with
  | command command => exact sound.told [command]
  | request count beforeReading beforeHeading =>
      refine sound.request ?_ count
      rw [List.mem_append, not_or]
      exact whole

/-- The pages stay sound over a whole run. -/
theorem run
    (sound : paging.Sound)
    {events : List PagingEvent}
    (whole : ∀ event ∈ events, event.IsWhole) :
    (paging.run events).Sound := by
  induction events generalizing paging with
  | nil => exact sound
  | cons event rest inductionHypothesis =>
      rw [List.forall_mem_cons] at whole
      exact inductionHypothesis (sound.step whole.1) whole.2

end Sound

/--
What a client that pages can rely on, and what answers its next request, be
there a reset in the course of that request or not.
-/
structure Lossless (paging : Paging) : Prop where
  /-- Together the pages are a stretch of one instance's history. -/
  gapless :
    paging.reader.observations =
      (paging.chronicle.annals paging.instanceId).between
        paging.reader.filter paging.reader.start paging.reader.cursor
  ascending :
    paging.reader.observations.Pairwise fun earlier later =>
      earlier.sequence < later.sequence
  progresses :
    ∀ read ∈ paging.reader.pages, read.Progresses paging.instanceId
  /-- After a reset the client is told that its instance is gone. -/
  afterReset :
    paging.interrupted = true →
    ∀ count beforeReading beforeHeading,
      paging.answer count beforeReading beforeHeading =
        .error
          (.instanceMismatch paging.instanceId
            paging.chronicle.agent.instanceId)
  /-- Otherwise the log is read from the cursor on as it is found, be it a new one by then. -/
  asFound :
    paging.interrupted = false →
    ∀ count beforeReading beforeHeading,
      0 < count →
      count ≤ paging.chronicle.agent.limits.maximumCount →
      paging.answer count beforeReading beforeHeading =
        ((paging.chronicle.run beforeReading).agent.log.range
            paging.reader.cursor none count paging.reader.filter).map
          (paging.chronicle.run (beforeReading ++ beforeHeading)).agent.sampleOf
  /-- When the cursor has been evicted by then, the client is told the window. -/
  afterEviction :
    paging.interrupted = false →
    ∀ count beforeReading beforeHeading,
      0 < count →
      count ≤ paging.chronicle.agent.limits.maximumCount →
      paging.reader.cursor <
        (paging.chronicle.run beforeReading).agent.log.first →
      paging.answer count beforeReading beforeHeading =
        .error
          (.outOfRange paging.reader.cursor
            (paging.chronicle.run beforeReading).agent.log.first
            (paging.chronicle.run beforeReading).agent.log.next)
  /-- When it has not been, and no reset has come before the reading, the next page answers. -/
  answered :
    paging.interrupted = false →
    ∀ count beforeReading beforeHeading,
      0 < count →
      count ≤ paging.chronicle.agent.limits.maximumCount →
      .reset ∉ beforeReading →
      (paging.chronicle.run beforeReading).agent.log.first ≤
        paging.reader.cursor →
      (paging.reader.pages ≠ [] ∨
        paging.reader.cursor ≤
          (paging.chronicle.run beforeReading).agent.log.next) →
      ∃ page,
        paging.answer count beforeReading beforeHeading =
            .ok
              ((paging.chronicle.run
                (beforeReading ++ beforeHeading)).agent.sampleOf page) ∧
          page.Covers
            ((paging.chronicle.run beforeReading).annals paging.instanceId)
            paging.reader.filter paging.reader.cursor count
  /-- The answers are those that the web gives. -/
  served :
    ∀ device? form count beforeReading beforeHeading,
      (paging.chronicle.run beforeReading).agent.AsksForPage device? form
        paging.reader.presented? paging.reader.cursor (count : Nat)
        paging.reader.filter →
      Web.answerSampleAcross
          paging.chronicle.agent
          (paging.chronicle.run beforeReading).agent
          (paging.chronicle.run (beforeReading ++ beforeHeading)).agent
          device? form =
        (paging.answer count beforeReading beforeHeading).map fun document =>
          Web.found document.toJson

namespace Sound

/-- A client that has not been cut off reads the current instance. -/
theorem instanceId_eq
    (sound : paging.Sound)
    (goesOn : paging.interrupted = false) :
    paging.instanceId = paging.chronicle.agent.instanceId := by
  rw [← Bool.not_eq_true, sound.interrupted_iff] at goesOn
  exact Decidable.of_not_not goesOn

/--
Once a reset has intervened, the reader still presents the identifier it began with.
-/
theorem presented?_of_interrupted
    (sound : paging.Sound)
    (interrupted : paging.interrupted = true) :
    paging.reader.presented? = some paging.instanceId := by
  rcases paging.presented?_cases with
    ⟨_, notPresented⟩ | ⟨_, presented⟩
  · refine absurd ?_ (sound.interrupted_iff.mp interrupted)
    simp [instanceId, notPresented]
  · exact presented

/-- While the client is not cut off its requests are read from the log as it is found. -/
theorem answer_eq_range
    (sound : paging.Sound)
    (goesOn : paging.interrupted = false)
    {count : Nat}
    (positive : 0 < count)
    (allowed : count ≤ paging.chronicle.agent.limits.maximumCount)
    (beforeReading beforeHeading : List Agent.Command) :
    paging.answer count beforeReading beforeHeading =
      ((paging.chronicle.run beforeReading).agent.log.range
          paging.reader.cursor none count paging.reader.filter).map
        (paging.chronicle.run (beforeReading ++ beforeHeading)).agent.sampleOf := by
  rw [← paging.chronicle.limits_run beforeReading] at allowed
  refine Agent.pageAcross_of_match ?_ positive allowed _ _ _
  intro presented isPresented
  rw [← sound.instanceId_eq goesOn, instanceId, isPresented,
    Option.getD_some]

/-- The next page answers as long as its history is there and its beginning retained. -/
theorem exists_answer
    (sound : paging.Sound)
    (goesOn : paging.interrupted = false)
    {count : Nat}
    (positive : 0 < count)
    (allowed : count ≤ paging.chronicle.agent.limits.maximumCount)
    (noReset : .reset ∉ beforeReading)
    (retained :
      (paging.chronicle.run beforeReading).agent.log.first ≤
        paging.reader.cursor)
    (reached :
      paging.reader.pages ≠ [] ∨
        paging.reader.cursor ≤
          (paging.chronicle.run beforeReading).agent.log.next) :
    ∃ page,
      paging.answer count beforeReading beforeHeading =
          .ok
            ((paging.chronicle.run
              (beforeReading ++ beforeHeading)).agent.sampleOf page) ∧
        page.Covers
          ((paging.chronicle.run beforeReading).annals paging.instanceId)
          paging.reader.filter paging.reader.cursor count := by
  have represents :=
    sound.represents_run (sound.instanceId_eq goesOn) noReset
  have cursorLe :
      paging.reader.cursor ≤
        (paging.chronicle.run beforeReading).agent.log.next := by
    rcases reached with something | cursorLe
    · rw [represents.next_eq]
      exact (sound.follows_run beforeReading).cursor_le something
    · exact cursorLe
  have accepted :=
    (ObservationLog.accepts_iff _ _).mpr ⟨retained, cursorLe⟩
  obtain ⟨page, found, _, covers⟩ :=
    represents.range_forward accepted (Int.natCast_pos.mpr positive)
      paging.reader.filter
  refine ⟨page, ?_, covers⟩
  rw [sound.answer_eq_range goesOn positive allowed, found]
  rfl

/-- Sound pages are lossless. -/
theorem lossless (sound : paging.Sound) : paging.Lossless where
  gapless := sound.follows.observations_eq
  ascending := by
    rw [sound.follows.observations_eq]
    exact History.between_ascending _ _ _ _
  progresses := sound.follows.progresses
  afterReset := by
    intro interrupted count beforeReading beforeHeading
    rw [answer, sound.presented?_of_interrupted interrupted]
    exact
      Agent.pageAcross_of_mismatch (sound.interrupted_iff.mp interrupted)
        _ _ _ _ _
  asFound := fun goesOn _ beforeReading beforeHeading positive allowed =>
    sound.answer_eq_range goesOn positive allowed beforeReading beforeHeading
  afterEviction := by
    intro goesOn count beforeReading beforeHeading positive allowed evicted
    have refused :
        (paging.chronicle.run beforeReading).agent.log.window.accepts
            paging.reader.cursor =
          false := by
      rw [← Bool.not_eq_true, ObservationLog.accepts_iff]
      exact fun accepted => Nat.not_le.mpr evicted accepted.1
    rw [sound.answer_eq_range goesOn positive allowed,
      ObservationLog.range_of_refused refused]
    rfl
  answered := fun goesOn _ _ _ positive allowed noReset retained reached =>
    sound.exists_answer goesOn positive allowed noReset retained reached
  served := fun _ _ _ _ _ asks => asks.answer_eq _ _

end Sound

/--
However a client pages and whatever happens in between, it misses nothing as
long as no reset falls into the course of a request.
-/
theorem lossless_pages
    (plan : AgentPlan)
    (begun : Timestamp)
    (filter : ObservationFilter)
    (first : Nat)
    (events : List PagingEvent)
    (whole : ∀ event ∈ events, event.IsWhole) :
    ((start plan begun filter first).run events).Lossless :=
  ((sound_start plan begun filter first).run whole).lossless

/-- Between the check and the reading of the second page another value is logged. -/
theorem lossless_second_page :
    (∀ event ∈
          [.command (AgentPlan.oneItemValue "1"), .request 5 [] [],
            .request 5 [AgentPlan.oneItemValue "2"] [.tick]],
        PagingEvent.IsWhole event) ∧
      ((start .oneItem ⟨0⟩ .all 1).run
        [.command (AgentPlan.oneItemValue "1"), .request 5 [] [],
          .request 5 [AgentPlan.oneItemValue "2"] [.tick]]).Lossless := by
  have whole :
      ∀ event ∈
          [.command (AgentPlan.oneItemValue "1"), .request 5 [] [],
            .request 5 [AgentPlan.oneItemValue "2"] [.tick]],
        PagingEvent.IsWhole event := by
    simp [PagingEvent.IsWhole, AgentPlan.oneItemValue]
  exact ⟨whole, lossless_pages .oneItem ⟨0⟩ .all 1 _ whole⟩

/--
A reset after the check of a request is not noticed: the client presents the
identifier of its first page and is answered with the second value of the next
instance, the first one of which it never gets.
-/
theorem page_of_another_instance :
    ((start .oneItem ⟨0⟩ .all 1).run
          [.command (AgentPlan.oneItemValue "1"),
            .request 5 [] []]).reader.presented? =
        some 1 ∧
      (((start .oneItem ⟨0⟩ .all 1).run
          [.command (AgentPlan.oneItemValue "1"), .request 5 [] []]).answer 5
            [.reset, AgentPlan.oneItemValue "2", AgentPlan.oneItemValue "3"]
            []).map
          (fun document =>
            (document.header.instanceId,
              document.observations.map fun observation =>
                (observation.sequence, observation.values.find? valueKey))) =
        .ok (2, [(2, some "3")]) :=
  ⟨rfl, rfl⟩

-- The page after the first one has been evicted.
example :
    ((start .oneItem ⟨0⟩ .all 1).run
      [.command (AgentPlan.oneItemValue "1"), .request 5 [] [],
        .command (AgentPlan.oneItemValue "2"),
        .command (AgentPlan.oneItemValue "3")]).answer 5 [] [] =
      .error (.outOfRange 2 3 4) := by
  rfl

end Paging

end MTConnect
