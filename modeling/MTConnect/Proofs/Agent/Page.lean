import MTConnect.Proofs.Agent.Chronicle
import MTConnect.Proofs.Observation.Reading
import MTConnect.Web.Handler

namespace MTConnect

/-!
# One page of a history

A request that reads forwards from a number is checked in a fixed order: the
instance that the client presents, the count, the number. It is answered with
a page of the history if it passes; otherwise the first check that fails says
why. A request for a sample on the web is such a request.

The agent is looked at three times, for the instance, for the page and for the
header over it. Others may write to it in between, so these are three agents.
-/

namespace Agent

/-- The page from a number on, for a client that may present an instance identifier. -/
def pageAcross
    (checked read headed : Agent)
    (presented? : Option Nat)
    (start : Nat)
    (count : Int)
    (filter : ObservationFilter) :
    Except Fault SampleDocument := do
  checked.checkOptionalInstance presented?
  let allowed ← read.checkedCount (some count)
  let page ← read.log.range start none allowed filter
  pure (headed.sampleOf page)

/-- A form that asks for such a page. -/
structure AsksForPage
    (agent : Agent)
    (device? : Option String)
    (form : Form)
    (presented? : Option Nat)
    (start : Nat)
    (count : Int)
    (filter : ObservationFilter) : Prop where
  noInterval : form.has "interval" = false
  presented : form.word "instanceId" = .ok presented?
  fromStart : form.word "from" = .ok (some start)
  toEnd : form.word "to" = .ok none
  counted : form.signedWord "count" = .ok (some count)
  selected : agent.catalog.select device? (form.text? "path") = .ok filter

variable {agent checked read headed : Agent} {history : History}

section AsksForPage

variable
  {device? : Option String}
  {form : Form}
  {presented? : Option Nat}
  {start : Nat}
  {count : Int}
  {filter : ObservationFilter}

/-- On the web such a form is answered with the page, whatever is written in between. -/
theorem AsksForPage.answer_eq
    (asks : read.AsksForPage device? form presented? start count filter)
    (checked headed : Agent) :
    Web.answerSampleAcross checked read headed device? form =
      (pageAcross checked read headed presented? start count filter).map
        fun document => Web.found document.toJson := by
  have pageEq
      (earliest : Nat) :
      read.samplePage earliest
          { device := device?
            path := form.text? "path"
            first := some start
            last := none
            count := some count } =
        (do
          let allowed ← read.checkedCount (some count)
          read.log.range start none allowed filter) := by
    rw [samplePage, asks.selected]
    rfl
  simp only [Web.answerSampleAcross, Web.checkedSample, asks.presented,
    asks.fromStart, asks.toEnd, asks.counted, pageAcross, bind, Except.bind,
    pure, Except.pure]
  cases checked.checkOptionalInstance presented? with
  | error fault => rfl
  | ok _ =>
      simp only [pageEq, bind, Except.bind]
      cases read.checkedCount (some count) with
      | error fault => rfl
      | ok allowed =>
          simp only
          cases read.log.range start none allowed filter with
          | error fault => rfl
          | ok page => rfl

/-- The route of a sample leads to that answer. -/
theorem AsksForPage.dispatch_eq
    (asks : agent.AsksForPage device? form presented? start count filter)
    (settings : WebSettings) :
    Web.dispatch settings agent (.sample device?) form =
      (pageAcross agent agent agent presented? start count filter).map
        fun document => Web.found document.toJson := by
  rw [← asks.answer_eq, Web.dispatch, if_neg (by simp [asks.noInterval]),
    Web.answerSample]

end AsksForPage

/-- Exactly the identifier of the current history is accepted. -/
theorem checkInstance_eq_ok_iff (agent : Agent) (presented : Nat) :
    agent.checkInstance presented = .ok () ↔
      presented = agent.instanceId := by
  unfold checkInstance AgentInstance.check
  split
  next same => exact iff_of_true rfl same
  next other =>
    refine iff_of_false ?_ other
    simp

/-- A presented identifier passes if it is the current one; none passes always. -/
theorem checkOptionalInstance_eq_ok_iff {presented? : Option Nat} :
    agent.checkOptionalInstance presented? = .ok () ↔
      ∀ presented,
        presented? = some presented → presented = agent.instanceId := by
  cases presented? with
  | none => simp [checkOptionalInstance]
  | some presented =>
      simpa [checkOptionalInstance] using
        agent.checkInstance_eq_ok_iff presented

/-- A count passes if it is neither zero nor above the largest one. -/
theorem checkedCount_eq_ok_iff
    {count? : Option Int}
    {count : Int} :
    agent.checkedCount count? = .ok count ↔
      count?.getD (Word.toSigned agent.limits.defaultCount) = count ∧
        count ≠ 0 ∧ count.natAbs ≤ agent.limits.maximumCount := by
  simp only [checkedCount, if_error_eq_ok_iff, Except.ok.injEq, Nat.not_lt]
  constructor
  · rintro ⟨notZero, allowed, rfl⟩
    exact ⟨rfl, notZero, allowed⟩
  · rintro ⟨rfl, notZero, allowed⟩
    exact ⟨notZero, allowed, rfl⟩

/-- A range that is found has been read from the log. -/
theorem pageFiltered_eq_ok_iff
    {earliest : Nat}
    {first? last? : Option Nat}
    {count : Int}
    {filter : ObservationFilter}
    {page : Page} :
    agent.pageFiltered earliest first? last? count filter = .ok page ↔
      checkedRange first? last? = .ok () ∧
        agent.log.range (first?.getD earliest) last? count filter =
          .ok page := by
  simp only [pageFiltered, bind_eq_ok_iff]
  constructor
  · rintro ⟨_, ordered, read⟩
    exact ⟨ordered, read⟩
  · rintro ⟨ordered, read⟩
    exact ⟨(), ordered, read⟩

/-- A range that is answered has been read from the log. -/
theorem sampleFiltered_eq_ok_iff
    {first? last? : Option Nat}
    {count : Int}
    {filter : ObservationFilter}
    {document : SampleDocument} :
    agent.sampleFiltered first? last? count filter = .ok document ↔
      checkedRange first? last? = .ok () ∧
        ∃ page,
          agent.log.range (first?.getD agent.log.window.first) last? count
              filter =
            .ok page ∧
          agent.sampleOf page = document := by
  simp only [sampleFiltered, bind_eq_ok_iff, pageFiltered_eq_ok_iff, pure,
    Except.pure, Except.ok.injEq]
  constructor
  · rintro ⟨page, ⟨ordered, read⟩, documentEq⟩
    exact ⟨ordered, page, read, documentEq⟩
  · rintro ⟨ordered, page, read, documentEq⟩
    exact ⟨page, ⟨ordered, read⟩, documentEq⟩

/-- A sample whose page is found has passed the checks before the range is read. -/
theorem samplePage_eq_ok_iff
    {earliest : Nat}
    {request : SampleRequest}
    {page : Page} :
    agent.samplePage earliest request = .ok page ↔
      ∃ filter,
        agent.catalog.select request.device request.path = .ok filter ∧
          ∃ count,
            agent.checkedCount request.count = .ok count ∧
              agent.pageFiltered earliest request.first request.last count
                  filter =
                .ok page := by
  simp only [samplePage, bind_eq_ok_iff]

/-- The cursor is the given start, or else the first number, if the window accepts it. -/
theorem streamCursor_eq_ok_iff
    {start? : Option Nat}
    {cursor : Nat} :
    agent.streamCursor start? = .ok cursor ↔
      start?.getD agent.log.window.first = cursor ∧
        agent.log.window.accepts cursor = true := by
  unfold streamCursor
  dsimp only
  split
  next accepted =>
    rw [Except.ok.injEq]
    constructor
    · rintro rfl
      exact ⟨rfl, accepted⟩
    · exact And.left
  next refused =>
    constructor
    · intro failed
      cases failed
    · rintro ⟨rfl, accepted⟩
      exact absurd accepted refused

/-- The terms of a stream follow from its device, its path and its count. -/
theorem streamTerms_eq_ok_iff
    {options : StreamOptions}
    {terms : StreamTerms} :
    agent.streamTerms options = .ok terms ↔
      agent.catalog.select options.device options.path = .ok terms.filter ∧
        agent.checkedCount options.count = .ok terms.count ∧
        checkForward terms.count = .ok () := by
  simp only [streamTerms, bind_eq_ok_iff, pure, Except.pure, Except.ok.injEq]
  constructor
  · rintro ⟨filter, selected, count, counted, _, forward, rfl⟩
    exact ⟨selected, counted, forward⟩
  · rintro ⟨selected, counted, forward⟩
    exact ⟨_, selected, _, counted, (), forward, rfl⟩

/-- The terms are given only to those who present the current history or none. -/
theorem checkedTerms_eq_ok_iff
    {options : StreamOptions}
    {terms : StreamTerms} :
    agent.checkedTerms options = .ok terms ↔
      agent.checkOptionalInstance options.instanceId = .ok () ∧
        agent.streamTerms options = .ok terms := by
  simp only [checkedTerms, bind_eq_ok_iff]
  constructor
  · rintro ⟨_, fits, allowed⟩
    exact ⟨fits, allowed⟩
  · rintro ⟨fits, allowed⟩
    exact ⟨(), fits, allowed⟩

theorem checkedCount_of_allowed
    {count : Nat}
    (positive : 0 < count)
    (allowed : count ≤ agent.limits.maximumCount) :
    agent.checkedCount (some (count : Int)) = .ok (count : Int) :=
  checkedCount_eq_ok_iff.mpr
    ⟨rfl, Int.ne_of_gt (Int.natCast_pos.mpr positive), allowed⟩

/-- Who presents another instance is told so, whatever happens afterwards. -/
theorem pageAcross_of_mismatch
    {presented : Nat}
    (other : presented ≠ checked.instanceId)
    (read headed : Agent)
    (start : Nat)
    (count : Int)
    (filter : ObservationFilter) :
    pageAcross checked read headed (some presented) start count filter =
      .error (.instanceMismatch presented checked.instanceId) := by
  have mismatch :
      checked.identity.check presented =
        .error (.instanceMismatch presented checked.instanceId) := by
    exact if_neg other
  simp [pageAcross, checkOptionalInstance, checkInstance, mismatch, bind,
    Except.bind]

/--
With a fitting identifier and an allowed count the page is read from the log as
it is found, be it that of another instance by now.
-/
theorem pageAcross_of_match
    {presented? : Option Nat}
    (fits :
      ∀ presented, presented? = some presented → presented = checked.instanceId)
    {count : Nat}
    (positive : 0 < count)
    (allowed : count ≤ read.limits.maximumCount)
    (headed : Agent)
    (start : Nat)
    (filter : ObservationFilter) :
    pageAcross checked read headed presented? start count filter =
      (read.log.range start none count filter).map headed.sampleOf := by
  simp only [pageAcross, checkOptionalInstance_eq_ok_iff.mpr fits,
    checkedCount_of_allowed positive allowed, bind, Except.bind, pure,
    Except.pure]
  cases read.log.range start none count filter with
  | error fault => rfl
  | ok page => rfl

/-- Who gets a page, presented the current identifier and an allowed count. -/
theorem of_pageAcross_ok
    {presented? : Option Nat}
    {start count : Nat}
    {filter : ObservationFilter}
    {document : SampleDocument}
    (answered :
      pageAcross checked read headed presented? start count filter =
        .ok document) :
    (∀ presented,
        presented? = some presented → presented = checked.instanceId) ∧
      0 < count ∧ count ≤ read.limits.maximumCount := by
  simp only [pageAcross, bind_eq_ok_iff] at answered
  obtain ⟨_, fits, _, counted, _⟩ := answered
  obtain ⟨rfl, notZero, allowed⟩ := checkedCount_eq_ok_iff.mp counted
  exact
    ⟨checkOptionalInstance_eq_ok_iff.mp fits,
      Nat.pos_of_ne_zero fun zero =>
        notZero (congrArg (fun count : Nat => (count : Int)) zero),
      allowed⟩

/-- What a client gets is a page of the history that the log was found with. -/
theorem exists_page_of_ok
    (represents : read.log.Represents history)
    {presented? : Option Nat}
    {start count : Nat}
    {filter : ObservationFilter}
    {document : SampleDocument}
    (answered :
      pageAcross checked read headed presented? start count filter =
        .ok document) :
    ∃ page,
      document = headed.sampleOf page ∧
        page.window = read.log.window ∧
        page.Covers history filter start count := by
  obtain ⟨fits, positive, allowed⟩ := of_pageAcross_ok answered
  rw [pageAcross_of_match fits positive allowed] at answered
  cases accepted : read.log.window.accepts start with
  | false =>
      rw [ObservationLog.range_of_refused accepted] at answered
      cases answered
  | true =>
      obtain ⟨page, found, windowEq, covers⟩ :=
        represents.range_forward accepted (Int.natCast_pos.mpr positive) filter
      rw [found] at answered
      exact ⟨page, (Except.ok.inj answered).symm, windowEq, covers⟩

end Agent

end MTConnect
