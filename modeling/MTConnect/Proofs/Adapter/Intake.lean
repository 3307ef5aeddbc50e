import MTConnect.Proofs.Adapter.Lines
import MTConnect.Proofs.Agent.Marks

namespace MTConnect

/-!
# What the pieces of a feed write

A piece that is the text of a record writes what the record reports. All other
pieces are skipped, and so are records that fail: as long as there are numbers
left, a record that fails leaves the agent as it was. What is reported depends
on the devices and on the clock only, which a feed does not change, so it is
known beforehand.
-/

namespace Catalog

/-- What storing or removing an asset of a device is logged as. -/
def assetReadings
    (catalog : Catalog)
    (deviceKey assetId : String)
    (removed : Bool)
    (timestamp : Timestamp) :
    List Reading :=
  match catalog.device? deviceKey with
  | none => []
  | some device =>
      catalog.announceReadings device
        (if removed then Agent.assetRemovedKind else Agent.assetChangedKind)
        assetId timestamp

/-- What a record is logged as; without a time it happens now. -/
def recordReadings
    (catalog : Catalog)
    (now : Timestamp)
    (record : AdapterRecord) :
    List Reading :=
  let time := record.timestamp?.getD now
  match record with
  | .observation device item value? values _ =>
      let all := Agent.recordValues value? values
      if all.isEmpty then []
      else catalog.readings device item (fun _ => all) time
  | .unavailable device (some item) _ => catalog.markReadings device item time
  | .unavailable device none _ => catalog.deviceMarks time device
  | .asset device id _ _ removed _ =>
      catalog.assetReadings device id removed time

/-- What a line is logged as; nothing unless it is a record. -/
def lineReadings
    (catalog : Catalog)
    (now : Timestamp)
    (line : List Char) :
    List Reading :=
  let text := Text.trim line
  if text.isEmpty then
    []
  else
    match AdapterRecord.read? text with
    | none => []
    | some record => catalog.recordReadings now record

/-- What a piece is logged as; nothing unless it is text. -/
def pieceReadings
    (catalog : Catalog)
    (now : Timestamp)
    (piece : List UInt8) :
    List Reading :=
  match Text.Utf8.decode? piece with
  | none => []
  | some line => catalog.lineReadings now line

end Catalog

namespace Agent

/--
Take a piece, and skip it if it is no text or fails. The answer is the device
key of the record that was written, if there was one.
-/
def takePiece (agent : Agent) (piece : List UInt8) : Option String × Agent :=
  match Text.Utf8.decode? piece with
  | none => (none, agent)
  | some line =>
      match agent.takeLine line with
      | (.ok device?, after) => (device?, after)
      | (.error _, _) => (none, agent)

/-- Take pieces, one after the other; the device keys of all records that were written. -/
def takePieces (agent : Agent) : List (List UInt8) → List String × Agent
  | [] => ([], agent)
  | piece :: rest =>
      let (device?, after) := agent.takePiece piece
      let (devices, last) := after.takePieces rest
      (device?.toList ++ devices, last)

/-- Some readings were written, and the clock stood still. -/
structure Took (agent : Agent) (readings : List Reading) (after : Agent) : Prop where
  wrote : agent.Wrote readings after
  clock_eq : after.clock = agent.clock

theorem Took.refl (agent : Agent) : agent.Took [] agent where
  wrote := .refl agent
  clock_eq := rfl

/-- What is taken in two parts is written in two parts. -/
theorem Took.trans
    {agent middle after : Agent}
    {early late : List Reading}
    (first : agent.Took early middle)
    (second : middle.Took late after) :
    agent.Took (early ++ late) after where
  wrote := first.wrote.trans second.wrote
  clock_eq := second.clock_eq.trans first.clock_eq

/-- To apply a record offers its readings. -/
theorem applyRecord_took (agent : Agent) (record : AdapterRecord) :
    agent.Took
      (agent.catalog.recordReadings agent.clock record)
      (agent.applyRecord record).2 := by
  cases record with
  | observation device item value? values timestamp? =>
      unfold applyRecord Catalog.recordReadings
      dsimp only
      split
      next => exact .refl agent
      next =>
        exact
          { wrote := agent.append_wrote device item _ _ fun _ _ => rfl
            clock_eq := (agent.append_keeps device item _ _).clock_eq }
  | unavailable device item? timestamp? =>
      cases item? with
      | none =>
          exact
            { wrote := agent.markDeviceUnavailable_wrote device _
              clock_eq := (agent.markDeviceUnavailable_keeps device _).clock_eq }
      | some item =>
          exact
            { wrote := agent.markUnavailable_wrote device item _
              clock_eq := (agent.append_keeps device item _ _).clock_eq }
  | asset device id kind payload removed timestamp? =>
      refine ⟨agent.upsertAsset_wrote device id kind payload removed _, ?_⟩
      unfold applyRecord withoutResult upsertAsset
      dsimp only
      split
      next => rfl
      next found _ => exact (announce_keeps _ found _ id _).clock_eq

/-- With numbers left, a record is written, or it has no values and nothing happens. -/
theorem applyRecord_cases
    {agent : Agent}
    {record : AdapterRecord}
    (numbers :
      agent.log.HasNumbersFor
        (agent.catalog.recordReadings agent.clock record)) :
    (agent.applyRecord record).1 = .ok () ∨
      ∃ fault,
        agent.applyRecord record = (.error fault, agent) ∧
          fault.isFatal = false := by
  cases record with
  | observation device item value? values timestamp? =>
      unfold applyRecord
      unfold Catalog.recordReadings at numbers
      dsimp only at numbers ⊢
      split
      next => exact Or.inr ⟨_, rfl, rfl⟩
      next filled =>
        rw [if_neg filled] at numbers
        obtain ⟨sequence?, answered, _⟩ := append_ok numbers _
        exact Or.inl (congrArg (Except.map fun _ => ()) answered)
  | unavailable device item? timestamp? =>
      left
      cases item? with
      | none =>
          have answered := markDeviceUnavailable_ok numbers
          exact congrArg (Except.map fun _ => ()) answered
      | some item =>
          obtain ⟨sequence?, answered, _⟩ := markUnavailable_ok numbers
          exact congrArg (Except.map fun _ => ()) answered
  | asset device id kind payload removed timestamp? =>
      left
      have answered :
          (agent.upsertAsset device id kind payload removed
              (timestamp?.getD agent.clock)).1 =
            .ok _ :=
        upsertAsset_ok numbers
      exact congrArg (Except.map fun _ => ()) answered

/-- To take a line offers the readings of its record, if it is one. -/
theorem takeLine_took (agent : Agent) (line : List Char) :
    agent.Took
      (agent.catalog.lineReadings agent.clock line)
      (agent.takeLine line).2 := by
  unfold takeLine Catalog.lineReadings
  dsimp only
  cases (Text.trim line).isEmpty with
  | true => exact .refl agent
  | false =>
      rw [if_neg Bool.false_ne_true, if_neg Bool.false_ne_true]
      cases AdapterRecord.read? (Text.trim line) with
      | none => exact .refl agent
      | some record =>
          have took := agent.applyRecord_took record
          dsimp only
          split <;> next outcome => rwa [outcome] at took

/-- With numbers left, a line that fails changes nothing and ends nothing. -/
theorem takeLine_cases
    {agent : Agent}
    {line : List Char}
    (numbers :
      agent.log.HasNumbersFor
        (agent.catalog.lineReadings agent.clock line)) :
    (∃ device?, (agent.takeLine line).1 = .ok device?) ∨
      ∃ fault,
        agent.takeLine line = (.error fault, agent) ∧
          fault.isFatal = false := by
  unfold takeLine
  unfold Catalog.lineReadings at numbers
  dsimp only at numbers ⊢
  split
  next => exact Or.inl ⟨none, rfl⟩
  next filled =>
    rw [if_neg filled] at numbers
    split
    next => exact Or.inr ⟨.malformed, rfl, rfl⟩
    next record found =>
      simp only [found] at numbers
      rcases applyRecord_cases numbers with written | ⟨fault, failed, mild⟩
      · split
        next fault after outcome =>
          rw [outcome] at written
          cases written
        next after _ => exact Or.inl ⟨some record.device, rfl⟩
      · rw [failed]
        exact Or.inr ⟨.agent fault, rfl, mild⟩

/-- With numbers left, a piece that is skipped is one that writes nothing. -/
theorem takePiece_took
    {agent : Agent}
    {piece : List UInt8}
    (numbers :
      agent.log.HasNumbersFor
        (agent.catalog.pieceReadings agent.clock piece)) :
    agent.Took
      (agent.catalog.pieceReadings agent.clock piece)
      (agent.takePiece piece).2 := by
  unfold takePiece
  unfold Catalog.pieceReadings at numbers ⊢
  split
  next => exact .refl agent
  next line decoded =>
    simp only [decoded] at numbers
    have took := agent.takeLine_took line
    rcases takeLine_cases numbers with ⟨device?, answered⟩ | ⟨fault, failed, _⟩
    · split
      next outcome => rwa [outcome] at took
      next outcome =>
        rw [outcome] at answered
        cases answered
    · rw [failed] at took ⊢
      exact took

/-- To take pieces with numbers left offers the readings of each of them, in order. -/
theorem takePieces_took
    {agent : Agent}
    {pieces : List (List UInt8)}
    (numbers :
      agent.log.HasNumbersFor
        (pieces.flatMap (agent.catalog.pieceReadings agent.clock))) :
    agent.Took
      (pieces.flatMap (agent.catalog.pieceReadings agent.clock))
      (agent.takePieces pieces).2 := by
  induction pieces generalizing agent with
  | nil => exact .refl agent
  | cons piece rest inductionHypothesis =>
      rw [List.flatMap_cons] at numbers ⊢
      have first := takePiece_took numbers.left
      have later := first.wrote.hasNumbersFor numbers
      rw [← first.wrote.catalog_eq, ← first.clock_eq] at later
      have second := inductionHypothesis later
      rw [first.wrote.catalog_eq, first.clock_eq] at second
      exact first.trans second

end Agent

namespace Feed

theorem agent_foldl_note (feed : Feed) (devices : List String) :
    (devices.foldl note feed).agent = feed.agent := by
  induction devices generalizing feed with
  | nil => rfl
  | cons device rest inductionHypothesis =>
      exact inductionHypothesis (feed.note device)

/-- Each device that is noted counts as one record applied. -/
theorem applied_foldl_note (feed : Feed) (devices : List String) :
    (devices.foldl note feed).applied = feed.applied + devices.length := by
  induction devices generalizing feed with
  | nil => rfl
  | cons device rest inductionHypothesis =>
      refine (inductionHypothesis (feed.note device)).trans ?_
      have counted : (feed.note device).applied = feed.applied + 1 := rfl
      rw [counted, List.length_cons]
      omega

/-- A device that is noted is reported from then on. -/
theorem mem_reported_note
    (feed : Feed)
    (device key : String) :
    key ∈ (feed.note device).reported ↔
      key ∈ feed.reported ∨ key = device := by
  unfold note
  dsimp only
  split
  next known =>
    have member := List.contains_iff_mem.mp known
    constructor
    · exact Or.inl
    · rintro (before | rfl)
      · exact before
      · exact member
  next => rw [List.mem_append, List.mem_singleton]

/-- All devices that are noted are reported from then on. -/
theorem mem_reported_foldl_note
    (feed : Feed)
    (devices : List String)
    (key : String) :
    key ∈ (devices.foldl note feed).reported ↔
      key ∈ feed.reported ∨ key ∈ devices := by
  induction devices generalizing feed with
  | nil => simp
  | cons device rest inductionHypothesis =>
      rw [List.foldl_cons, inductionHypothesis, mem_reported_note,
        List.mem_cons, or_assoc]

/-- No device key is listed twice. -/
theorem nodup_reported_foldl_note
    {feed : Feed}
    (nodup : feed.reported.Nodup)
    (devices : List String) :
    (devices.foldl note feed).reported.Nodup := by
  induction devices generalizing feed with
  | nil => exact nodup
  | cons device rest inductionHypothesis =>
      apply inductionHypothesis
      unfold note
      dsimp only
      split
      next => exact nodup
      next unknown =>
        have absent : device ∉ feed.reported := by
          simpa [List.contains_iff_mem] using unknown
        refine
          List.nodup_append.mpr ⟨nodup, List.pairwise_singleton _ _, ?_⟩
        intro before inReported other isDevice same
        rw [List.mem_singleton] at isDevice
        rw [same, isDevice] at inReported
        exact absent inReported

/-- With numbers left, a feed does with a piece what the agent does. -/
theorem takeBytes_eq
    (feed : Feed)
    {piece : List UInt8}
    (numbers :
      feed.agent.log.HasNumbersFor
        (feed.agent.catalog.pieceReadings feed.agent.clock piece)) :
    feed.takeBytes piece =
      (none,
        (feed.agent.takePiece piece).1.toList.foldl note
          { feed with agent := (feed.agent.takePiece piece).2 }) := by
  unfold takeBytes Agent.takePiece
  unfold Catalog.pieceReadings at numbers
  cases decoded : Text.Utf8.decode? piece with
  | none => rfl
  | some line =>
      simp only [decoded] at numbers
      dsimp only
      cases outcome : feed.agent.takeLine line with
      | mk answer after =>
          cases answer with
          | ok device? => cases device? <;> rfl
          | error fault =>
              rcases Agent.takeLine_cases numbers with
                ⟨device?, answered⟩ | ⟨_, failed, mild⟩
              · rw [outcome] at answered
                cases answered
              · rw [outcome] at failed
                cases failed
                dsimp only
                rw [mild]
                rfl

/-- With numbers left, no piece ends a feed early. -/
theorem takeAll_eq
    (feed : Feed)
    {pieces : List (List UInt8)}
    (numbers :
      feed.agent.log.HasNumbersFor
        (pieces.flatMap
          (feed.agent.catalog.pieceReadings feed.agent.clock))) :
    feed.takeAll pieces =
      (none,
        (feed.agent.takePieces pieces).1.foldl note
          { feed with agent := (feed.agent.takePieces pieces).2 }) := by
  induction pieces generalizing feed with
  | nil => rfl
  | cons piece rest inductionHypothesis =>
      rw [List.flatMap_cons] at numbers
      have first := Agent.takePiece_took numbers.left
      have later := first.wrote.hasNumbersFor numbers
      rw [takeAll, feed.takeBytes_eq numbers.left, Agent.takePieces]
      dsimp only
      rw [List.foldl_append]
      -- What is to come is known beforehand: catalog and clock are the same.
      rw [← first.wrote.catalog_eq, ← first.clock_eq] at later
      cases (feed.agent.takePiece piece).1 with
      | none => exact inductionHypothesis _ later
      | some device => exact inductionHypothesis _ later

end Feed

end MTConnect
