import Mathlib.Data.List.Basic
import MTConnect.Proofs.Activity.Series

namespace MTConnect.Exposition

/-!
# Families in blocks

A collector expects all lines of a family in one block that begins with the
help and the type of the family. The families about devices and about the agent
are written so. The two families about data items are announced together and
their samples alternate, and likewise the two families about asset types: as
soon as a report lists a data item, or an asset type, neither of its families is
one block.
-/

/-- A report lists a data item of some device. -/
def ListsItem (report : ActivityReport) : Prop :=
  ∃ device rates item rate,
    report.devices.find? device = some rates ∧
      rates.items.find? item = some rate

/-- A report lists an asset type. -/
def ListsAsset (report : ActivityReport) : Prop :=
  ∃ kind rate, report.assets.find? kind = some rate

/-- The name of the family that a statement is about. -/
def Statement.name : Statement → String
  | .help name _ => name
  | .kind name _ => name
  | .sample name _ _ => name

/-- All that is said about a name stands together: its help, its type, and then its samples. -/
def OneBlock (name : String) (statements : List Statement) : Prop :=
  ∃ front help kind samples back,
    statements =
        front ++ (.help name help :: .kind name kind :: samples) ++ back ∧
      (∀ statement ∈ samples,
        ∃ labels value, statement = .sample name labels value) ∧
      ∀ statement ∈ front ++ back, statement.name ≠ name

/-- The families about devices. -/
def deviceFamilies : List Family :=
  [observations, observationRate]

/-- The families about data items, which are announced together. -/
def itemFamilies : List Family :=
  [itemObservations, itemRate]

/-- The families about asset types, which are announced together. -/
def assetFamilies : List Family :=
  [assetUpdates, assetRate]

/-- The families about the agent itself. -/
def agentFamilies : List Family :=
  [bufferSize, firstSequence, nextSequence, assetCount, instanceId, reportTime]

/-! ## Names with a lead -/

/-- A family whose name has a lead. -/
def Family.under (lead : String) (family : Family) : Family :=
  { family with name := lead ++ family.name }

/-- A line about a family whose name has a lead. -/
def Line.under (lead : String) : Line → Line
  | .help family => .help (family.under lead)
  | .kind family => .kind (family.under lead)
  | .sample family labels value => .sample (family.under lead) labels value

/-- The family that a line is about. -/
def Line.family : Line → Family
  | .help family => family
  | .kind family => family
  | .sample family _ _ => family

/-- What the lines of an exposition say, one after the other. -/
def said (lead? : Option String) (report : ActivityReport) (header : Header) : List Statement :=
  (lines report header).map fun line =>
    (line.under (leadText lead?)).statement

/-- Names stay names behind a lead that is empty or a name itself. -/
def LegibleLead (lead : String) : Prop :=
  lead = "" ∨ isName lead = true

/-- A name behind a legible lead is a name. -/
theorem isName_append
    {lead name : String}
    (legible : LegibleLead lead)
    (fits : isName name = true) :
    isName (lead ++ name) = true := by
  rcases legible with rfl | leadFits
  · rwa [String.empty_append]
  · obtain ⟨first, rest, shape, noDigit, leadChars⟩ :=
      exists_eq_cons_of_isName leadFits
    obtain ⟨_, _, _, _, nameChars⟩ := exists_eq_cons_of_isName fits
    rw [shape, List.forall_mem_cons] at leadChars
    rw [isName, String.toList_append, shape]
    simpa [noDigit] using ⟨leadChars.1, leadChars.2, nameChars⟩

theorem text_under (lead : String) (line : Line) :
    (line.under lead).text "" = line.text lead := by
  cases line with
  | help | kind | sample =>
      simp [Line.under, Line.text, Family.under, String.append_assoc]

/-- A legible line stays legible under a legible lead. -/
theorem Line.Legible.under
    {lead : String}
    (legibleLead : LegibleLead lead)
    {line : Line}
    (legible : line.Legible) :
    (line.under lead).Legible := by
  cases line with
  | help family => exact ⟨isName_append legibleLead legible.1, legible.2⟩
  | kind family => exact isName_append legibleLead legible
  | sample family labels value =>
      exact ⟨isName_append legibleLead legible.1, legible.2⟩

/-- Behind a legible lead a collector reads off every line what it says. -/
theorem readText?_said
    {lead? : Option String}
    (legibleLead : LegibleLead (leadText lead?))
    (report : ActivityReport)
    (header : Header) :
    readText? (text lead? report header) = some (said lead? report header) := by
  have textEq :
      text lead? report header =
        String.join
          (((lines report header).map (Line.under (leadText lead?))).map
            fun line => line.text "" ++ "\n") := by
    rw [text, List.map_map]
    simp only [Function.comp_def, text_under]
  have legible :
      ∀ line ∈ (lines report header).map (Line.under (leadText lead?)),
        line.Legible := by
    intro line member
    obtain ⟨bare, inLines, rfl⟩ := List.mem_map.mp member
    exact (legible_lines report header bare inLines).under legibleLead
  rw [textEq, readText?_of_legible legible, said, List.map_map]
  rfl

/-! ## Blocks of lines -/

/-- Some lines hold a block of a family, and no other line is about the family. -/
def Block (family : Family) (all : List Line) : Prop :=
  ∃ front samples back,
    all = front ++ (announce family ++ samples) ++ back ∧
      (∀ line ∈ samples, ∃ labels value, line = .sample family labels value) ∧
      ∀ line ∈ front ++ back, line.family ≠ family

namespace Block

variable {family : Family} {all : List Line}

/-- A family that is announced and then lists its entries is one block. -/
theorem alone
    {α : Type}
    (entries : List α)
    (labels : α → List Label)
    (value : α → String) :
    Block family
      (announce family ++
        entries.map fun entry => .sample family (labels entry) (value entry)) := by
  refine ⟨[], _, [], by rw [List.nil_append, List.append_nil], ?_, by simp⟩
  intro line member
  obtain ⟨entry, _, rfl⟩ := List.mem_map.mp member
  exact ⟨_, _, rfl⟩

theorem announced : Block family (announce family) :=
  ⟨[], [], [], by simp, by simp, by simp⟩

theorem gauge (value : String) : Block family (Exposition.gauge family value) :=
  alone [()] (fun _ => []) fun _ => value

/-- Lines about other families may follow a block. -/
theorem before
    (block : Block family all)
    {later : List Line}
    (apart : ∀ line ∈ later, line.family ≠ family) :
    Block family (all ++ later) := by
  obtain ⟨front, samples, back, rfl, areSamples, others⟩ := block
  refine
    ⟨front, samples, back ++ later, by rw [List.append_assoc _ back],
      areSamples, ?_⟩
  rw [← List.append_assoc, List.forall_mem_append]
  exact ⟨others, apart⟩

/-- Lines about other families may precede a block. -/
theorem behind
    (block : Block family all)
    {earlier : List Line}
    (apart : ∀ line ∈ earlier, line.family ≠ family) :
    Block family (earlier ++ all) := by
  obtain ⟨front, samples, back, rfl, areSamples, others⟩ := block
  refine
    ⟨earlier ++ front, samples, back, by simp only [List.append_assoc],
      areSamples, ?_⟩
  rw [List.append_assoc, List.forall_mem_append]
  exact ⟨apart, others⟩

end Block

section

variable (report : ActivityReport) (header : Header)

/-! ## The families of the sections -/

/-- The lines that announce a family are about it. -/
theorem family_of_mem_announce
    {family : Family}
    {line : Line}
    (member : line ∈ announce family) :
    line.family = family := by
  simp only [announce, List.mem_cons, List.not_mem_nil, or_false] at member
  rcases member with rfl | rfl
  · rfl
  · rfl

/-- A family with its samples is only about itself. -/
theorem family_of_mem_samples
    {α : Type}
    {family : Family}
    {entries : List α}
    {labels : α → List Label}
    {value : α → String}
    {line : Line}
    (member :
      line ∈ announce family ++
        entries.map fun entry => .sample family (labels entry) (value entry)) :
    line.family = family := by
  rcases List.mem_append.mp member with announced | isSample
  · exact family_of_mem_announce announced
  · obtain ⟨entry, _, rfl⟩ := List.mem_map.mp isSample
    rfl

/-- The lines about devices are of the two families about devices. -/
theorem family_of_mem_deviceLines :
    ∀ line ∈ deviceLines report,
      line.family ∈ deviceFamilies := by
  intro line member
  rw [deviceLines, List.append_assoc, List.mem_append] at member
  rcases member with inFirst | inSecond
  · simp [deviceFamilies, family_of_mem_samples inFirst]
  · simp [deviceFamilies, family_of_mem_samples inSecond]

/-- The lines about data items are of the two families about data items. -/
theorem family_of_mem_itemLines :
    ∀ line ∈ itemLines report, line.family ∈ itemFamilies := by
  intro line member
  simp only [itemLines, itemSamples, List.mem_append, List.mem_flatMap,
    List.mem_cons, List.not_mem_nil, or_false] at member
  rcases member with (announced | announced) | ⟨device, _, item, _, rfl | rfl⟩
  · simp [itemFamilies, family_of_mem_announce announced]
  · simp [itemFamilies, family_of_mem_announce announced]
  · simp [itemFamilies, Line.family]
  · simp [itemFamilies, Line.family]

/-- The lines about asset types are of the two families about asset types. -/
theorem family_of_mem_assetLines :
    ∀ line ∈ assetLines report, line.family ∈ assetFamilies := by
  intro line member
  simp only [assetLines, assetSamples, List.mem_append, List.mem_flatMap,
    List.mem_cons, List.not_mem_nil, or_false] at member
  rcases member with (announced | announced) | ⟨kind, _, rfl | rfl⟩
  · simp [assetFamilies, family_of_mem_announce announced]
  · simp [assetFamilies, family_of_mem_announce announced]
  · simp [assetFamilies, Line.family]
  · simp [assetFamilies, Line.family]

/-- A gauge is only about its family. -/
theorem family_of_mem_gauge
    {family : Family}
    {value : String}
    {line : Line}
    (member : line ∈ gauge family value) :
    line.family = family := by
  rcases List.mem_append.mp member with announced | isSample
  · exact family_of_mem_announce announced
  · rw [List.mem_singleton.mp isSample, Line.family]

/-- The lines about the agent are of the six families about the agent. -/
theorem family_of_mem_agentLines :
    ∀ line ∈ agentLines report header,
      line.family ∈ agentFamilies := by
  intro line member
  simp only [agentLines, List.mem_append] at member
  rcases member with ((((inFirst | inSecond) | inThird) | inFourth) | inFifth) | inLast
  · simp [agentFamilies, family_of_mem_gauge inFirst]
  · simp [agentFamilies, family_of_mem_gauge inSecond]
  · simp [agentFamilies, family_of_mem_gauge inThird]
  · simp [agentFamilies, family_of_mem_gauge inFourth]
  · simp [agentFamilies, family_of_mem_gauge inFifth]
  · simp [agentFamilies, family_of_mem_gauge inLast]

/-! ## Blocks of an exposition -/

/-- Each family about devices is one block among the lines about devices. -/
theorem block_deviceLines :
    ∀ family ∈ deviceFamilies,
      Block family (deviceLines report) := by
  intro family member
  rw [deviceFamilies, List.mem_cons, List.mem_singleton] at member
  rw [deviceLines, List.append_assoc]
  rcases member with rfl | rfl
  · refine Block.before (.alone _ _ _) fun line inSecond => ?_
    rw [family_of_mem_samples inSecond]
    decide
  · refine Block.behind (.alone _ _ _) fun line inFirst => ?_
    rw [family_of_mem_samples inFirst]
    decide

/-- Families that are announced together have blocks if no sample follows. -/
theorem block_of_announcements
    {first second : Family}
    (differ : first ≠ second) :
    ∀ family ∈ [first, second],
      Block family (announce first ++ announce second) := by
  intro family member
  rw [List.mem_cons, List.mem_singleton] at member
  rcases member with rfl | rfl
  · refine Block.announced.before fun line announced => ?_
    rw [family_of_mem_announce announced]
    exact Ne.symm differ
  · refine Block.announced.behind fun line announced => ?_
    rw [family_of_mem_announce announced]
    exact differ

/-- Without data items, each family about them is one block, of no samples. -/
theorem block_itemLines (noItem : ¬ ListsItem report) :
    ∀ family ∈ itemFamilies,
      Block family (itemLines report) := by
  have noSamples :
      (report.devices.toList.flatMap fun device =>
        device.2.items.toList.flatMap fun item =>
          itemSamples device.1 item.1 item.2) = [] := by
    simp only [List.flatMap_eq_nil_iff]
    intro device listed item itemListed
    exact absurd
      ⟨_, _, _, _, SortedMap.find?_eq_some_iff.mpr listed,
        SortedMap.find?_eq_some_iff.mpr itemListed⟩ noItem
  rw [itemLines, noSamples, List.append_nil]
  exact block_of_announcements (by decide)

/-- Without asset types, each family about them is one block, of no samples. -/
theorem block_assetLines (noAsset : ¬ ListsAsset report) :
    ∀ family ∈ assetFamilies,
      Block family (assetLines report) := by
  have noSamples :
      (report.assets.toList.flatMap fun kind => assetSamples kind.1 kind.2) =
        [] := by
    simp only [List.flatMap_eq_nil_iff]
    intro kind listed
    exact absurd ⟨_, _, SortedMap.find?_eq_some_iff.mpr listed⟩ noAsset
  rw [assetLines, noSamples, List.append_nil]
  exact block_of_announcements (by decide)

/-- Gauges of different families are blocks one after the other. -/
theorem block_gauges
    {gauges : List (Family × String)}
    (distinct : (gauges.map Prod.fst).Nodup) :
    ∀ family ∈ gauges.map Prod.fst,
      Block family (gauges.flatMap fun one => gauge one.1 one.2) := by
  induction gauges with
  | nil => simp
  | cons one others inductionHypothesis =>
      rw [List.map_cons, List.nodup_cons] at distinct
      rw [List.map_cons, List.forall_mem_cons, List.flatMap_cons]
      constructor
      · refine (Block.gauge one.2).before fun line inOthers => ?_
        obtain ⟨other, member, inGauge⟩ := List.mem_flatMap.mp inOthers
        rw [family_of_mem_gauge inGauge]
        intro same
        exact distinct.1 (same ▸ List.mem_map_of_mem member)
      · intro family member
        refine (inductionHypothesis distinct.2 family member).behind ?_
        intro line inGauge same
        rw [family_of_mem_gauge inGauge] at same
        exact distinct.1 (same ▸ member)

/-- The gauges about the agent itself and their values. -/
def agentGauges : List (Family × String) :=
  [(bufferSize, toString header.bufferSize),
    (firstSequence, toString header.firstSequence),
    (nextSequence, toString header.nextSequence),
    (assetCount, toString header.assetCount),
    (instanceId, toString header.instanceId),
    (reportTime, timeText report.timestamp)]

/-- Each family about the agent is one block among the lines about the agent. -/
theorem block_agentLines :
    ∀ family ∈ agentFamilies, Block family (agentLines report header) := by
  have gauges :
      agentLines report header =
        (agentGauges report header).flatMap fun one => gauge one.1 one.2 := by
    simp [agentLines, agentGauges, List.append_assoc]
  have distinct : ((agentGauges report header).map Prod.fst).Nodup := by
    have familiesDistinct : agentFamilies.Nodup := by
      decide +kernel
    exact familiesDistinct
  rw [gauges]
  exact block_gauges distinct

variable {report header}

/-- Lines about some families are not about one of others. -/
theorem apart
    {mine others : List Family}
    {all : List Line}
    (within : ∀ line ∈ all, line.family ∈ others)
    (disjoint : ∀ family ∈ mine, family ∉ others)
    {family : Family}
    (member : family ∈ mine) :
    ∀ line ∈ all, line.family ≠ family := by
  rintro line inAll rfl
  exact disjoint line.family member (within line inAll)

/-- Every family is one block, except two about items or assets that are listed. -/
theorem block_lines
    {family : Family}
    (known : family ∈ families)
    (noItem : family ∈ itemFamilies → ¬ ListsItem report)
    (noAsset : family ∈ assetFamilies → ¬ ListsAsset report) :
    Block family (lines report header) := by
  have devices := family_of_mem_deviceLines report
  have items := family_of_mem_itemLines report
  have assets := family_of_mem_assetLines report
  have agent := family_of_mem_agentLines report header
  have sections :
      family ∈ deviceFamilies ++ itemFamilies ++ assetFamilies ++ agentFamilies :=
    known
  simp only [List.mem_append] at sections
  rw [lines]
  rcases sections with ((ofDevice | ofItem) | ofAsset) | ofAgent
  · have block := block_deviceLines report family ofDevice
    exact
      ((block.before (apart items (by decide) ofDevice)).before
        (apart assets (by decide) ofDevice)).before
          (apart agent (by decide) ofDevice)
  · have block := block_itemLines report (noItem ofItem) family ofItem
    exact
      ((block.behind (apart devices (by decide) ofItem)).before
        (apart assets (by decide) ofItem)).before
          (apart agent (by decide) ofItem)
  · have block := block_assetLines report (noAsset ofAsset) family ofAsset
    have inFront :
        ∀ line ∈ deviceLines report ++ itemLines report,
          line.family ≠ family :=
      List.forall_mem_append.mpr
        ⟨apart devices (by decide) ofAsset, apart items (by decide) ofAsset⟩
    exact (block.behind inFront).before (apart agent (by decide) ofAsset)
  · have block := block_agentLines report header family ofAgent
    have inFront :
        ∀ line ∈ deviceLines report ++ itemLines report ++ assetLines report,
          line.family ≠ family := by
      rw [List.forall_mem_append, List.forall_mem_append]
      exact
        ⟨⟨apart devices (by decide) ofAgent, apart items (by decide) ofAgent⟩,
          apart assets (by decide) ofAgent⟩
    exact block.behind inFront

/-- Every line of an exposition is about one of the twelve families. -/
theorem family_of_mem_lines : ∀ line ∈ lines report header, line.family ∈ families := by
  have sections :
      families =
        deviceFamilies ++ itemFamilies ++ assetFamilies ++ agentFamilies :=
    rfl
  intro line member
  rw [sections]
  simp only [lines, List.mem_append] at member ⊢
  rcases member with ((inDevices | inItems) | inAssets) | inAgent
  · exact .inl (.inl (.inl (family_of_mem_deviceLines report line inDevices)))
  · exact .inl (.inl (.inr (family_of_mem_itemLines report line inItems)))
  · exact .inl (.inr (family_of_mem_assetLines report line inAssets))
  · exact .inr (family_of_mem_agentLines report header line inAgent)

/-! ## Blocks of what is said -/

theorem eq_of_name_eq :
    ∀ family ∈ families, ∀ other ∈ families,
      family.name = other.name → family = other := by
  decide +kernel

theorem name_statement_under (lead : String) (line : Line) :
    (line.under lead).statement.name = lead ++ line.family.name := by
  cases line with
  | help | kind | sample => rfl

/-- Under one lead different families have different names. -/
theorem under_name_ne
    {lead : String}
    {family other : Family}
    (known : family ∈ families)
    (otherKnown : other ∈ families)
    (differ : other ≠ family) :
    lead ++ other.name ≠ lead ++ family.name := by
  intro same
  have lists := congrArg String.toList same
  rw [String.toList_append, String.toList_append,
    List.append_cancel_left_eq] at lists
  exact
    differ (eq_of_name_eq other otherKnown family known (String.toList_inj.mp lists))

/-- What is said about the name of a family is one block if the lines about the family are. -/
theorem oneBlock_of_block
    (lead : String)
    {family : Family}
    (known : family ∈ families)
    {all : List Line}
    (allKnown : ∀ line ∈ all, line.family ∈ families)
    (block : Block family all) :
    OneBlock (lead ++ family.name)
      (all.map fun line => (line.under lead).statement) := by
  obtain ⟨front, samples, back, rfl, areSamples, others⟩ := block
  refine
    ⟨front.map fun line => (line.under lead).statement, family.help, family.kind,
      samples.map fun line => (line.under lead).statement,
      back.map fun line => (line.under lead).statement, ?_, ?_, ?_⟩
  · simp [announce, Line.under, Line.statement, Family.under]
  · intro statement member
    obtain ⟨line, inSamples, rfl⟩ := List.mem_map.mp member
    obtain ⟨labels, value, rfl⟩ := areSamples line inSamples
    exact ⟨labels, value, rfl⟩
  · rw [← List.map_append]
    intro statement member
    obtain ⟨line, outside, rfl⟩ := List.mem_map.mp member
    rw [name_statement_under]
    refine under_name_ne known (allKnown line ?_) (others line outside)
    rcases List.mem_append.mp outside with inFront | inBack
    · exact List.mem_append_left _ (List.mem_append_left _ inFront)
    · exact List.mem_append_right _ inBack

/-- A block is not interrupted by a statement about another name. -/
theorem OneBlock.not_interrupted
    {name : String}
    {statements : List Statement}
    (block : OneBlock name statements)
    {first between last : Statement}
    (ordered : [first, between, last].Sublist statements)
    (firstAbout : first.name = name)
    (lastAbout : last.name = name) :
    between.name = name := by
  obtain ⟨front, help, kind, samples, back, rfl, areSamples, others⟩ := block
  rw [List.forall_mem_append] at others
  obtain ⟨notFront, notBack⟩ := others
  rw [List.append_assoc] at ordered
  obtain ⟨early, late, split, inFront, inRest⟩ :=
    List.sublist_append_iff.mp ordered
  -- The first statement is not in front of the block, and the last is not behind it.
  cases early with
  | cons head tail =>
      rw [List.cons_append] at split
      obtain ⟨rfl, _⟩ := List.cons.inj split
      exact absurd firstAbout (notFront _ (inFront.subset List.mem_cons_self))
  | nil =>
      rw [List.nil_append] at split
      subst split
      obtain ⟨inner, outer, split, inBlock, inBack⟩ :=
        List.sublist_append_iff.mp inRest
      have outside : outer = [] := by
        by_contra nonempty
        have isLast : outer.getLast? = some last := by
          rw [← List.getLast?_append_of_ne_nil inner nonempty, ← split]
          rfl
        exact
          notBack last (inBack.subset (List.mem_of_getLast? isLast)) lastAbout
      rw [outside, List.append_nil] at split
      have member : between ∈ .help name help :: .kind name kind :: samples :=
        inBlock.subset (split ▸ by simp)
      rw [List.mem_cons, List.mem_cons] at member
      rcases member with rfl | rfl | inSamples
      · rfl
      · rfl
      · obtain ⟨labels, value, rfl⟩ := areSamples between inSamples
        rfl

/-- A family is not one block if a line about another stands between two of its own. -/
theorem not_oneBlock_of_between
    (lead : String)
    {first between last : Line}
    (ordered : [first, between, last].Sublist (lines report header))
    (same : last.family = first.family)
    (other : between.family ≠ first.family) :
    ¬ OneBlock (lead ++ first.family.name)
      ((lines report header).map fun line => (line.under lead).statement) := by
  intro block
  have known (line : Line) (member : line ∈ [first, between, last]) :
      line.family ∈ families :=
    family_of_mem_lines line (ordered.subset member)
  have lastName :
      (last.under lead).statement.name = lead ++ first.family.name := by
    rw [name_statement_under, same]
  have betweenName :=
    block.not_interrupted (ordered.map _) (name_statement_under lead first)
      lastName
  rw [name_statement_under] at betweenName
  exact
    under_name_ne (known first (by simp)) (known between (by simp)) other
      betweenName

/-- Neither of two families that are announced together is one block if both have a sample. -/
theorem not_oneBlock_of_paired
    (lead : String)
    {first second : Family}
    (differ : first ≠ second)
    {labels : List Label}
    {firstValue secondValue : String}
    (written :
      (announce first ++ announce second ++
          [Line.sample first labels firstValue,
            Line.sample second labels secondValue]).Sublist
        (lines report header)) :
    ∀ family ∈ [first, second],
      ¬ OneBlock (lead ++ family.name)
        ((lines report header).map fun line =>
          (line.under lead).statement) := by
  intro family member
  rw [List.mem_cons, List.mem_singleton] at member
  rcases member with rfl | rfl
  · have ordered :
        [.help family, .help second, .sample family labels firstValue].Sublist
          (lines report header) :=
      .trans
        (.cons_cons _ (.cons _ (.cons_cons _ (.cons _ (.cons_cons _
          (.cons _ .slnil))))))
        written
    exact not_oneBlock_of_between lead ordered rfl (Ne.symm differ)
  · have ordered :
        [.help family, .sample first labels firstValue,
            .sample family labels secondValue].Sublist
          (lines report header) :=
      .trans
        (.cons _ (.cons _ (.cons_cons _ (.cons _ (.cons_cons _
          (.cons_cons _ .slnil))))))
        written
    exact not_oneBlock_of_between lead ordered rfl differ

/-- What is written for one entry is in order within what is written for all. -/
theorem sublist_flatMap_of_mem
    {α β : Type}
    {entries : List α}
    {entry : α}
    (member : entry ∈ entries)
    (write : α → List β) :
    (write entry).Sublist (entries.flatMap write) := by
  rw [List.flatMap_def]
  exact List.sublist_flatten_of_mem (List.mem_map_of_mem member)

/-- With a data item, count and rate alternate, so that neither family is one block. -/
theorem not_oneBlock_of_listsItem
    (lead : String)
    (listsItem : ListsItem report) :
    ∀ family ∈ itemFamilies,
      ¬ OneBlock (lead ++ family.name)
        ((lines report header).map fun line =>
          (line.under lead).statement) := by
  obtain ⟨device, rates, item, rate, found, itemFound⟩ := listsItem
  have listed := SortedMap.find?_eq_some_iff.mp found
  have itemListed := SortedMap.find?_eq_some_iff.mp itemFound
  have samples :=
    (sublist_flatMap_of_mem itemListed fun one =>
      itemSamples device one.1 one.2).trans
      (sublist_flatMap_of_mem listed fun one =>
        one.2.items.toList.flatMap fun item =>
          itemSamples one.1 item.1 item.2)
  have inLines : (itemLines report).Sublist (lines report header) :=
    ((List.sublist_append_right _ _).trans
      (List.sublist_append_left _ _)).trans (List.sublist_append_left _ _)
  exact
    not_oneBlock_of_paired lead (by decide)
      (((List.Sublist.refl _).append samples).trans inLines)

/-- With an asset type, count and rate alternate, so that neither family is one block. -/
theorem not_oneBlock_of_listsAsset
    (lead : String)
    (listsAsset : ListsAsset report) :
    ∀ family ∈ assetFamilies,
      ¬ OneBlock (lead ++ family.name)
        ((lines report header).map fun line =>
          (line.under lead).statement) := by
  obtain ⟨kind, rate, found⟩ := listsAsset
  have samples :=
    sublist_flatMap_of_mem (SortedMap.find?_eq_some_iff.mp found) fun one =>
      assetSamples one.1 one.2
  have inLines : (assetLines report).Sublist (lines report header) :=
    (List.sublist_append_right _ _).trans (List.sublist_append_left _ _)
  exact
    not_oneBlock_of_paired lead (by decide)
      (((List.Sublist.refl _).append samples).trans inLines)

/-- Exactly the families about data items and asset types that are listed are not one block. -/
theorem oneBlock_said_iff
    {lead? : Option String}
    {family : Family}
    (known : family ∈ families) :
    OneBlock (leadText lead? ++ family.name) (said lead? report header) ↔
      (family ∈ itemFamilies → ¬ ListsItem report) ∧
        (family ∈ assetFamilies → ¬ ListsAsset report) := by
  constructor
  · intro block
    constructor
    · intro ofItem listsItem
      exact not_oneBlock_of_listsItem _ listsItem family ofItem block
    · intro ofAsset listsAsset
      exact not_oneBlock_of_listsAsset _ listsAsset family ofAsset block
  · rintro ⟨noItem, noAsset⟩
    exact
      oneBlock_of_block _ known family_of_mem_lines
        (block_lines known noItem noAsset)

/-- Every family is announced, whatever a report lists. -/
theorem help_mem_lines
    {family : Family}
    (paired : family ∈ itemFamilies ++ assetFamilies) :
    Line.help family ∈ lines report header := by
  simp only [itemFamilies, assetFamilies, List.cons_append, List.nil_append,
    List.mem_cons, List.not_mem_nil, or_false] at paired
  rcases paired with rfl | rfl | rfl | rfl
  · simp [lines, itemLines, announce]
  · simp [lines, itemLines, announce]
  · simp [lines, assetLines, announce]
  · simp [lines, assetLines, announce]

end

/--
Whatever the lead of the names, every family of an exposition is one block
except those about data items and about asset types, and each of these is one
exactly if nothing is listed that it has samples of. Where the lead is legible
this is what a collector reads.
-/
theorem families_in_blocks_iff
    (lead? : Option String)
    (report : ActivityReport)
    (header : Header) :
    (LegibleLead (leadText lead?) →
      readText? (text lead? report header) =
        some (said lead? report header)) ∧
    (∀ family ∈ families,
      OneBlock (leadText lead? ++ family.name) (said lead? report header) ↔
        (family ∈ itemFamilies → ¬ ListsItem report) ∧
          (family ∈ assetFamilies → ¬ ListsAsset report)) ∧
    ((∀ statement ∈ said lead? report header,
        OneBlock statement.name (said lead? report header)) ↔
      ¬ ListsItem report ∧ ¬ ListsAsset report) := by
  refine
    ⟨fun legible => readText?_said legible report header,
      fun family => oneBlock_said_iff, ?_⟩
  constructor
  · intro allBlocks
    have announced
        {family : Family}
        (paired : family ∈ itemFamilies ++ assetFamilies) :
        OneBlock (leadText lead? ++ family.name) (said lead? report header) :=
      allBlocks _ (List.mem_map_of_mem (help_mem_lines paired))
    constructor
    · intro listsItem
      exact
        not_oneBlock_of_listsItem _ listsItem itemRate (by decide)
          (announced (by decide))
    · intro listsAsset
      exact
        not_oneBlock_of_listsAsset _ listsAsset assetRate (by decide)
          (announced (by decide))
  · rintro ⟨noItem, noAsset⟩ statement member
    obtain ⟨line, inLines, rfl⟩ := List.mem_map.mp member
    rw [name_statement_under]
    exact
      (oneBlock_said_iff (family_of_mem_lines line inLines)).mpr
        ⟨fun _ => noItem, fun _ => noAsset⟩

/-- A report of one device with one data item, each of which was observed once. -/
def latheReport : ActivityReport where
  devices :=
    .singleton "lathe"
      { total := ⟨1, 0.0⟩, items := .singleton "x" ⟨1, 0.0⟩ }

/-- The header of an agent with this report. -/
def latheHeader : Header where
  instanceId := 1
  version := .current
  created := ⟨0⟩
  bufferSize := 8
  firstSequence := 1
  lastSequence := 1
  nextSequence := 2
  assetBufferSize := 8
  assetCount := 0

/-- The samples of its one data item stand behind the announcement of the other family. -/
theorem lathe_items_interleaved :
    ∃ statements,
      readText? (text none latheReport latheHeader) = some statements ∧
        .sample "mtconnect_data_item_observations_total"
            [⟨"device", "lathe"⟩, ⟨"data_item", "x"⟩] "1" ∈ statements ∧
        ¬ OneBlock "mtconnect_data_item_observations_total" statements := by
  have found :
      latheReport.devices.find? "lathe" =
        some { total := ⟨1, 0.0⟩, items := .singleton "x" ⟨1, 0.0⟩ } :=
    rfl
  have itemFound :
      (SortedMap.singleton "x" (Rate.mk 1 0.0)).find? "x" = some ⟨1, 0.0⟩ :=
    rfl
  refine ⟨said none _ _, readText?_said (.inl rfl) _ _, ?_, ?_⟩
  · have stated : Stated latheReport latheHeader _ _ _ :=
      .itemCount found itemFound
    obtain ⟨family, inLines, nameEq⟩ := exists_mem_lines stated
    refine List.mem_map.mpr ⟨_, inLines, ?_⟩
    simp only [Line.under, Line.statement, Family.under, leadText,
      String.empty_append, nameEq]
    rfl
  · exact
      not_oneBlock_of_listsItem "" ⟨_, _, _, _, found, itemFound⟩
        itemObservations (by decide)

end MTConnect.Exposition
