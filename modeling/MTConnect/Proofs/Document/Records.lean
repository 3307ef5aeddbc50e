import MTConnect.Document.Wire
import MTConnect.Proofs.Json.RoundTrip
import MTConnect.Proofs.SortedMap

namespace MTConnect

/-!
# Records that are read back

The JSON of a record holds all that the record says, whatever its texts are and
whichever of its optional texts are there, as long as its numbers are words.
-/

namespace Json

/-- A value that a text of this depth can hold, and from which a record is read. -/
structure Holds
    {α : Type}
    (read? : Json → Option α)
    (depth : Nat)
    (value : Json)
    (record : α) :
    Prop where
  fits : Fits depth value
  read : read? value = some record

section

variable {α : Type} {read? : Json → Option α} {depth : Nat}

/-- A text fits into every depth. -/
theorem fits_string (text : String) : Fits depth (.string text) := by
  cases depth <;> trivial

/-- A truth value fits into every depth. -/
theorem fits_bool (truth : Bool) : Fits depth (.bool truth) := by
  cases depth <;> trivial

/-- A number that is a word fits into every depth. -/
theorem fits_natural
    {number : Nat}
    (fits : number ≤ Word.top) :
    Fits depth (.natural number) := by
  have atMost : (number : Int) ≤ (Word.top : Int) := Int.ofNat_le.mpr fits
  have atLeast : -(Word.signedTop : Int) - 1 ≤ (number : Int) := by omega
  cases depth <;> exact ⟨atLeast, atMost⟩

/-- An object fits one level above its members. -/
theorem fits_object
    {members : List (String × Json)}
    (fits : ∀ member ∈ members, Fits depth member.2) :
    Fits (depth + 1) (.object members) :=
  fits

/-- A number that is a word is read back as it is. -/
theorem word?_natural
    {number : Nat}
    (fits : number ≤ Word.top) :
    (natural number).word? = some number := by
  have atMost : (number : Int) ≤ (Word.top : Int) := Int.ofNat_le.mpr fits
  simp [natural, word?, atMost]

/-- A half word is a word. -/
theorem le_top_of_halfWord
    {number : Nat}
    (fits : number < 0x100000000) :
    number ≤ Word.top := by
  unfold Word.top
  omega

/-- A number that is a half word is read back as it is. -/
theorem halfWord?_natural
    {number : Nat}
    (fits : number < 0x100000000) :
    (natural number).halfWord? = some number := by
  simp [halfWord?, word?_natural (le_top_of_halfWord fits), fits]

/-- Items that are read back make an array that is read back. -/
theorem holds_list
    {write : α → Json}
    (records : List α)
    (holds : ∀ record ∈ records, Holds read? depth (write record) record) :
    Holds (list? read?) (depth + 1) (.array (records.map write)) records where
  fits := by
    intro item member
    obtain ⟨record, inRecords, rfl⟩ := List.mem_map.mp member
    exact (holds record inRecords).fits
  read := by
    simp only [list?, List.mapM_map]
    induction records with
    | nil => rfl
    | cons record rest inductionHypothesis =>
        have readRest :=
          inductionHypothesis fun other member =>
            holds other (List.mem_cons_of_mem record member)
        simp [List.mapM_cons, (holds record List.mem_cons_self).read, readRest]

end

end Json

open Json

section

variable (depth : Nat)

/-- A category is read back by its name. -/
theorem Category.holds_toJson (category : Category) :
    Holds ofJson? depth category.toJson category :=
  ⟨fits_string category.name, ofName?_name category⟩

/-- An error code is read back by its name. -/
theorem ErrorCode.holds_name (code : ErrorCode) :
    Holds ofJson? depth (.string code.name) code :=
  ⟨fits_string code.name, ofName?_name code⟩

/-- A time is read back if its milliseconds are a word. -/
theorem Timestamp.holds_toJson
    {time : Timestamp}
    (fits : time.millis ≤ Word.top) :
    Holds ofJson? depth time.toJson time :=
  ⟨fits_natural fits, by simp [toJson, ofJson?, word?_natural fits]⟩

/-- The values of an observation are read back, whatever their names and texts are. -/
theorem Values.holds_toJson (values : Values) :
    Holds Values.ofJson? (depth + 1) (Values.toJson values) values where
  fits := by
    refine fits_object fun member inMembers => ?_
    obtain ⟨entry, _, rfl⟩ := List.mem_map.mp inMembers
    exact fits_string entry.2
  read := by
    have members (entries : List (String × String)) :
        ((entries.map fun entry => (entry.1, Json.string entry.2)).mapM
            fun member =>
              (text? member.2).map fun value => (member.1, value)) =
          some entries := by
      induction entries with
      | nil => rfl
      | cons entry rest inductionHypothesis =>
          simp only [List.map_cons, List.mapM_cons, inductionHypothesis]
          rfl
    simp [Values.ofJson?, Values.toJson, map?, members,
      SortedMap.ofList_toList]

/-- The numbers of a schema version are half words. -/
structure SchemaVersion.FitsWords (version : SchemaVersion) : Prop where
  major : version.major < 0x100000000
  minor : version.minor < 0x100000000

/-- A schema version is read back. -/
theorem SchemaVersion.holds_toJson
    {version : SchemaVersion}
    (fits : version.FitsWords) :
    Holds ofJson? (depth + 1) version.toJson version where
  fits := by
    refine fits_object ?_
    simp [fits_natural (le_top_of_halfWord fits.major),
      fits_natural (le_top_of_halfWord fits.minor)]
  read := by
    simp [ofJson?, toJson, fields?, lastMember?, required?,
      halfWord?_natural fits.major, halfWord?_natural fits.minor]

/-- The numbers of a header are words. -/
structure Header.FitsWords (header : Header) : Prop where
  instanceId : header.instanceId ≤ Word.top
  version : header.version.FitsWords
  created : header.created.millis ≤ Word.top
  bufferSize : header.bufferSize ≤ Word.top
  firstSequence : header.firstSequence ≤ Word.top
  lastSequence : header.lastSequence ≤ Word.top
  nextSequence : header.nextSequence ≤ Word.top
  assetBufferSize : header.assetBufferSize ≤ Word.top
  assetCount : header.assetCount ≤ Word.top

/-- A header is read back, each of its nine members by its name. -/
theorem Header.holds_toJson
    {header : Header}
    (fits : header.FitsWords) :
    Holds ofJson? (depth + 2) header.toJson header := by
  have version := SchemaVersion.holds_toJson depth fits.version
  have created :=
    Timestamp.holds_toJson (depth + 1) fits.created
  refine ⟨fits_object ?_, ?_⟩
  · simp [version.fits, created.fits, fits_natural fits.instanceId,
      fits_natural fits.bufferSize, fits_natural fits.firstSequence,
      fits_natural fits.lastSequence, fits_natural fits.nextSequence,
      fits_natural fits.assetBufferSize, fits_natural fits.assetCount]
  · simp [ofJson?, toJson, fieldNames, fields?, lastMember?, required?,
      version.read, created.read, word?_natural fits.instanceId,
      word?_natural fits.bufferSize, word?_natural fits.firstSequence,
      word?_natural fits.lastSequence, word?_natural fits.nextSequence,
      word?_natural fits.assetBufferSize, word?_natural fits.assetCount]

/-- A data item is read back, with those of its optional texts that are there. -/
theorem DataItem.holds_toJson (item : DataItem) :
    Holds ofJson? (depth + 1) item.toJson item := by
  have category := Category.holds_toJson depth item.category
  obtain ⟨id, name, kindOf, kind, subType, units⟩ := item
  cases name <;> cases subType <;> cases units <;>
    refine ⟨fits_object ?_, ?_⟩ <;>
    simp [ofJson?, toJson, fieldNames, fields?, lastMember?, required?,
      optional?, nullable?, optionalText, text?, fits_string,
      category.fits, category.read]

/-- A device is read back with all its data items. -/
theorem Device.holds_toJson (device : Device) :
    Holds ofJson? (depth + 3) device.toJson device := by
  have items :=
    holds_list device.dataItems fun item _ =>
      DataItem.holds_toJson depth item
  refine ⟨fits_object ?_, ?_⟩
  · simp [fits_string, items.fits]
  · simp [ofJson?, toJson, fieldNames, fields?, lastMember?, required?,
      defaulted?, text?, items.read]

/-- The numbers of an observation are words. -/
structure Observation.FitsWords (observation : Observation) : Prop where
  sequence : observation.sequence ≤ Word.top
  timestamp : observation.timestamp.millis ≤ Word.top

/-- An observation is read back. -/
theorem Observation.holds_toJson
    {observation : Observation}
    (fits : observation.FitsWords) :
    Holds ofJson? (depth + 2) observation.toJson observation := by
  have category :=
    Category.holds_toJson (depth + 1) observation.category
  have timestamp :=
    Timestamp.holds_toJson (depth + 1) fits.timestamp
  have values := Values.holds_toJson depth observation.values
  refine ⟨fits_object ?_, ?_⟩
  · simp [fits_string, category.fits, timestamp.fits, values.fits,
      fits_natural fits.sequence]
  · simp [ofJson?, toJson, fieldNames, fields?, lastMember?, required?, text?,
      category.read, timestamp.read, values.read, word?_natural fits.sequence]

/-- An asset is read back, whether or not it is a tombstone. -/
theorem Asset.holds_toJson
    {asset : Asset}
    (fits : asset.timestamp.millis ≤ Word.top) :
    Holds ofJson? (depth + 1) asset.toJson asset := by
  have timestamp := Timestamp.holds_toJson depth fits
  refine ⟨fits_object ?_, ?_⟩
  · simp [fits_string, fits_bool, timestamp.fits]
  · simp [ofJson?, toJson, fieldNames, fields?, lastMember?, required?, text?,
      truth?, timestamp.read]

/-- An entry of an error document is read back. -/
theorem ErrorEntry.holds_toJson (entry : ErrorEntry) :
    Holds ofJson? (depth + 1) entry.toJson entry := by
  have code := ErrorCode.holds_name depth entry.code
  refine ⟨fits_object ?_, ?_⟩
  · simp [fits_string]
  · simp [ofJson?, toJson, fields?, lastMember?, required?, text?, code.read]

end

end MTConnect
