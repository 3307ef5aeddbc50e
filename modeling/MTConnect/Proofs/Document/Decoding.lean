import MTConnect.Proofs.Document.Records
import MTConnect.Stream.Multipart

namespace MTConnect

/-!
# Documents that decode to themselves

A client that decodes the body of an answer as the kind of document that it
asked for has the document that the agent answered with, and nothing of it is
lost or changed on the way. The body of a heartbeat decodes as a sample without
observations.
-/

/-- Decode a body as a record. -/
def Json.decode?
    {α : Type}
    (read? : Json → Option α)
    (body : String) :
    Option α :=
  (parse? body).bind read?

open Json

/-- A value that holds a record within the depth limit is decoded as that record. -/
theorem Json.Holds.decode
    {α : Type}
    {read? : Json → Option α}
    {value : Json}
    {record : α}
    (holds : Holds read? depthLimit value record) :
    decode? read? value.render = some record := by
  rw [decode?, parse?_render holds.fits]
  exact holds.read

/-- All numbers of a document of current values are words. -/
structure CurrentDocument.FitsWords (document : CurrentDocument) : Prop where
  header : document.header.FitsWords
  observations : ∀ observation ∈ document.observations, observation.FitsWords

/-- All numbers of a document of a range are words. -/
structure SampleDocument.FitsWords (document : SampleDocument) : Prop where
  header : document.header.FitsWords
  endSequence : document.endSequence ≤ Word.top
  observations : ∀ observation ∈ document.observations, observation.FitsWords

/-- All numbers of a document of assets are words. -/
structure AssetDocument.FitsWords (document : AssetDocument) : Prop where
  header : document.header.FitsWords
  assets : ∀ asset ∈ document.assets, asset.timestamp.millis ≤ Word.top

section

variable (depth : Nat)

/-- A probe document is read back with its devices. -/
theorem ProbeDocument.holds_toJson
    {document : ProbeDocument}
    (fits : document.header.FitsWords) :
    Holds ofJson? (depth + 5) document.toJson document := by
  have header := Header.holds_toJson (depth + 2) fits
  have devices :=
    holds_list document.devices fun device _ =>
      Device.holds_toJson depth device
  refine ⟨fits_object ?_, ?_⟩
  · simp [header.fits, devices.fits]
  · simp [ofJson?, toJson, fields?, lastMember?, required?, header.read,
      devices.read]

/-- A document of current values is read back with its observations. -/
theorem CurrentDocument.holds_toJson
    {document : CurrentDocument}
    (fits : document.FitsWords) :
    Holds ofJson? (depth + 4) document.toJson document := by
  have header := Header.holds_toJson (depth + 1) fits.header
  have observations :=
    holds_list document.observations fun observation member =>
      Observation.holds_toJson depth
        (fits.observations observation member)
  refine ⟨fits_object ?_, ?_⟩
  · simp [header.fits, observations.fits]
  · simp [ofJson?, toJson, fields?, lastMember?, required?, header.read,
      observations.read]

/-- A document of a range is read back with its observations and its end. -/
theorem SampleDocument.holds_toJson
    {document : SampleDocument}
    (fits : document.FitsWords) :
    Holds ofJson? (depth + 4) document.toJson document := by
  have header := Header.holds_toJson (depth + 1) fits.header
  have observations :=
    holds_list document.observations fun observation member =>
      Observation.holds_toJson depth
        (fits.observations observation member)
  refine ⟨fits_object ?_, ?_⟩
  · simp [header.fits, fits_natural fits.endSequence, observations.fits]
  · simp [ofJson?, toJson, fields?, lastMember?, required?, header.read,
      word?_natural fits.endSequence, observations.read]

/-- A document of assets is read back. -/
theorem AssetDocument.holds_toJson
    {document : AssetDocument}
    (fits : document.FitsWords) :
    Holds ofJson? (depth + 3) document.toJson document := by
  have header := Header.holds_toJson depth fits.header
  have assets :=
    holds_list document.assets fun asset member =>
      Asset.holds_toJson depth (fits.assets asset member)
  refine ⟨fits_object ?_, ?_⟩
  · simp [header.fits, assets.fits]
  · simp [ofJson?, toJson, fields?, lastMember?, required?, header.read,
      assets.read]

/-- An error document is read back with its entries. -/
theorem ErrorDocument.holds_toJson
    {document : ErrorDocument}
    (fits : document.header.FitsWords) :
    Holds ofJson? (depth + 3) document.toJson document := by
  have header := Header.holds_toJson depth fits
  have errors :=
    holds_list document.errors fun entry _ =>
      ErrorEntry.holds_toJson depth entry
  refine ⟨fits_object ?_, ?_⟩
  · simp [header.fits, errors.fits]
  · simp [ofJson?, toJson, fields?, lastMember?, required?, header.read,
      errors.read]

end

/-- Every body decodes, as the kind of document that it is, to the document behind it. -/
theorem rendered_documents_decode :
    (∀ document : ProbeDocument,
      document.header.FitsWords →
      decode? ProbeDocument.ofJson? document.toJson.render = some document) ∧
    (∀ document : CurrentDocument,
      document.FitsWords →
      decode? CurrentDocument.ofJson? document.toJson.render = some document) ∧
    (∀ document : SampleDocument,
      document.FitsWords →
      decode? SampleDocument.ofJson? document.toJson.render = some document) ∧
    (∀ document : AssetDocument,
      document.FitsWords →
      decode? AssetDocument.ofJson? document.toJson.render = some document) ∧
    (∀ document : ErrorDocument,
      document.header.FitsWords →
      decode? ErrorDocument.ofJson? document.toJson.render = some document) ∧
    ∀ (header : Header) (endSequence : Nat),
      header.FitsWords →
      endSequence ≤ Word.top →
      decode? SampleDocument.ofJson?
          (Multipart.frameJson (.heartbeat header endSequence)).render =
        some { header := header, endSequence := endSequence, observations := [] } := by
  refine ⟨?_, ?_, ?_, ?_, ?_, ?_⟩
  · intro document fits
    exact (ProbeDocument.holds_toJson _ fits).decode
  · intro document fits
    exact (CurrentDocument.holds_toJson _ fits).decode
  · intro document fits
    exact (SampleDocument.holds_toJson _ fits).decode
  · intro document fits
    exact (AssetDocument.holds_toJson _ fits).decode
  · intro document fits
    exact (ErrorDocument.holds_toJson _ fits).decode
  · intro header endSequence headerFits endFits
    have fits :
        (Multipart.heartbeatDocument header endSequence).FitsWords :=
      ⟨headerFits, endFits, fun _ member => nomatch member⟩
    exact (SampleDocument.holds_toJson _ fits).decode

/-- A header in which every number is the largest of its kind. -/
def Header.widest : Header where
  instanceId := Word.top
  version := ⟨0xFFFFFFFF, 0xFFFFFFFF⟩
  created := ⟨Word.top⟩
  bufferSize := Word.top
  firstSequence := Word.top
  lastSequence := Word.top
  nextSequence := Word.top
  assetBufferSize := Word.top
  assetCount := Word.top

/-- An observation whose texts are made of what a string may not hold as it is. -/
def Observation.awkward : Observation where
  device := "\"\\\n\x00"
  item := "\r\n--mtconnect-boundary--\r\n"
  category := .condition
  sequence := Word.top
  timestamp := ⟨Word.top⟩
  values := .singleton "\x1f\x7f" "😀,\x7d]"

/-- A device of one data item, some of whose optional texts are there. -/
def Device.sparse : Device where
  uuid := ""
  name := "\t/\""
  dataItems :=
    [{ id := "x", category := .sample, kind := "POSITION", subType := some "" }]

/-- A tombstone whose payload is a text of the same format. -/
def Asset.nested : Asset where
  id := "[]"
  kind := ","
  device := ":"
  timestamp := ⟨Word.top⟩
  removed := true
  payload := (Json.array [.null, .string "\""]).render

/-- The widest header still consists of words. -/
theorem Header.fitsWords_widest : Header.widest.FitsWords where
  instanceId := Nat.le_refl _
  version := ⟨by decide, by decide⟩
  created := Nat.le_refl _
  bufferSize := Nat.le_refl _
  firstSequence := Nat.le_refl _
  lastSequence := Nat.le_refl _
  nextSequence := Nat.le_refl _
  assetBufferSize := Nat.le_refl _
  assetCount := Nat.le_refl _

/-- Documents full of the largest numbers and of awkward texts decode to themselves. -/
theorem widest_documents_decode :
    decode? ProbeDocument.ofJson?
        (ProbeDocument.mk .widest [.sparse]).toJson.render =
      some ⟨.widest, [.sparse]⟩ ∧
    decode? CurrentDocument.ofJson?
        (CurrentDocument.mk .widest [.awkward]).toJson.render =
      some ⟨.widest, [.awkward]⟩ ∧
    decode? SampleDocument.ofJson?
        (SampleDocument.mk .widest Word.top [.awkward]).toJson.render =
      some ⟨.widest, Word.top, [.awkward]⟩ ∧
    decode? AssetDocument.ofJson?
        (AssetDocument.mk .widest [.nested]).toJson.render =
      some ⟨.widest, [.nested]⟩ ∧
    decode? ErrorDocument.ofJson?
        (ErrorDocument.single .widest .noDevice "\x00").toJson.render =
      some (.single .widest .noDevice "\x00") ∧
    decode? SampleDocument.ofJson?
        (Multipart.frameJson (.heartbeat .widest Word.top)).render =
      some ⟨.widest, Word.top, []⟩ := by
  have header := Header.fitsWords_widest
  have observations :
      ∀ observation ∈ [Observation.awkward], observation.FitsWords := by
    intro observation member
    rw [List.mem_singleton.mp member]
    exact ⟨Nat.le_refl _, Nat.le_refl _⟩
  have assets :
      ∀ asset ∈ [Asset.nested], asset.timestamp.millis ≤ Word.top := by
    intro asset member
    rw [List.mem_singleton.mp member]
    exact Nat.le_refl _
  obtain ⟨probe, current, sample, asset, error, heartbeat⟩ :=
    rendered_documents_decode
  exact
    ⟨probe _ header,
      current _ ⟨header, observations⟩,
      sample _ ⟨header, Nat.le_refl _, observations⟩,
      asset _ ⟨header, assets⟩,
      error _ header,
      heartbeat _ _ header (Nat.le_refl _)⟩

end MTConnect
