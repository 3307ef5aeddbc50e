import MTConnect.Agent.Writes
import MTConnect.Proofs.Asset.Refinement
import MTConnect.Proofs.SortedMap
import MTConnect.Proofs.Web.Escapes
import MTConnect.Web.Handler
import Mathlib.Data.List.TakeWhile

namespace MTConnect.Web

/-!
# What stands at an address

The address of a device begins with its key as a segment of the path, and the
address of an asset ends with its identifier. A segment is taken as it stands:
the escapes that a client puts into it are looked up with the rest. A device or
an asset is therefore found at its address exactly when nothing in its key had
to be escaped. In a field of the query the same escapes are read back.
-/

/-- The queries that a device is asked. -/
inductive DeviceQuery where
  | probe
  | current
  | sample
  | assets
  deriving Repr, DecidableEq

namespace DeviceQuery

/-- The segment of a query. -/
def word : DeviceQuery → String
  | probe => "probe"
  | current => "current"
  | sample => "sample"
  | assets => "assets"

/-- The document of a query for the device that answers to a key. -/
def document (agent : Agent) (key : String) : DeviceQuery → Except Fault Json
  | probe => (agent.probe (some key)).map ProbeDocument.toJson
  | current => (agent.current { device := some key }).map CurrentDocument.toJson
  | sample => (agent.sample { device := some key }).map SampleDocument.toJson
  | assets => (agent.assetList { device := some key }).map AssetDocument.toJson

/-- The path of a query, with a segment for the device. -/
def path (query : DeviceQuery) (segment : String) : String :=
  "/" ++ segment ++ "/" ++ query.word

end DeviceQuery

/-- The path of an asset, with a segment for its identifier. -/
def assetPath (segment : String) : String :=
  "/asset/" ++ segment

/-- The path of the assets, with a field for the device. -/
def assetsQuery (value : String) : String :=
  "/assets?device=" ++ value

/-- The request to read what stands at a target. -/
def get (target : String) : Request where
  method := "GET"
  target := target

/-- The answer that a request gets, which tells of a fault if there is one. -/
def concluded (agent : Agent) : Except Fault Answer → Answer
  | .ok answer => answer
  | .error fault => .reply (faultReply agent fault)

/-- The answer that carries a document or tells of a fault. -/
def answerOf (agent : Agent) (outcome : Except Fault Json) : Answer :=
  concluded agent (outcome.map found)

variable {settings : WebSettings} {agent : Agent} {query : DeviceQuery}
variable {segment : String}

/-- A text that is a segment of a path and nothing else of a target. -/
structure IsSegment (text : String) : Prop where
  nonempty : text ≠ ""
  noSlash : '/' ∉ text.toList
  noQuery : '?' ∉ text.toList
  noFragment : '#' ∉ text.toList

theorem withoutFragment_of_not_mem
    {target : List Char}
    (noFragment : '#' ∉ target) :
    withoutFragment target = target := by
  rw [withoutFragment, List.takeWhile_eq_self_iff]
  intro character member
  simpa using fun same : character = '#' => noFragment (same ▸ member)

theorem splitTarget_of_path
    {target : String}
    (noQuery : '?' ∉ target.toList)
    (noFragment : '#' ∉ target.toList) :
    splitTarget target = (target.toList, []) := by
  simp [splitTarget, withoutFragment_of_not_mem noFragment,
    Text.splitOnce?_of_not_mem noQuery]

/-- A read is answered by what its route and its query lead to. -/
theorem answer_get
    {target : String}
    {path query : List Char}
    (halves : splitTarget target = (path, query)) :
    answer settings agent (get target) =
      concluded agent
        (dispatch settings agent (.ofPath (String.ofList path))
          (.read query)) := by
  simp only [answer, get, isReading, halves]
  cases dispatch settings agent (.ofPath (String.ofList path)) (.read query) with
  | ok answer => rfl
  | error fault => rfl

/-- Two segments with a slash before each are parted again. -/
theorem parts_segments
    {first second : String}
    (firstFits : IsSegment first)
    (secondFits : IsSegment second) :
    Route.parts '/' ("/" ++ first ++ "/" ++ second) = [first, second] := by
  have chars :
      ("/" ++ first ++ "/" ++ second).toList =
        [] ++ '/' :: (first.toList ++ '/' :: second.toList) := by
    simp
  rw [Route.parts, chars, Text.splitAt_append (by simp),
    Text.splitAt_append firstFits.noSlash,
    Text.splitAt_of_not_mem secondFits.noSlash]
  simp [firstFits.nonempty, secondFits.nonempty]

theorem word_segment (query : DeviceQuery) : IsSegment query.word := by
  cases query <;>
    exact ⟨by decide, by decide, by decide, by decide⟩

theorem asset_segment : IsSegment "asset" :=
  ⟨by decide, by decide, by decide, by decide⟩

/-- The route of a query for a device. -/
def DeviceQuery.route (device? : Option String) : DeviceQuery → Route
  | probe => .probe device?
  | current => .current device?
  | sample => .sample device?
  | assets => .assets device?

theorem ofSegments_device
    (notAsset : segment ≠ "asset")
    (notAssets : segment ≠ "assets") :
    Route.ofSegments [segment, query.word] = query.route (some segment) := by
  cases query <;>
    simp [Route.ofSegments, DeviceQuery.word, DeviceQuery.route]

/-- A document is made JSON before or after the outcome is looked at. -/
theorem map_found
    {Document : Type}
    (outcome : Except Fault Document)
    (toJson : Document → Json) :
    (outcome.map fun document => found (toJson document)) =
      (outcome.map toJson).map found := by
  cases outcome with
  | ok document => rfl
  | error fault => rfl

/-- A document that is found is answered as JSON. -/
theorem bind_found
    {Document : Type}
    (outcome : Except Fault Document)
    (toJson : Document → Json) :
    (do
      let document ← outcome
      pure (found (toJson document))) =
      (outcome.map toJson).map found := by
  cases outcome with
  | ok document => rfl
  | error fault => rfl

/-- What was read gets its header before it is found. -/
theorem bind_headed
    {Read Document : Type}
    (outcome : Except Fault Read)
    (headed : Read → Document)
    (toJson : Document → Json) :
    (do
      let read ← outcome
      pure (found (toJson (headed read)))) =
      ((do
        let read ← outcome
        pure (headed read)).map toJson).map found := by
  cases outcome with
  | ok read => rfl
  | error fault => rfl

/-- Without fields a query is answered by the document for its device. -/
theorem dispatch_device :
    dispatch settings agent (query.route (some segment)) {} =
      (query.document agent segment).map found := by
  cases query with
  | probe => exact map_found _ _
  | current => exact bind_found _ _
  | sample => exact bind_headed _ agent.sampleOf SampleDocument.toJson
  | assets => exact bind_found _ _

theorem dispatch_asset :
    dispatch settings agent (.assetsById [segment]) {} =
      ((agent.assetsById [segment]).map AssetDocument.toJson).map found :=
  map_found _ _

/-- A path for a device is answered for the device that bears the segment as it stands. -/
theorem answer_devicePath
    (fits : IsSegment segment)
    (notAsset : segment ≠ "asset")
    (notAssets : segment ≠ "assets") :
    answer settings agent (get (query.path segment)) =
      answerOf agent (query.document agent segment) := by
  have noQuery : '?' ∉ (query.path segment).toList := by
    simp [DeviceQuery.path, fits.noQuery, (word_segment query).noQuery]
  have noFragment : '#' ∉ (query.path segment).toList := by
    simp [DeviceQuery.path, fits.noFragment, (word_segment query).noFragment]
  have routeEq :
      Route.ofPath (query.path segment) = query.route (some segment) := by
    rw [Route.ofPath, DeviceQuery.path, parts_segments fits (word_segment query),
      ofSegments_device notAsset notAssets]
  rw [answer_get (splitTarget_of_path noQuery noFragment), String.ofList_toList,
    routeEq]
  exact congrArg (concluded agent) dispatch_device

/-- A path for an asset is answered for the asset that bears the segment as it stands. -/
theorem answer_assetPath
    (fits : IsSegment segment)
    (single : ';' ∉ segment.toList) :
    answer settings agent (get (assetPath segment)) =
      answerOf agent
        ((agent.assetsById [segment]).map AssetDocument.toJson) := by
  have noQuery : '?' ∉ (assetPath segment).toList := by
    simp [assetPath, fits.noQuery]
  have noFragment : '#' ∉ (assetPath segment).toList := by
    simp [assetPath, fits.noFragment]
  have oneId : Route.parts ';' segment = [segment] := by
    simp [Route.parts, Text.splitAt_of_not_mem single, fits.nonempty]
  have routeEq : Route.ofPath (assetPath segment) = .assetsById [segment] := by
    have lead : "/asset/" = "/" ++ "asset" ++ "/" := rfl
    have segments : Route.parts '/' (assetPath segment) = ["asset", segment] := by
      rw [assetPath, lead]
      exact parts_segments asset_segment fits
    have byId :
        Route.ofSegments ["asset", segment] =
          .assetsById (Route.parts ';' segment) :=
      rfl
    rw [Route.ofPath, segments, byId, oneId]
  rw [answer_get (splitTarget_of_path noQuery noFragment), String.ofList_toList,
    routeEq]
  exact congrArg (concluded agent) dispatch_asset

/-- A query of one field is read as the texts on both sides of its equals sign. -/
theorem read_field
    {name value : List Char}
    (noField : '&' ∉ name ++ '=' :: value)
    (noEquals : '=' ∉ name) :
    Form.read (name ++ '=' :: value) =
      { fields := .ofList [(Form.decode name, Form.decode value)] } := by
  rw [Form.read, Text.splitAt_of_not_mem noField]
  simp [Form.readField, Text.splitOnce?_append noEquals]

/-- A single field is found under its name and no other. -/
theorem field?_ofList (name value other : String) :
    Form.field? { fields := .ofList [(name, value)] } other =
      if other = name then some value else none := by
  have only :
      ∀ entry ∈ [(name, value)],
        entry.2 = Function.const String value entry.1 := by
    simp
  simpa [Form.field?] using SortedMap.find?_ofList only other

/-- The assets are answered for the device that a field names once it is read back. -/
theorem answer_assetsQuery
    {value key : String}
    (nonempty : key ≠ "")
    (noFragment : '#' ∉ value.toList)
    (noField : '&' ∉ value.toList)
    (decoded : Form.decode value.toList = key) :
    answer settings agent (get (assetsQuery value)) =
      answerOf agent (DeviceQuery.assets.document agent key) := by
  have chars :
      (assetsQuery value).toList =
        "/assets".toList ++ '?' :: ("device".toList ++ '=' :: value.toList) := by
    simp [assetsQuery]
  have halves :
      splitTarget (assetsQuery value) =
        ("/assets".toList, "device".toList ++ '=' :: value.toList) := by
    have clean : '#' ∉ (assetsQuery value).toList := by
      simp [assetsQuery, noFragment]
    rw [splitTarget, withoutFragment_of_not_mem clean, chars,
      Text.splitOnce?_append (by decide)]
  have routeEq : Route.ofPath (String.ofList "/assets".toList) = .assets none := by
    decide
  let form : Form := { fields := .ofList [("device", key)] }
  have formEq :
      Form.read ("device".toList ++ '=' :: value.toList) = form := by
    have name : Form.decode "device".toList = "device" := by decide
    rw [read_field (by simp [noField]) (by decide), name, decoded]
  have noRemoved : form.truth "removed" = .ok none := by
    simp [form, Form.truth, Form.parse, field?_ofList]
  have noCount : form.word "count" = .ok none := by
    simp [form, Form.word, Form.parse, field?_ofList]
  have noKind : form.text? "type" = none := by
    simp [form, Form.text?, field?_ofList]
  have device : form.text? "device" = some key := by
    simp [form, Form.text?, field?_ofList, Option.filter, nonempty]
  have dispatched :
      dispatch settings agent (.assets none) form =
        (DeviceQuery.assets.document agent key).map found := by
    simp only [dispatch, answerAssets, noRemoved, noCount, noKind, device]
    exact bind_found _ _
  rw [answer_get halves, routeEq, formEq, dispatched, answerOf]

/-- A query for a device that nobody knows is refused. -/
theorem document_of_unknown
    {key : String}
    (unknown : agent.catalog.device? key = none) :
    query.document agent key = .error (.unknownDevice key) := by
  have notFound : agent.catalog.findDevice key = .error (.unknownDevice key) := by
    rw [Catalog.findDevice, unknown]
  cases query with
  | probe =>
      simp [DeviceQuery.document, Agent.probe, Catalog.scope, notFound,
        Except.map, bind, Except.bind]
  | current =>
      simp [DeviceQuery.document, Agent.current, Agent.currentSnapshot,
        Catalog.select, Catalog.scope, notFound, Except.map, bind, Except.bind]
  | sample =>
      simp [DeviceQuery.document, Agent.sample, Agent.samplePage,
        Catalog.select, Catalog.scope, notFound, Except.map, bind, Except.bind]
  | assets =>
      simp [DeviceQuery.document, Agent.assetList, Agent.deviceOf, notFound,
        Except.map, bind, Except.bind]

/-- A new agent that knows the devices of a catalog. -/
def fresh (catalog : Catalog) : Agent :=
  .start { catalog := catalog } ⟨0⟩

/-- A new agent answers every query for a device that it knows with a document. -/
theorem exists_document_fresh
    {catalog : Catalog}
    {key : String}
    {device : Device}
    (known : catalog.device? key = some device)
    (query : DeviceQuery) :
    ∃ document, query.document (fresh catalog) key = .ok document := by
  have resolved : (fresh catalog).catalog.findDevice key = .ok device := by
    change catalog.findDevice key = .ok device
    rw [Catalog.findDevice, known]
  have selected :
      (fresh catalog).catalog.select (some key) none =
        .ok (ObservationFilter.all.onDevice device.uuid) := by
    simp [Catalog.select, Catalog.scope, Catalog.filterOfScope, resolved,
      Except.map, bind, Except.bind, pure, Except.pure]
  cases query with
  | probe =>
      simp [DeviceQuery.document, Agent.probe, Catalog.scope, resolved,
        Except.map, bind, Except.bind, pure, Except.pure]
  | current =>
      simp [DeviceQuery.document, Agent.current, Agent.currentSnapshot,
        Agent.snapshot, selected, Except.map, bind, Except.bind, pure,
        Except.pure]
  | sample =>
      have counted : (fresh catalog).checkedCount none = .ok 100 := rfl
      -- The range of an empty log ends before any filter applies.
      have ranged (filter : ObservationFilter) :
          ∃ page,
            (fresh catalog).pageFiltered (fresh catalog).log.window.first none
                none 100 filter =
              .ok page :=
        ⟨_, rfl⟩
      obtain ⟨page, paged⟩ := ranged (ObservationFilter.all.onDevice device.uuid)
      refine ⟨((fresh catalog).sampleOf page).toJson, ?_⟩
      simp [DeviceQuery.document, Agent.sample, Agent.samplePage, selected,
        counted, paged, Except.map, bind, Except.bind, pure, Except.pure]
  | assets =>
      simp [DeviceQuery.document, Agent.assetList, Agent.deviceOf, resolved,
        Except.map, bind, Except.bind, pure, Except.pure]

/-- A document never answers alike with a fault that something is missing. -/
theorem answerOf_ok_ne_missing
    {fault : Fault}
    (document : Json)
    (missing : statusOf fault.code = 404) :
    answerOf agent (.ok document) ≠ answerOf agent (.error fault) := by
  intro same
  have statuses := congrArg Reply.status (Answer.reply.inj same)
  simp [documentReply, faultReply, missing] at statuses

/-- What is stored alone at a new agent is found under its identifier only. -/
theorem get_shelve_fresh
    (catalog : Catalog)
    (asset : Asset)
    (id : String) :
    ((fresh catalog).shelve asset).assets.get id =
      if asset.id = id then .ok asset else .error (.assetNotFound id) := by
  have shelved :
      ((fresh catalog).shelve asset).assets =
        (AssetShelf.empty 1024 .empty).upsert asset := by
    simp only [Agent.shelve, fresh, Agent.start]
  have refines := (AssetShelf.refines_empty 1024 .empty).upsert asset
  rw [shelved, refines.get_eq]
  by_cases same : asset.id = id
  · simp [AssetRow.get, AssetRow.upsert, AssetRow.limited, AssetRow.others,
      shrink, same]
  · simp [AssetRow.get, AssetRow.upsert, AssetRow.limited, AssetRow.others,
      shrink, same]

section Escaped

variable {escaping : Escaping} {key id : String}

/-- An escaped text is a segment. -/
theorem escape_segment
    (escaping : Escaping)
    (nonempty : key ≠ "") :
    IsSegment (escaping.escape key) where
  nonempty := Escaping.escape_ne_empty escaping nonempty
  noSlash :=
    Escaping.not_mem_escape (by decide) (by decide) fun _ =>
      Escaping.plain_eq_false (by decide)
  noQuery :=
    Escaping.not_mem_escape (by decide) (by decide) fun _ =>
      Escaping.plain_eq_false (by decide)
  noFragment :=
    Escaping.not_mem_escape (by decide) (by decide) fun _ =>
      Escaping.plain_eq_false (by decide)

/-- The address of a device is answered for it, whatever agent knows it. -/
def LeadsToDevice
    (escaping : Escaping)
    (query : DeviceQuery)
    (key : String) :
    Prop :=
  ∀ (settings : WebSettings) (agent : Agent),
    (agent.catalog.device? key).isSome = true →
      answer settings agent (get (query.path (escaping.escape key))) =
        answerOf agent (query.document agent key)

/-- The address of an asset is answered with it, whatever agent stores it. -/
def LeadsToAsset (escaping : Escaping) (id : String) : Prop :=
  ∀ (settings : WebSettings) (agent : Agent) (asset : Asset),
    agent.assets.get id = .ok asset →
      answer settings agent (get (assetPath (escaping.escape id))) =
        found (agent.assetsOf [asset]).toJson

/-- The address of a device is answered for the device of the escaped key. -/
theorem answer_escapedDevice
    (nonempty : key ≠ "")
    (notAsset : key ≠ "asset")
    (notAssets : key ≠ "assets") :
    answer settings agent (get (query.path (escaping.escape key))) =
      answerOf agent (query.document agent (escaping.escape key)) :=
  answer_devicePath (escape_segment escaping nonempty)
    (Escaping.escape_ne_of_ne (by decide) notAsset)
    (Escaping.escape_ne_of_ne (by decide) notAssets)

/-- The address of an asset is answered with the asset of the escaped identifier. -/
theorem answer_escapedAsset
    (nonempty : id ≠ "")
    (single : ';' ∉ id.toList) :
    answer settings agent (get (assetPath (escaping.escape id))) =
      answerOf agent
        ((agent.assetsById [escaping.escape id]).map AssetDocument.toJson) :=
  answer_assetPath (escape_segment escaping nonempty)
    (Escaping.not_mem_escape (by decide) (by decide) fun member =>
      absurd member single)

/-- The address of a device leads to it if nothing in its key is escaped. -/
theorem leadsToDevice_iff
    (nonempty : key ≠ "")
    (notAsset : key ≠ "asset")
    (notAssets : key ≠ "assets") :
    LeadsToDevice escaping query key ↔
      ∀ character ∈ key.toList, escaping.plain character = true := by
  rw [← Escaping.escape_eq_self_iff]
  constructor
  · intro leads
    by_contra changed
    -- An agent that knows the key and nothing else does not know its escape.
    let catalog : Catalog := { devices := [{ uuid := key, name := key }] }
    have known : catalog.device? key = some { uuid := key, name := key } := by
      simp [catalog, Catalog.device?, Device.answersTo]
    have unknown : (fresh catalog).catalog.device? (escaping.escape key) = none := by
      change catalog.device? (escaping.escape key) = none
      simp [catalog, Catalog.device?, Device.answersTo, Ne.symm changed]
    obtain ⟨document, answered⟩ := exists_document_fresh known query
    have isKnown : (catalog.device? key).isSome = true := by
      rw [known]
      rfl
    have promised := leads {} (fresh catalog) isKnown
    rw [answer_escapedDevice nonempty notAsset notAssets,
      document_of_unknown unknown, answered] at promised
    exact answerOf_ok_ne_missing document rfl promised.symm
  · intro unchanged settings agent _
    rw [answer_escapedDevice nonempty notAsset notAssets, unchanged]

/-- The address of an asset leads to it if nothing in its identifier is escaped. -/
theorem leadsToAsset_iff
    (nonempty : id ≠ "")
    (single : ';' ∉ id.toList) :
    LeadsToAsset escaping id ↔
      ∀ character ∈ id.toList, escaping.plain character = true := by
  rw [← Escaping.escape_eq_self_iff]
  constructor
  · intro leads
    by_contra changed
    -- A shelf that holds the asset and nothing else holds none of its escape.
    let asset : Asset := { (default : Asset) with id := id }
    let agent : Agent := (fresh {}).shelve asset
    have stored : agent.assets.get id = .ok asset :=
      (get_shelve_fresh {} asset id).trans (if_pos rfl)
    have missing :
        agent.assets.get (escaping.escape id) =
          .error (.assetNotFound (escaping.escape id)) :=
      (get_shelve_fresh {} asset _).trans (if_neg (Ne.symm changed))
    have promised := leads {} agent asset stored
    rw [answer_escapedAsset nonempty single] at promised
    have refused :
        agent.assetsById [escaping.escape id] =
          .error (.assetNotFound (escaping.escape id)) := by
      simp [Agent.assetsById, missing, Except.map, bind, Except.bind]
    rw [refused] at promised
    exact answerOf_ok_ne_missing _ rfl promised.symm
  · intro unchanged settings agent asset stored
    have answered : agent.assetsById [id] = .ok (agent.assetsOf [asset]) := by
      simp [Agent.assetsById, stored, Except.map, bind, Except.bind, pure,
        Except.pure]
    rw [answer_escapedAsset nonempty single, unchanged, answered]
    rfl

/-- A field is answered for the device of the key itself, since fields are unescaped. -/
theorem answer_escapedField
    (escapesPlus : escaping.plain '+' = false)
    (escapesAmpersand : escaping.plain '&' = false)
    (nonempty : key ≠ "") :
    answer settings agent (get (assetsQuery (escaping.escape key))) =
      answerOf agent (DeviceQuery.assets.document agent key) :=
  answer_assetsQuery nonempty (escape_segment escaping nonempty).noFragment
    (Escaping.not_mem_escape (by decide) (by decide) fun _ => escapesAmpersand)
    (Escaping.decode_escape escapesPlus key)

/--
However a client escapes, the path of a device or of an asset leads to it
exactly when its key is left as it is. The same key is read back from a form
field, so that the assets of every device are found by a query.
-/
theorem path_leads_iff_plain (escaping : Escaping) :
    (∀ query key,
      key ≠ "" → key ≠ "asset" → key ≠ "assets" →
        (LeadsToDevice escaping query key ↔
          ∀ character ∈ key.toList, escaping.plain character = true)) ∧
    (∀ id,
      id ≠ "" → ';' ∉ id.toList →
        (LeadsToAsset escaping id ↔
          ∀ character ∈ id.toList, escaping.plain character = true)) ∧
    (escaping.plain '+' = false → escaping.plain '&' = false →
      ∀ settings agent key,
        key ≠ "" →
          answer settings agent (get (assetsQuery (escaping.escape key))) =
            answerOf agent (DeviceQuery.assets.document agent key)) :=
  ⟨fun _ _ nonempty notAsset notAssets =>
      leadsToDevice_iff nonempty notAsset notAssets,
    fun _ nonempty single => leadsToAsset_iff nonempty single,
    fun escapesPlus escapesAmpersand _ _ _ nonempty =>
      answer_escapedField escapesPlus escapesAmpersand nonempty⟩

/-- Plain keys are found, others only through a field. -/
theorem mill_path_leads :
    LeadsToDevice .unreserved .current "mill-1" ∧
      ¬ LeadsToDevice .unreserved .current "mill 1" ∧
      LeadsToAsset .unreserved "T4.7" ∧
      ¬ LeadsToAsset .unreserved "Fräser/7" ∧
      answer {} (fresh {}) (get (assetsQuery "mill%201")) =
        answerOf (fresh {}) (DeviceQuery.assets.document (fresh {}) "mill 1") := by
  obtain ⟨devices, assets, fields⟩ := path_leads_iff_plain .unreserved
  have escaped : Escaping.unreserved.escape "mill 1" = "mill%201" := by decide
  refine ⟨?_, ?_, ?_, ?_, ?_⟩
  · refine
      (devices .current "mill-1" (by decide) (by decide) (by decide)).mpr ?_
    exact List.all_eq_true.mp (by decide)
  · rw [devices .current "mill 1" (by decide) (by decide) (by decide)]
    exact fun allPlain => absurd (allPlain ' ' (by decide)) (by decide)
  · refine (assets "T4.7" (by decide) (by decide)).mpr ?_
    exact List.all_eq_true.mp (by decide)
  · rw [assets "Fräser/7" (by decide) (by decide)]
    exact fun allPlain => absurd (allPlain 'ä' (by decide)) (by decide)
  · rw [← escaped]
    exact fields (by decide) (by decide) {} (fresh {}) "mill 1" (by decide)

/-- A device with a space in its name. -/
def spacedMill : Catalog where
  devices := [{ uuid := "m1", name := "mill 1" }]

/-- The device at `/mill%201/current` is the one named `mill%201`, not `mill 1`. -/
theorem spaced_name_unknown :
    (spacedMill.device? "mill 1").isSome = true ∧
      DeviceQuery.current.path (Escaping.unreserved.escape "mill 1") =
        "/mill%201/current" ∧
      answer {} (fresh spacedMill) (get "/mill%201/current") =
        .reply (faultReply (fresh spacedMill) (.unknownDevice "mill%201")) ∧
      answer {} (fresh spacedMill) (get "/mill%201/current") ≠
        answerOf (fresh spacedMill)
          (DeviceQuery.current.document (fresh spacedMill) "mill 1") := by
  have known :
      spacedMill.device? "mill 1" =
        some { uuid := "m1", name := "mill 1" } := by
    decide
  have unknown : spacedMill.device? "mill%201" = none := by
    decide
  have pathEq :
      DeviceQuery.current.path (Escaping.unreserved.escape "mill 1") =
        "/mill%201/current" := by
    decide
  have refused :
      answer {} (fresh spacedMill) (get "/mill%201/current") =
        answerOf (fresh spacedMill) (.error (.unknownDevice "mill%201")) := by
    rw [← pathEq, answer_escapedDevice (by decide) (by decide) (by decide)]
    exact congrArg (answerOf (fresh spacedMill)) (document_of_unknown unknown)
  obtain ⟨document, answered⟩ := exists_document_fresh known .current
  refine ⟨by rw [known]; rfl, pathEq, refused, ?_⟩
  rw [refused, answered]
  exact (answerOf_ok_ne_missing document rfl).symm

end Escaped

end MTConnect.Web
