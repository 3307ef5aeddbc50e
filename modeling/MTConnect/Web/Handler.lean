import MTConnect.Activity.Exposition
import MTConnect.Agent.Queries
import MTConnect.Document.Wire
import MTConnect.Stream.Multipart
import MTConnect.Stream.Options
import MTConnect.Web.Form
import MTConnect.Web.Route

namespace MTConnect

/-!
# Answering requests

A request is answered with a document, or with a stream if it is a sample
with an interval. The parameters of a request are read in a fixed order, and
the first fault decides the answer. Every fault is answered with an error
document under the status of its protocol code.
-/

/-- How the agent answers requests, beside its own state. -/
structure WebSettings where
  /-- The options of a stream before those of the request apply. -/
  streamDefaults : StreamOptions := {}
  /-- What the names of all activity families begin with. -/
  familyLead : Option String := none
  deriving Repr, DecidableEq, Inhabited

/-- A complete answer. -/
structure Reply where
  status : Nat
  mediaType : String
  body : String
  deriving Repr, DecidableEq, Inhabited

/-- An answer, or the options of a stream that answers. -/
inductive Answer where
  | reply (reply : Reply)
  | stream (options : StreamOptions)
  deriving Repr, DecidableEq, Inhabited

/-- A method and a target. -/
structure Request where
  method : String
  target : String
  deriving Repr, DecidableEq, Inhabited

namespace Web

/-- The status that goes with a protocol code. -/
def statusOf : ErrorCode → Nat
  | .outOfRange => 404
  | .noDevice => 404
  | .assetNotFound => 404
  | .instanceMismatch => 409
  | .invalidRequest => 400
  | .internalError => 500

/-- A document with a status. -/
def documentReply (status : Nat) (document : Json) : Reply where
  status := status
  mediaType := Multipart.documentType
  body := document.render

/-- A plain text with a status. -/
def textReply (status : Nat) (text : String) : Reply where
  status := status
  mediaType := "text/plain"
  body := text

/-- The answer that tells of a fault. -/
def faultReply (agent : Agent) (fault : Fault) : Reply :=
  documentReply (statusOf fault.code) (agent.errorDocument fault).toJson

/-- A document as the answer to a request that succeeded. -/
def found (document : Json) : Answer :=
  .reply (documentReply 200 document)

/-- Answer a request for current values. -/
def answerCurrent (agent : Agent) (device? : Option String) (form : Form) : Except Fault Answer := do
  let point ← form.word "at"
  let document ←
    agent.current
      { device := device?
        path := form.text? "path"
        point := point }
  pure (found document.toJson)

/-- What a form asks of a sample, unless it presents a history that is gone. -/
def checkedSample
    (agent : Agent)
    (device? : Option String)
    (form : Form) :
    Except Fault SampleRequest := do
  let presented ← form.word "instanceId"
  agent.checkOptionalInstance presented
  let first ← form.word "from"
  let last ← form.word "to"
  let count ← form.signedWord "count"
  pure
    { device := device?
      path := form.text? "path"
      first := first
      last := last
      count := count }

/--
Answer a request for a range. The agent is looked at three times, and others may
write to it in between: the history is checked, the log is read, and the header
is made.
-/
def answerSampleAcross
    (checked read headed : Agent)
    (device? : Option String)
    (form : Form) :
    Except Fault Answer := do
  let request ← checkedSample checked device? form
  let page ← read.samplePage read.log.window.first request
  pure (found (headed.sampleOf page).toJson)

/-- Answer a request for a range while nobody writes to the agent. -/
def answerSample (agent : Agent) (device? : Option String) (form : Form) : Except Fault Answer :=
  answerSampleAcross agent agent agent device? form

/-- Set the interval of a stream if one is given. -/
def withInterval (options : StreamOptions) (interval? : Option Nat) : StreamOptions :=
  match interval? with
  | some interval => { options with interval := interval }
  | none => options

/-- Set the heartbeat of a stream if one is given. -/
def withHeartbeat (options : StreamOptions) (heartbeat? : Option Nat) : StreamOptions :=
  match heartbeat? with
  | some heartbeat => options.withHeartbeat heartbeat
  | none => options

/-- Answer a request for a stream, if such a stream would start. -/
def answerStream
    (settings : WebSettings)
    (agent : Agent)
    (device? : Option String)
    (form : Form) :
    Except Fault Answer := do
  let start ← form.word "from"
  let count ← form.signedWord "count"
  let presented ← form.word "instanceId"
  let interval? ← form.word "interval"
  let heartbeat? ← form.word "heartbeat"
  let asked :=
    { settings.streamDefaults with
      device := device?
      path := form.text? "path"
      start := start
      count := count
      instanceId := presented }
  let options := withHeartbeat (withInterval asked interval?) heartbeat?
  agent.validateStream options
  pure (.stream options)

/-- Answer a request for assets. -/
def answerAssets (agent : Agent) (device? : Option String) (form : Form) : Except Fault Answer := do
  let removed ← form.truth "removed"
  let count ← form.word "count"
  let document ←
    agent.assetList
      { kind := form.text? "type"
        device := device?.or (form.text? "device")
        removed := removed.getD false
        count := count }
  pure (found document.toJson)

/-- The activity of the agent as text. -/
def metricsReply (settings : WebSettings) (agent : Agent) : Reply where
  status := 200
  mediaType := Exposition.mediaType
  body := Exposition.text settings.familyLead agent.monitor.report agent.header

/-- Answer a request for what a route names. -/
def dispatch
    (settings : WebSettings)
    (agent : Agent)
    (route : Route)
    (form : Form) :
    Except Fault Answer :=
  match route with
  | .probe device? =>
      (agent.probe device?).map fun document => found document.toJson
  | .current device? => answerCurrent agent device? form
  | .sample device? =>
      if form.has "interval" then
        answerStream settings agent device? form
      else
        answerSample agent device? form
  | .assets device? => answerAssets agent device? form
  | .assetsById ids =>
      (agent.assetsById ids).map fun document => found document.toJson
  | .metrics => .ok (.reply (metricsReply settings agent))
  | .health => .ok (.reply (textReply 200 "OK"))
  | .notFound => .ok (.reply (textReply 404 "Not Found"))

/-- A target without what follows a hash sign. -/
def withoutFragment (target : List Char) : List Char :=
  target.takeWhile (· != '#')

/-- The path and the query of a target. -/
def splitTarget (target : String) : List Char × List Char :=
  let visible := withoutFragment target.toList
  match Text.splitOnce? '?' visible with
  | some halves => halves
  | none => (visible, [])

/-- Whether a method only reads. -/
def isReading (method : String) : Bool :=
  method == "GET" || method == "HEAD"

/-- Answer a request. -/
def answer (settings : WebSettings) (agent : Agent) (request : Request) : Answer :=
  if isReading request.method then
    let (path, query) := splitTarget request.target
    match dispatch settings agent (.ofPath (String.ofList path)) (.read query) with
    | .ok answer => answer
    | .error fault => .reply (faultReply agent fault)
  else
    let refusal := faultReply agent (.invalidRequest (.badMethod request.method))
    .reply { refusal with status := 405 }

end Web

end MTConnect
