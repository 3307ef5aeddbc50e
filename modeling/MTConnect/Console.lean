import MTConnect.Adapter.Feed
import MTConnect.Host

namespace MTConnect

/-!
# The console of an agent

A line of the console is either the first line of a web request, a method and
a target, or a line of an adapter. Requests are answered with their status,
their media type and their body; of a stream the parts are shown that are
ready. Lines of adapters are answered only if something is wrong with them.
-/

namespace Console

/-- A method and a target, if a line begins with them. -/
def request? (line : String) : Option Request :=
  match (Text.splitAt ' ' line.toList).filter (!·.isEmpty) with
  | method :: ('/' :: target) :: _ =>
      if method.all Char.isUpper then
        some
          { method := String.ofList method
            target := String.ofList ('/' :: target) }
      else
        none
  | _ => none

/-- What is shown of a delivery. -/
def shown : Delivery → List String
  | .part text _ => [text]
  | _ => []

/-- The identifier of the stream that the console reads. -/
def streamName : String := "console"

/-- Answer a request. -/
def answer (host : Host) (request : Request) : List String × Host :=
  match host.answer request (some streamName) with
  | (.reply reply, after) =>
      ([toString reply.status ++ " " ++ reply.mediaType, reply.body], after)
  | (.stream _, after) =>
      let (deliveries, final) := after.receive streamName none
      (("200 " ++ Multipart.mediaType) :: deliveries.flatMap shown, final)

/-- What is said about an adapter's line that failed. -/
def complaint : AdapterFault → String
  | .malformed => "malformed record"
  | .agent fault => fault.message
  | .broken reason => AdapterFault.brokenMessage reason

/-- Take in an adapter's line. -/
def takeLine (host : Host) (line : String) : List String × Host :=
  match host.act fun agent => agent.takeLine line.toList with
  | (.ok _, after) => ([], after)
  | (.error fault, after) => ([complaint fault], after)

/-- React to a line. -/
def react (host : Host) (line : String) : List String × Host :=
  match request? line with
  | some request => answer host request
  | none => takeLine host line

/-- Let the clock and the streams come to a point in time. -/
def advance (host : Host) (now : Timestamp) : Host :=
  let passed := now.since host.agent.clock
  { host with agent := host.agent.setClock now }.pass passed

end Console

end MTConnect
