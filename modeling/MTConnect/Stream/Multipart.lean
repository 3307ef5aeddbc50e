import MTConnect.Document.Wire
import MTConnect.Json.Writer
import MTConnect.Stream.Frame

namespace MTConnect.Multipart

/-!
# Streams as multipart bodies

Each frame of a stream becomes one part of a body: the boundary, two header
lines, an empty line, the document, and a line end. The length is counted in
bytes. One closing boundary ends the body.
-/

/-- The end of a line. -/
def lineEnd : String := "\r\n"

/-- The text between the parts. -/
def boundary : String := "mtconnect-boundary"

/-- The media type of a document. -/
def documentType : String := "application/json"

/-- The media type of a body of parts. -/
def mediaType : String :=
  "multipart/x-mixed-replace;boundary=" ++ boundary

/-- The document that stands for a heartbeat: a sample without observations. -/
def heartbeatDocument (header : Header) (endSequence : Nat) : SampleDocument where
  header := header
  endSequence := endSequence
  observations := []

/-- The document of a frame as JSON. -/
def frameJson : Frame → Json
  | .data document => document.toJson
  | .heartbeat header endSequence => (heartbeatDocument header endSequence).toJson
  | .failure document => document.toJson

/-- A part with a given document text. -/
def partOf (body : String) : String :=
  "--" ++ boundary ++ lineEnd ++
    "Content-Type: " ++ documentType ++ lineEnd ++
    "Content-Length: " ++ toString body.utf8ByteSize ++ lineEnd ++
    lineEnd ++ body ++ lineEnd

/-- The part of a frame. -/
def part (frame : Frame) : String :=
  partOf (frameJson frame).render

/-- The end of a body of parts. -/
def closing : String :=
  "--" ++ boundary ++ "--" ++ lineEnd

end MTConnect.Multipart
