import MTConnect.Text.Split

namespace MTConnect

/-!
# Routes

The path of a request names what it asks for, and for most requests a device
as well. Empty segments of a path do not count. A single segment that is no
reserved word is a device to probe.
-/

/-- What a request asks for. -/
inductive Route where
  | probe (device : Option String)
  | current (device : Option String)
  | sample (device : Option String)
  | assets (device : Option String)
  | assetsById (ids : List String)
  | metrics
  | health
  | notFound
  deriving Repr, DecidableEq, Inhabited

namespace Route

/-- The parts of a text between separators, empty ones left out. -/
def parts (separator : Char) (text : String) : List String :=
  ((Text.splitAt separator text.toList).filter (!·.isEmpty)).map String.ofList

/-- The route of the segments of a path. -/
def ofSegments : List String → Route
  | [] => .probe none
  | ["probe"] => .probe none
  | ["current"] => .current none
  | ["sample"] => .sample none
  | ["assets"] => .assets none
  | ["asset", ids] => .assetsById (parts ';' ids)
  | ["assets", ids] => .assetsById (parts ';' ids)
  | ["metrics"] => .metrics
  | ["health"] => .health
  | ["healthz"] => .health
  | [device] => .probe (some device)
  | [device, "probe"] => .probe (some device)
  | [device, "current"] => .current (some device)
  | [device, "sample"] => .sample (some device)
  | [device, "assets"] => .assets (some device)
  | _ => .notFound

/-- The route of a path. -/
def ofPath (path : String) : Route :=
  ofSegments (parts '/' path)

end Route

end MTConnect
