import MTConnect.Device.Path

namespace MTConnect

/-!
# Faults

Everything that a read or a write can fail with, by cause. The wording and
the protocol code of a fault are functions of its cause, so that no operation
handles texts. Only the exhaustion of the sequence numbers is fatal.
-/

/-- The protocol codes that clients see. -/
inductive ErrorCode where
  | outOfRange
  | instanceMismatch
  | noDevice
  | assetNotFound
  | invalidRequest
  | internalError
  deriving Repr, DecidableEq, Inhabited

namespace ErrorCode

/-- The spelling in documents. -/
def name : ErrorCode → String
  | .outOfRange => "OUT_OF_RANGE"
  | .instanceMismatch => "INSTANCE_MISMATCH"
  | .noDevice => "NO_DEVICE"
  | .assetNotFound => "ASSET_NOT_FOUND"
  | .invalidRequest => "INVALID_REQUEST"
  | .internalError => "INTERNAL_ERROR"

/-- All codes. -/
def all : List ErrorCode :=
  [.outOfRange, .instanceMismatch, .noDevice, .assetNotFound,
    .invalidRequest, .internalError]

/-- The code with exactly this spelling. -/
def ofName? (text : String) : Option ErrorCode :=
  all.find? fun code => code.name = text

/-- A code is found under its own spelling. -/
theorem ofName?_name (code : ErrorCode) :
    ofName? code.name = some code := by
  cases code <;> decide

end ErrorCode

/-- Why a request makes no sense, whatever the state of the agent. -/
inductive Refusal where
  | badPath (path : String) (defect : Path.Defect)
  | emptySelection (path : String)
  | zeroCount
  | countAboveMaximum (count : Int) (maximum : Nat)
  | reversedRange (first last : Nat)
  | negativeStreamCount (count : Int)
  | noAssetIds
  | badParameter (name value : String)
  | badMethod (method : String)
  | noValue (device item : String)
  | stated (text : String)
  deriving Repr, DecidableEq, Inhabited

/-- The wording of a refusal. -/
def Refusal.message : Refusal → String
  | .badPath path defect =>
      "path " ++ Text.quotedString path ++ ": " ++ defect.message
  | .emptySelection path =>
      "path " ++ Text.quotedString path ++ " matches no data items"
  | .zeroCount => "count must not be zero"
  | .countAboveMaximum count maximum =>
      "count " ++ toString count ++ " exceeds the maximum of " ++ toString maximum
  | .reversedRange first last =>
      "to (" ++ toString last ++ ") must not precede from (" ++ toString first ++ ")"
  | .negativeStreamCount count =>
      "stream count must be positive, got " ++ toString count
  | .noAssetIds => "no asset ids given"
  | .badParameter name value =>
      "invalid value for " ++ name ++ ": " ++ Text.quotedString value
  | .badMethod method => "method " ++ method ++ " not allowed"
  | .noValue device item =>
      "observation for " ++ device ++ "/" ++ item ++ " has no value"
  | .stated text => text

/-- Why an operation failed. -/
inductive Fault where
  /-- A sequence number outside the window; clients start over from `current`. -/
  | outOfRange (requested first next : Nat)
  /-- An instance whose history is gone; clients start over from `probe`. -/
  | instanceMismatch (presented current : Nat)
  | unknownDevice (key : String)
  | unknownItem (device item : String)
  | assetNotFound (id : String)
  | invalidRequest (refusal : Refusal)
  /-- The sequence numbers are used up; the agent must start again. -/
  | sequenceExhausted
  deriving Repr, DecidableEq, Inhabited

namespace Fault

/-- The wording of a fault. -/
def message : Fault → String
  | .outOfRange requested first next =>
      "Sequence " ++ toString requested ++ " is outside the buffer window [" ++
        toString first ++ ", " ++ toString next ++ "]"
  | .instanceMismatch presented current =>
      "Instance id " ++ toString presented ++ " does not match agent instance " ++
        toString current
  | .unknownDevice key => "Unknown device: " ++ key
  | .unknownItem device item =>
      "Unknown data item " ++ item ++ " on device " ++ device
  | .assetNotFound id => "Asset not found: " ++ id
  | .invalidRequest refusal => "Invalid request: " ++ refusal.message
  | .sequenceExhausted => "Sequence numbers exhausted"

/-- The protocol code of a fault. -/
def code : Fault → ErrorCode
  | .outOfRange .. => .outOfRange
  | .instanceMismatch .. => .instanceMismatch
  | .unknownDevice _ => .noDevice
  | .unknownItem .. => .noDevice
  | .assetNotFound _ => .assetNotFound
  | .invalidRequest _ => .invalidRequest
  | .sequenceExhausted => .internalError

/-- Whether the agent must start again. -/
def isFatal : Fault → Bool
  | .sequenceExhausted => true
  | _ => false

end Fault

section

variable {Failure Between Result : Type}

/-- Computations one after the other succeed if each of them does. -/
theorem bind_eq_ok_iff
    {first : Except Failure Between}
    {next : Between → Except Failure Result}
    {result : Result} :
    (first >>= next) = .ok result ↔
      ∃ between, first = .ok between ∧ next between = .ok result := by
  cases first with
  | error failure => simp [bind, Except.bind]
  | ok between => simp [bind, Except.bind]

/-- What is made of a result is made if there is one. -/
theorem map_eq_ok_iff
    {first : Except Failure Between}
    {made : Between → Result}
    {result : Result} :
    first.map made = .ok result ↔
      ∃ between, first = .ok between ∧ made between = result := by
  cases first with
  | error failure => simp [Except.map]
  | ok between => simp [Except.map]

/-- A check that refuses under a condition is passed where the condition fails. -/
theorem if_error_eq_ok_iff
    {refused : Prop}
    [Decidable refused]
    {failure : Failure}
    {otherwise : Except Failure Result}
    {result : Result} :
    (if refused then .error failure else otherwise) = .ok result ↔
      ¬ refused ∧ otherwise = .ok result := by
  by_cases isRefused : refused
  · simp [isRefused]
  · simp [isRefused]

end

end MTConnect
