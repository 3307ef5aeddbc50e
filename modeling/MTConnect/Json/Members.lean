import MTConnect.Json.Shape

namespace MTConnect.Json

/-!
# Reading members by name

Requests are objects with named members. A member is either needed, or it may
be missing or null. A step of a request is tagged: it is a bare name, or an
object whose single member is the name with its content.
-/

/-- A member that is needed. -/
def need?
    {α : Type}
    (read? : Json → Option α)
    (value : Json)
    (name : String) :
    Option α :=
  (value.member? name).bind read?

/-- A member that may be missing or null. -/
def may?
    {α : Type}
    (read? : Json → Option α)
    (value : Json)
    (name : String) :
    Option (Option α) :=
  match value.given? name with
  | none => some none
  | some found => (read? found).map some

/-- A member that may be missing or null, with what stands for it then. -/
def orElse?
    {α : Type}
    (default : α)
    (read? : Json → Option α)
    (value : Json)
    (name : String) :
    Option α :=
  (may? read? value name).map fun found? => found?.getD default

/-- An array of two values. -/
def pair?
    {α β : Type}
    (first? : Json → Option α)
    (second? : Json → Option β) :
    Json → Option (α × β)
  | .array [first, second] => do pure (← first? first, ← second? second)
  | _ => none

/-- The name of a tagged step, and its content. -/
def tagged? : Json → Option (String × Json)
  | .string name => some (name, .null)
  | .object [(name, content)] => some (name, content)
  | _ => none

end MTConnect.Json
