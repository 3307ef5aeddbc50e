import MTConnect.Observation.Basic

namespace MTConnect

/-!
# Filters on observations

A filter restricts observations by device, by data item and by category. A
dimension that was never restricted admits everything, while one that was
restricted to nothing admits nothing. Restricting a dimension again widens
it: an observation passes when one of the restrictions names it.
-/

/-- A selection of observations. -/
structure ObservationFilter where
  devices : Option (List String) := none
  items : Option (List ItemKey) := none
  categories : Option (List Category) := none
  deriving Repr, DecidableEq, Inhabited

namespace ObservationFilter

/-- The filter that admits every observation. -/
def all : ObservationFilter :=
  {}

/-- Restrict to a device. -/
def onDevice (filter : ObservationFilter) (device : String) : ObservationFilter :=
  { filter with devices := some (filter.devices.getD [] ++ [device]) }

/-- Restrict to some data items. -/
def onItems (filter : ObservationFilter) (items : List ItemKey) : ObservationFilter :=
  { filter with items := some (filter.items.getD [] ++ items) }

/-- Restrict to a category. -/
def ofCategory (filter : ObservationFilter) (category : Category) : ObservationFilter :=
  { filter with categories := some (filter.categories.getD [] ++ [category]) }

/-- Whether no dimension is restricted. -/
def isUnrestricted (filter : ObservationFilter) : Bool :=
  filter.devices.isNone && filter.items.isNone && filter.categories.isNone

/-- Whether a dimension, if it is restricted, names a value. -/
def allows
    {α : Type}
    [DecidableEq α]
    (dimension : Option (List α))
    (value : α) :
    Bool :=
  match dimension with
  | none => true
  | some values => decide (value ∈ values)

/-- Whether an observation passes all dimensions. -/
def admits (filter : ObservationFilter) (observation : Observation) : Bool :=
  allows filter.devices observation.device &&
    allows filter.items observation.key &&
    allows filter.categories observation.category

/-- Without restrictions every observation passes. -/
@[simp] theorem admits_all (observation : Observation) :
    all.admits observation = true :=
  rfl

end ObservationFilter

end MTConnect
