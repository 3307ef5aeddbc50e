import MTConnect.Device.Category
import MTConnect.SortedMap
import MTConnect.Timestamp

namespace MTConnect

/-!
# Observations

An observation is one reported value of a data item with its place in the
sequence. The values are a map because data items differ: samples and events
have one entry `value`, conditions have entries such as `level`, data sets
have one entry per key. A reading is an observation before it has a place.
-/

/-- The stored keys of a data item: its device's identifier and its own. -/
structure ItemKey where
  device : String
  item : String
  deriving Repr, DecidableEq, Inhabited

namespace ItemKey

/-- Keys are ordered by device first and by item second. -/
instance : Ord ItemKey where
  compare := compareLex (compareOn ItemKey.device) (compareOn ItemKey.item)

instance : Std.TransOrd ItemKey :=
  inferInstanceAs
    (Std.TransCmp
      (compareLex (compareOn ItemKey.device) (compareOn ItemKey.item)))

/-- Two keys compare as equal only if they are the same key. -/
instance : Std.LawfulEqOrd ItemKey where
  compare_self := Std.ReflCmp.compare_self
  eq_of_compare := by
    intro left right same
    have parts :
        compare left.device right.device = .eq ∧
          compare left.item right.item = .eq := by
      simpa [compare, compareLex, compareOn, Ordering.then_eq_eq] using same
    have sameDevice := Std.LawfulEqCmp.eq_of_compare parts.1
    have sameItem := Std.LawfulEqCmp.eq_of_compare parts.2
    cases left
    cases right
    cases sameDevice
    cases sameItem
    rfl

end ItemKey

/-- The values of an observation by name. -/
abbrev Values := SortedMap String String

/-- The entry that holds the value of a sample or an event. -/
def valueKey : String := "value"

/-- The entry that holds the level of a condition. -/
def levelKey : String := "level"

/-- The value, or level, of a data item about which nothing is known. -/
def unavailableMark : String := "UNAVAILABLE"

/-- A reported value before it has a place in the sequence. -/
structure Reading where
  device : String
  item : String
  category : Category := .event
  timestamp : Timestamp := .epoch
  values : Values := .empty
  deriving Repr, DecidableEq, Inhabited

/-- A reported value and its place in the sequence. -/
structure Observation where
  device : String
  item : String
  category : Category
  sequence : Nat
  timestamp : Timestamp
  values : Values
  deriving Repr, DecidableEq, Inhabited

/-- Give a reading its place in the sequence. -/
def Reading.numbered (reading : Reading) (sequence : Nat) : Observation where
  device := reading.device
  item := reading.item
  category := reading.category
  sequence := sequence
  timestamp := reading.timestamp
  values := reading.values

/-- Add a named value to a reading. -/
def Reading.withEntry (reading : Reading) (name value : String) : Reading :=
  { reading with values := reading.values.insert name value }

namespace Observation

/-- The stored keys of the data item that an observation reports. -/
def key (observation : Observation) : ItemKey where
  device := observation.device
  item := observation.item

/-- The value of a sample or an event. -/
def value? (observation : Observation) : Option String :=
  observation.values.find? valueKey

/-- Whether an observation says that nothing is known about its data item. -/
def isUnavailable (observation : Observation) : Bool :=
  match observation.category with
  | .condition => observation.values.find? levelKey == some unavailableMark
  | _ => observation.value? == some unavailableMark

end Observation

/-- The entry of a category that carries the mark of unavailability. -/
def Category.markKey : Category → String
  | .condition => levelKey
  | _ => valueKey

/-- The values that mark a data item of a category unavailable. -/
def Category.unavailableValues (category : Category) : Values :=
  .singleton category.markKey unavailableMark

end MTConnect
