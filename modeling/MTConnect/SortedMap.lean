namespace MTConnect

/-!
# Maps listed in key order

A map is kept as its list of entries in strictly increasing key order, so
that equal contents are equal maps and listing a map needs no sorting. The
order of keys is part of every answer that lists a map, which is why it is
part of the type.
-/

/-- Keys in strictly increasing order, each before all keys of the rest. -/
abbrev Ascending
    {κ α : Type}
    [Ord κ]
    (entries : List (κ × α)) :
    Prop :=
  entries.Pairwise fun earlier later => compare earlier.1 later.1 = .lt

/-- A map from keys to values, listed in key order. -/
structure SortedMap (κ α : Type) [Ord κ] where
  entries : List (κ × α) := []
  ascending : Ascending entries := by exact List.Pairwise.nil
  deriving Repr, DecidableEq

namespace SortedMap

/-- Put a value into an ordered list of entries, replacing that of an equal key. -/
def insertEntry
    {κ α : Type}
    [Ord κ]
    (key : κ)
    (value : α) :
    List (κ × α) → List (κ × α)
  | [] => [(key, value)]
  | entry :: rest =>
      match compare key entry.1 with
      | .lt => (key, value) :: entry :: rest
      | .eq => (key, value) :: rest
      | .gt => entry :: insertEntry key value rest

/-- Inserting adds no key but the new one. -/
theorem key_of_mem_insertEntry
    {κ α : Type}
    [Ord κ]
    {key : κ}
    {value : α}
    {entries : List (κ × α)}
    {entry : κ × α}
    (member : entry ∈ insertEntry key value entries) :
    entry = (key, value) ∨ entry ∈ entries := by
  induction entries with
  | nil =>
      left
      simpa [insertEntry] using member
  | cons first rest inductionHypothesis =>
      unfold insertEntry at member
      split at member
      · rcases List.mem_cons.mp member with isNew | inOld
        · exact Or.inl isNew
        · exact Or.inr inOld
      · rcases List.mem_cons.mp member with isNew | inRest
        · exact Or.inl isNew
        · exact Or.inr (List.mem_cons_of_mem first inRest)
      · rcases List.mem_cons.mp member with isFirst | inRest
        · exact Or.inr (by simp [isFirst])
        · rcases inductionHypothesis inRest with isNew | inOld
          · exact Or.inl isNew
          · exact Or.inr (List.mem_cons_of_mem first inOld)

/-- Inserting keeps the key order. -/
theorem ascending_insertEntry
    {κ α : Type}
    [Ord κ]
    [Std.TransOrd κ]
    {key : κ}
    {value : α}
    {entries : List (κ × α)}
    (ascending : Ascending entries) :
    Ascending (insertEntry key value entries) := by
  induction entries with
  | nil =>
      simp [insertEntry, Ascending]
  | cons first rest inductionHypothesis =>
      obtain ⟨firstBelow, restAscending⟩ :=
        List.pairwise_cons.mp ascending
      unfold insertEntry
      split
      next below =>
        refine List.Pairwise.cons ?_ ascending
        intro entry member
        rcases List.mem_cons.mp member with isFirst | inRest
        · subst isFirst
          exact below
        · exact Std.TransCmp.lt_trans below (firstBelow entry inRest)
      next same =>
        refine List.Pairwise.cons ?_ restAscending
        intro entry member
        exact Std.TransCmp.lt_of_eq_of_lt same (firstBelow entry member)
      next above =>
        refine List.Pairwise.cons ?_
          (inductionHypothesis restAscending)
        intro entry member
        rcases key_of_mem_insertEntry member with isNew | inRest
        · subst isNew
          exact Std.OrientedCmp.lt_of_gt above
        · exact firstBelow entry inRest

section

variable {κ α β : Type} [Ord κ]

/-- The map without entries. -/
def empty : SortedMap κ α :=
  {}

instance : Inhabited (SortedMap κ α) where
  default := empty

/-- The entries in key order. -/
def toList (map : SortedMap κ α) : List (κ × α) :=
  map.entries

/-- The keys in order. -/
def keys (map : SortedMap κ α) : List κ :=
  map.entries.map Prod.fst

/-- The values in the order of their keys. -/
def values (map : SortedMap κ α) : List α :=
  map.entries.map Prod.snd

/-- The number of entries. -/
def size (map : SortedMap κ α) : Nat :=
  map.entries.length

/-- Whether there is no entry. -/
def isEmpty (map : SortedMap κ α) : Bool :=
  map.entries.isEmpty

/-- The value stored under a key. -/
def find? (map : SortedMap κ α) (key : κ) : Option α :=
  (map.entries.find? fun entry => compare key entry.1 == .eq).map Prod.snd

/-- Store a value under a key, replacing the previous one. -/
def insert
    [Std.TransOrd κ]
    (map : SortedMap κ α)
    (key : κ)
    (value : α) :
    SortedMap κ α where
  entries := insertEntry key value map.entries
  ascending := ascending_insertEntry map.ascending

/-- Replace the value under a key by a function of what is there now. -/
def update
    [Std.TransOrd κ]
    (map : SortedMap κ α)
    (key : κ)
    (change : Option α → α) :
    SortedMap κ α :=
  map.insert key (change (map.find? key))

/-- Remove the entry of a key. -/
def erase
    (map : SortedMap κ α)
    (key : κ) :
    SortedMap κ α where
  entries := map.entries.filter fun entry => compare key entry.1 != .eq
  ascending := map.ascending.filter _

/-- Keep the entries that pass a test. -/
def filter
    (map : SortedMap κ α)
    (test : κ → α → Bool) :
    SortedMap κ α where
  entries := map.entries.filter fun entry => test entry.1 entry.2
  ascending := map.ascending.filter _

/-- Change every value, keeping the keys. -/
def mapValues
    (map : SortedMap κ α)
    (change : κ → α → β) :
    SortedMap κ β where
  entries := map.entries.map fun entry => (entry.1, change entry.1 entry.2)
  ascending := List.pairwise_map.mpr map.ascending

/-- Store entries one after the other; the last one of a key stays. -/
def ofList
    [Std.TransOrd κ]
    (entries : List (κ × α)) :
    SortedMap κ α :=
  entries.foldl (fun map entry => map.insert entry.1 entry.2) empty

/-- A map of one entry. -/
def singleton (key : κ) (value : α) : SortedMap κ α where
  entries := [(key, value)]
  ascending := List.pairwise_singleton _ _

end

/-- Maps with the same entries are equal. -/
theorem ext_entries
    {κ α : Type}
    [Ord κ]
    {left right : SortedMap κ α}
    (same : left.entries = right.entries) :
    left = right := by
  cases left
  cases right
  cases same
  rfl

/-- Nothing is stored in the empty map. -/
@[simp] theorem find?_empty
    {κ α : Type}
    [Ord κ]
    (key : κ) :
    (empty : SortedMap κ α).find? key = none :=
  rfl

/-- A stored value is found under its key, and other keys are untouched. -/
theorem find?_insert
    {κ α : Type}
    [Ord κ]
    [Std.TransOrd κ]
    [Std.LawfulEqOrd κ]
    (map : SortedMap κ α)
    (key other : κ)
    (value : α) :
    (map.insert key value).find? other =
      if compare other key = .eq then some value else map.find? other := by
  have search :
      ∀ entries : List (κ × α),
        ((insertEntry key value entries).find?
            fun entry => compare other entry.1 == .eq).map Prod.snd =
          if compare other key = .eq then some value
          else (entries.find?
            fun entry => compare other entry.1 == .eq).map Prod.snd := by
    intro entries
    induction entries with
    | nil =>
        by_cases same : compare other key = .eq <;>
          simp [insertEntry, same]
    | cons first rest inductionHypothesis =>
        unfold insertEntry
        split
        next below =>
          by_cases same : compare other key = .eq
          · simp [same]
          · simp [same]
        next equal =>
          have keyEq : key = first.1 := Std.LawfulEqCmp.eq_of_compare equal
          by_cases same : compare other key = .eq
          · simp [same]
          · have differs : compare other first.1 ≠ .eq := keyEq ▸ same
            simp [same, differs]
        next above =>
          by_cases atFirst : compare other first.1 = .eq
          · have otherEq : other = first.1 :=
              Std.LawfulEqCmp.eq_of_compare atFirst
            have differs : compare other key ≠ .eq := by
              intro same
              have keyEq : other = key :=
                Std.LawfulEqCmp.eq_of_compare same
              rw [← keyEq, otherEq] at above
              simp at above
            simp [atFirst, differs]
          · have skipped :
                (compare other first.1 == .eq) = false := by
              simp [atFirst]
            simpa only [List.find?_cons, skipped] using
              inductionHypothesis
  exact search map.entries

/-- The entries of a map list each key once. -/
theorem nodup_keys
    {κ α : Type}
    [Ord κ]
    [Std.ReflOrd κ]
    (map : SortedMap κ α) :
    map.keys.Nodup := by
  unfold keys List.Nodup
  rw [List.pairwise_map]
  apply map.ascending.imp
  intro earlier later below same
  rw [same] at below
  simp at below

end SortedMap

end MTConnect
