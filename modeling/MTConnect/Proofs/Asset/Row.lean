import MTConnect.Asset.Shelf

namespace MTConnect

/-!
# Assets in a row

The plain picture of an asset shelf is a row of records, oldest first. Storing a
record deletes the one with its identifier and puts the new one at the end. Then
the oldest go: those of its type, as long as there are too many of the type, and
those of any type, as long as there are too many of all.

Between two calls no bound is exceeded. A record that is stored therefore lets
one other record go at most.
-/

/-- Let the oldest members that pass a test go until at most `most` of them remain. -/
def shrink
    {α : Type}
    (test : α → Bool)
    (most : Nat) :
    List α → List α
  | [] => []
  | oldest :: rest =>
      if test oldest = true ∧ most < rest.countP test + 1 then
        shrink test most rest
      else
        oldest :: shrink test most rest

section Shrinking

variable {α β : Type} {test : α → Bool} {most : Nat} {list : List α}

/-- What remains is in the order that it was in. -/
theorem shrink_sublist (test : α → Bool) (most : Nat) (list : List α) :
    (shrink test most list).Sublist list := by
  induction list with
  | nil => exact List.Sublist.refl _
  | cons oldest rest inductionHypothesis =>
      unfold shrink
      split
      · exact inductionHypothesis.cons oldest
      · exact inductionHypothesis.cons_cons oldest

/-- Nothing goes if no more than that pass the test. -/
theorem shrink_of_le (within : list.countP test ≤ most) :
    shrink test most list = list := by
  induction list with
  | nil => rfl
  | cons oldest rest inductionHypothesis =>
      have restWithin : rest.countP test ≤ most :=
        Nat.le_trans (List.sublist_cons_self _ _).countP_le within
      unfold shrink
      split
      next excess =>
        rw [List.countP_cons_of_pos excess.1] at within
        exact absurd excess.2 (Nat.not_lt.mpr within)
      next => rw [inductionHypothesis restWithin]

/-- Of one member too many the oldest one goes. -/
theorem shrink_of_eq_succ (excess : list.countP test = most + 1) :
    shrink test most list = list.eraseP test := by
  induction list with
  | nil => rfl
  | cons oldest rest inductionHypothesis =>
      by_cases passes : test oldest = true
      · rw [List.countP_cons_of_pos passes] at excess
        have restWithin : rest.countP test = most := Nat.succ.inj excess
        have tooMany : most < rest.countP test + 1 := by
          rw [restWithin]
          exact Nat.lt_succ_self most
        rw [shrink, if_pos ⟨passes, tooMany⟩,
          List.eraseP_cons_of_pos passes]
        exact shrink_of_le (Nat.le_of_eq restWithin)
      · rw [List.countP_cons_of_neg passes] at excess
        rw [shrink, if_neg (fun both => passes both.1),
          List.eraseP_cons_of_neg passes, inductionHypothesis excess]

/-- No more than that remain of those that pass the test. -/
theorem countP_shrink_le (test : α → Bool) (most : Nat) (list : List α) :
    (shrink test most list).countP test ≤ most := by
  induction list with
  | nil => exact Nat.zero_le _
  | cons oldest rest inductionHypothesis =>
      unfold shrink
      split
      next => exact inductionHypothesis
      next fits =>
        by_cases passes : test oldest = true
        · have restWithin : rest.countP test + 1 ≤ most :=
            Nat.not_lt.mp fun excess => fits ⟨passes, excess⟩
          rw [List.countP_cons_of_pos passes,
            shrink_of_le (Nat.le_of_succ_le restWithin)]
          exact restWithin
        · rw [List.countP_cons_of_neg passes]
          exact inductionHypothesis

/-- Of three even members the two oldest go. -/
example : shrink (fun member => member % 2 == 0) 1 [2, 3, 4, 6] = [3, 6] := by
  decide

/-- Members may be looked at through a function that the test looks through. -/
theorem map_shrink
    (change : β → α)
    (test : α → Bool)
    (most : Nat)
    (list : List β) :
    (shrink (fun member => test (change member)) most list).map change =
      shrink test most (list.map change) := by
  induction list with
  | nil => rfl
  | cons oldest rest inductionHypothesis =>
      have sameCount :
          (rest.map change).countP test =
            rest.countP fun member => test (change member) := by
        rw [List.countP_map]
        rfl
      rw [List.map_cons, shrink, shrink, sameCount]
      split
      · exact inductionHypothesis
      · rw [List.map_cons, inductionHypothesis]

/-- What a list may become when something is put at its end. -/
inductive PutAtEnd (list : List α) (newest : α) : List α → Prop where
  | kept : PutAtEnd list newest (list ++ [newest])
  /-- One member has gone, and it is not the new one. -/
  | evicted
      (front : List α)
      (gone : α)
      (back : List α)
      (list_eq : list = front ++ gone :: back) :
      PutAtEnd list newest (front ++ back ++ [newest])

/-- Where not too many members were, one that is added lets one go at most. -/
theorem putAtEnd_shrink
    (within : list.countP test ≤ most)
    (positive : 0 < most)
    (newest : α) :
    PutAtEnd list newest (shrink test most (list ++ [newest])) := by
  by_cases stillWithin : (list ++ [newest]).countP test ≤ most
  · rw [shrink_of_le stillWithin]
    exact .kept
  · have excess := Nat.not_le.mp stillWithin
    have oneMore : (list ++ [newest]).countP test = most + 1 := by
      rw [List.countP_append] at excess ⊢
      have := List.countP_le_length (p := test) (l := [newest])
      rw [List.length_singleton] at this
      omega
    -- The new member alone does not make it too many.
    have someOlder : 0 < list.countP test := by
      rw [List.countP_append] at oneMore
      have := List.countP_le_length (p := test) (l := [newest])
      rw [List.length_singleton] at this
      omega
    obtain ⟨older, member, passes⟩ := List.countP_pos_iff.mp someOlder
    obtain ⟨gone, front, back, _, _, listEq, erasedEq⟩ :=
      List.exists_of_eraseP member passes
    rw [shrink_of_eq_succ oneMore, List.eraseP_append_left passes _ member,
      erasedEq]
    exact .evicted front gone back listEq

end Shrinking

/-- The records of a shelf, oldest first, and how many there may be. -/
structure AssetRow where
  capacity : Nat
  /-- How many records of a type there may be, for the types that are limited. -/
  limits : SortedMap String Nat
  records : List Asset := []

/-- What can be asked of a store of assets. -/
inductive AssetCall where
  | upsert (asset : Asset)
  | remove (id : String) (timestamp : Timestamp)
  | removeAll (kind? device? : Option String) (timestamp : Timestamp)
  | get (id : String)
  | list (query : AssetQuery)
  | count
  | size
  | countByKind

/-- What a store of assets answers. -/
inductive AssetAnswer where
  | record (outcome : Except Fault Asset)
  | records (records : List Asset)
  | number (number : Nat)
  | numbers (numbers : SortedMap String Nat)

/-- The answers to calls that follow each other, and what becomes of the store. -/
def AssetCall.run
    {Store : Type}
    (answer : Store → AssetCall → AssetAnswer × Store)
    (store : Store) :
    List AssetCall → List AssetAnswer × Store
  | [] => ([], store)
  | call :: rest =>
      let answered := answer store call
      let later := run answer answered.2 rest
      (answered.1 :: later.1, later.2)

namespace AssetRow

/-- The record of an identifier, tombstone or not. -/
def get (row : AssetRow) (id : String) : Except Fault Asset :=
  match row.records.find? fun record => record.id == id with
  | none => .error (.assetNotFound id)
  | some record => .ok record

/-- Records of which there are not too many of a type. -/
def limited
    (row : AssetRow)
    (kind : String)
    (records : List Asset) :
    List Asset :=
  match row.limits.find? kind with
  | none => records
  | some limit =>
      shrink (fun record => record.kind == kind) (max limit 1) records

/-- The records with other identifiers than an asset. -/
def others (row : AssetRow) (asset : Asset) : List Asset :=
  row.records.filter fun record => record.id != asset.id

/-- Delete the record with the identifier of an asset, append the asset, and let the oldest go. -/
def upsert (row : AssetRow) (asset : Asset) : AssetRow :=
  { row with
    records :=
      shrink (fun _ => true) (max row.capacity 1)
        (row.limited asset.kind (row.others asset ++ [asset])) }

/-- Put tombstones in the places of the records that pass a test. -/
def bury
    (row : AssetRow)
    (test : Asset → Bool)
    (timestamp : Timestamp) :
    AssetRow :=
  { row with
    records :=
      row.records.map fun record =>
        if test record then record.tombstone timestamp else record }

/-- Replace a live record by its tombstone; a tombstone stays as it is. -/
def remove
    (row : AssetRow)
    (id : String)
    (timestamp : Timestamp) :
    Except Fault Asset × AssetRow :=
  match row.get id with
  | .error fault => (.error fault, row)
  | .ok record =>
      if record.removed then
        (.ok record, row)
      else
        (.ok (record.tombstone timestamp),
          row.bury (fun other => other.id == id) timestamp)

/-- Replace all live records of a type and a device by their tombstones. -/
def removeAll
    (row : AssetRow)
    (kind? device? : Option String)
    (timestamp : Timestamp) :
    List Asset × AssetRow :=
  ((row.records.filter (AssetShelf.isTarget kind? device?)).map
      fun record => record.tombstone timestamp,
    row.bury (AssetShelf.isTarget kind? device?) timestamp)

/-- The records that a query selects, newest first. -/
def list (row : AssetRow) (query : AssetQuery) : List Asset :=
  let found := row.records.reverse.filter fun record => query.admits record
  match query.count with
  | none => found
  | some count => found.take count

/-- How many live records there are of a type. -/
def liveOf (row : AssetRow) (kind : String) : Nat :=
  row.records.countP fun record => record.isLive && record.kind == kind

/-- For the type of each live record, how many live ones there are. -/
def countByKind (row : AssetRow) : SortedMap String Nat :=
  .ofList
    ((row.records.filter Asset.isLive).map fun record =>
      (record.kind, row.liveOf record.kind))

/-- What a row answers to a call, and what becomes of it. -/
def answer (row : AssetRow) : AssetCall → AssetAnswer × AssetRow
  | .upsert asset => (.record (.ok asset), row.upsert asset)
  | .remove id timestamp =>
      let (outcome, left) := row.remove id timestamp
      (.record outcome, left)
  | .removeAll kind? device? timestamp =>
      let (tombstones, left) := row.removeAll kind? device? timestamp
      (.records tombstones, left)
  | .get id => (.record (row.get id), row)
  | .list query => (.records (row.list query), row)
  | .count => (.number (row.records.countP Asset.isLive), row)
  | .size => (.number row.records.length, row)
  | .countByKind => (.numbers row.countByKind, row)

/-- No bound is exceeded. -/
structure Fits (row : AssetRow) : Prop where
  length_le : row.records.length ≤ max row.capacity 1
  kind_le :
    ∀ kind limit,
      row.limits.find? kind = some limit →
      row.records.countP (fun record => record.kind == kind) ≤ max limit 1

/-- A record that is stored stands at the end, and one other one goes at most. -/
theorem Fits.putAtEnd_upsert
    {row : AssetRow}
    (fits : row.Fits)
    (asset : Asset) :
    PutAtEnd (row.others asset) asset (row.upsert asset).records := by
  have fewer : (row.others asset).Sublist row.records := List.filter_sublist
  have others_le : (row.others asset).length ≤ max row.capacity 1 :=
    Nat.le_trans fewer.length_le fits.length_le
  have withinAll :
      (row.others asset).countP (fun _ => true) ≤ max row.capacity 1 := by
    rw [List.countP_true]
    exact others_le
  have fromAll :
      PutAtEnd (row.others asset) asset
        (shrink (fun _ => true) (max row.capacity 1)
          (row.others asset ++ [asset])) :=
    putAtEnd_shrink withinAll (Nat.le_max_right _ _) asset
  unfold upsert limited
  dsimp only
  split
  next => exact fromAll
  next limit isLimited =>
    have withinKind :=
      Nat.le_trans (fewer.countP_le (p := fun record => record.kind == asset.kind))
        (fits.kind_le asset.kind limit isLimited)
    have ofKind :=
      putAtEnd_shrink withinKind (Nat.le_max_right _ _) asset
    generalize shrink (fun record => record.kind == asset.kind) (max limit 1)
      (row.others asset ++ [asset]) = left at ofKind ⊢
    cases ofKind with
    | kept => exact fromAll
    | evicted front gone back othersEq =>
        -- In the place of the one that has gone there is room for the new one.
        have withinNow :
            (front ++ back ++ [asset]).countP (fun _ => true) ≤
              max row.capacity 1 := by
          rw [othersEq] at others_le
          simpa using others_le
        rw [shrink_of_le withinNow]
        exact .evicted front gone back othersEq

theorem kind_bury
    (test : Asset → Bool)
    (timestamp : Timestamp)
    (record : Asset) :
    (if test record then record.tombstone timestamp else record).kind =
      record.kind := by
  split <;> rfl

/-- Tombstones in the places of records exceed no bound. -/
theorem Fits.bury
    {row : AssetRow}
    (fits : row.Fits)
    (test : Asset → Bool)
    (timestamp : Timestamp) :
    (row.bury test timestamp).Fits where
  length_le := by
    rw [AssetRow.bury, List.length_map]
    exact fits.length_le
  kind_le := by
    intro kind limit isLimited
    rw [AssetRow.bury, List.countP_map]
    refine Nat.le_trans (Nat.le_of_eq ?_) (fits.kind_le kind limit isLimited)
    refine List.countP_congr fun record _ => ?_
    rw [Function.comp_apply, kind_bury]

/-- A record that is stored exceeds no bound, since others go for it. -/
theorem Fits.upsert
    {row : AssetRow}
    (fits : row.Fits)
    (asset : Asset) :
    (row.upsert asset).Fits where
  length_le := by
    have within :=
      countP_shrink_le (fun _ => true) (max row.capacity 1)
        (row.limited asset.kind (row.others asset ++ [asset]))
    rw [List.countP_true] at within
    exact within
  kind_le := by
    intro kind limit isLimited
    have fromLimited :
        (row.upsert asset).records.Sublist
          (row.limited asset.kind (row.others asset ++ [asset])) :=
      shrink_sublist _ _ _
    refine Nat.le_trans fromLimited.countP_le ?_
    by_cases sameKind : asset.kind = kind
    · have isLimited : row.limits.find? asset.kind = some limit :=
        sameKind ▸ isLimited
      rw [limited, isLimited, sameKind]
      exact countP_shrink_le _ _ _
    · have fromOthers :
          (row.limited asset.kind (row.others asset ++ [asset])).Sublist
            (row.others asset ++ [asset]) := by
        unfold limited
        split
        · exact List.Sublist.refl _
        · exact shrink_sublist _ _ _
      refine Nat.le_trans fromOthers.countP_le ?_
      have otherKind : ¬ (asset.kind == kind) = true := by
        simpa using sameKind
      rw [List.countP_append, List.countP_singleton, if_neg otherKind]
      exact
        Nat.le_trans (List.filter_sublist.countP_le)
          (fits.kind_le kind limit isLimited)

/-- No call makes a bound be exceeded. -/
theorem Fits.answer
    {row : AssetRow}
    (fits : row.Fits)
    (call : AssetCall) :
    (row.answer call).2.Fits := by
  cases call with
  | upsert asset => exact fits.upsert asset
  | remove id timestamp =>
      unfold AssetRow.answer AssetRow.remove
      dsimp only
      split
      next => exact fits
      next =>
        split
        · exact fits
        · exact fits.bury _ timestamp
  | removeAll kind? device? timestamp => exact fits.bury _ timestamp
  | get id => exact fits
  | list query => exact fits
  | count => exact fits
  | size => exact fits
  | countByKind => exact fits

end AssetRow

end MTConnect
