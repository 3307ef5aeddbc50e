import Mathlib.Data.List.Basic
import MTConnect.Proofs.Asset.Trim

namespace MTConnect

/-!
# A shelf of assets is a row of records

Whatever calls are made, a shelf answers each of them as a row of records with
the same bounds does, and its indexes go on to describe the records of that row.
-/

namespace AssetShelf

/-- What a shelf answers to a call, and what becomes of it. -/
def answer (shelf : AssetShelf) : AssetCall → AssetAnswer × AssetShelf
  | .upsert asset => (.record (.ok asset), shelf.upsert asset)
  | .remove id timestamp =>
      match shelf.remove id timestamp with
      | .error fault => (.record (.error fault), shelf)
      | .ok (asset, left) => (.record (.ok asset), left)
  | .removeAll kind? device? timestamp =>
      let (tombstones, left) := shelf.removeAll kind? device? timestamp
      (.records tombstones, left)
  | .get id => (.record (shelf.get id), shelf)
  | .list query => (.records (shelf.list query), shelf)
  | .count => (.number shelf.liveCount, shelf)
  | .size => (.number shelf.size, shelf)
  | .countByKind => (.numbers shelf.countByKind, shelf)

variable
  {shelf : AssetShelf}
  {row : AssetRow}
  {line front back : List Slot}
  {slot : Slot}

namespace Arranges

theorem values_perm (arranges : shelf.Arranges line) :
    shelf.slots.values.Perm line := by
  have values := arranges.slots_perm.map Prod.snd
  rw [List.map_map] at values
  simpa only [SortedMap.values, Function.comp_def, List.map_id'] using values

/-- The index by identifiers finds what a search of the line finds. -/
theorem find?_slots (arranges : shelf.Arranges line) (id : String) :
    shelf.slots.find? id = line.find? fun slot => slot.asset.id == id := by
  cases found : line.find? fun slot => slot.asset.id == id with
  | some slot =>
      have isSlot : slot.asset.id = id := by
        simpa using List.find?_some found
      exact
        arranges.find?_slots_iff.mpr
          ⟨List.mem_of_find?_eq_some found, isSlot⟩
  | none =>
      rw [Option.eq_none_iff_forall_ne_some]
      intro slot alsoFound
      obtain ⟨member, rfl⟩ := arranges.find?_slots_iff.mp alsoFound
      have := List.find?_eq_none.mp found slot member
      simp at this

theorem values_order_eq (arranges : shelf.Arranges line) :
    shelf.order.values = line.map fun slot => slot.asset.id := by
  rw [SortedMap.values, arranges.order_eq, List.map_map]
  rfl

/-- The assets of the line are the records of the shelf, oldest first. -/
theorem toList_eq (arranges : shelf.Arranges line) :
    shelf.toList = line.map Slot.asset := by
  have found :
      ∀ slot ∈ line,
        shelf.asset? slot.asset.id = some slot.asset := by
    intro slot member
    rw [asset?, arranges.find?_slots_iff.mpr ⟨member, rfl⟩]
    rfl
  rw [toList, arranges.values_order_eq, List.filterMap_map]
  exact List.filterMap_eq_map_iff_forall_eq_some.mpr found

theorem nodup_ids (arranges : shelf.Arranges line) :
    ((line.map Slot.asset).map Asset.id).Nodup := by
  have keys := (arranges.slots_perm.map Prod.fst).nodup_iff.mp shelf.slots.nodup_keys
  rw [List.map_map] at keys ⊢
  exact keys

/-- Burying what has the identifier of a slot changes the record of this slot only. -/
theorem map_tombstone_of_split
    (arranges : shelf.Arranges (front ++ slot :: back))
    (timestamp : Timestamp) :
    ((front ++ slot :: back).map Slot.asset).map
        (fun record =>
          if record.id == slot.asset.id then
            record.tombstone timestamp
          else
            record) =
      (front ++
        { slot with asset := slot.asset.tombstone timestamp } ::
          back).map Slot.asset := by
  obtain ⟨inFront, inBack⟩ := arranges.ids_ne_of_split
  have unchanged
      {part : List Slot}
      (differ : ∀ other ∈ part, other.asset.id ≠ slot.asset.id) :
      (part.map Slot.asset).map
          (fun record =>
            if record.id == slot.asset.id then
              record.tombstone timestamp
            else
              record) =
        part.map Slot.asset := by
    rw [List.map_map]
    refine List.map_congr_left fun other member => ?_
    simp [differ other member]
  simp only [List.map_append, List.map_cons, unchanged inFront,
    unchanged inBack, beq_self_eq_true, if_true]

/-- A bulk removal goes along the line and leaves tombstones in the places of its targets. -/
theorem removeTargets
    {done todo : List Slot}
    (arranges : shelf.Arranges (done ++ todo))
    (kind? device? : Option String)
    (timestamp : Timestamp)
    (soFar : List Asset) :
    ∃ next line,
      (todo.map fun slot => slot.asset.id).foldl
            (removeTarget kind? device? timestamp) (soFar, shelf) =
          (soFar ++
            ((todo.map Slot.asset).filter (isTarget kind? device?)).map
              fun record => record.tombstone timestamp,
            next) ∧
        shelf.SameBounds next ∧
        next.Arranges (done ++ line) ∧
        line.map Slot.asset =
          (todo.map Slot.asset).map fun record =>
            if isTarget kind? device? record then
              record.tombstone timestamp
            else
              record := by
  -- The removal has passed `done`, where nothing changes any more.
  induction todo generalizing shelf done soFar with
  | nil =>
      refine ⟨shelf, [], ?_, .refl shelf, arranges, rfl⟩
      rw [List.map_nil, List.map_nil, List.filter_nil, List.map_nil,
        List.append_nil]
      rfl
  | cons slot rest inductionHypothesis =>
      have found : shelf.slots.find? slot.asset.id = some slot :=
        arranges.find?_slots_iff.mpr ⟨by simp, rfl⟩
      by_cases target : isTarget kind? device? slot.asset = true
      · have buried := arranges.bury timestamp
        rw [List.append_cons] at buried
        obtain ⟨next, line, foldEq, bounds, arranged, lineEq⟩ :=
          inductionHypothesis buried
            (soFar ++ [slot.asset.tombstone timestamp])
        have buriedBounds :
            shelf.SameBounds (shelf.bury slot.asset.id slot timestamp) :=
          ⟨rfl, rfl⟩
        refine
          ⟨next,
            { slot with asset := slot.asset.tombstone timestamp } :: line,
            ?_, buriedBounds.trans bounds, ?_, ?_⟩
        · simp only [List.map_cons, List.foldl_cons, removeTarget, found,
            target, if_true, List.filter_cons_of_pos]
          rw [foldEq]
          simp
        · rw [List.append_cons]
          exact arranged
        · rw [List.map_cons, lineEq, List.map_cons, List.map_cons,
            if_pos target]
      · have kept := arranges
        rw [List.append_cons] at kept
        obtain ⟨next, line, foldEq, bounds, arranged, lineEq⟩ :=
          inductionHypothesis kept soFar
        refine ⟨next, slot :: line, ?_, bounds, ?_, ?_⟩
        · simp only [List.map_cons, List.foldl_cons, removeTarget, found,
            target, Bool.false_eq_true, if_false]
          rw [foldEq, List.filter_cons_of_neg target]
        · rw [List.append_cons]
          exact arranged
        · rw [List.map_cons, lineEq, List.map_cons, List.map_cons,
            if_neg target]

end Arranges

/-- A shelf and a row give the same answer, and what becomes of them agrees again. -/
structure AnswersAlike
    {Answer : Type}
    (outcome : Answer × AssetShelf)
    (expected : Answer × AssetRow) : Prop where
  answer_eq : outcome.1 = expected.1
  refines : outcome.2.Refines expected.2

namespace Refines

theorem toList_eq (refines : shelf.Refines row) :
    shelf.toList = row.records := by
  obtain ⟨line, arranges, recordsEq⟩ := refines.arranged
  exact arranges.toList_eq.trans recordsEq

/-- The shelf finds a record as the row does. -/
theorem get_eq (refines : shelf.Refines row) (id : String) :
    shelf.get id = row.get id := by
  obtain ⟨line, arranges, recordsEq⟩ := refines.arranged
  have found :
      (row.records.find? fun record => record.id == id) = shelf.asset? id := by
    rw [asset?, arranges.find?_slots, ← recordsEq, List.find?_map]
    rfl
  rw [AssetShelf.get, AssetRow.get, found]
  cases shelf.asset? id with
  | none => rfl
  | some asset => rfl

theorem list_eq (refines : shelf.Refines row) (query : AssetQuery) :
    shelf.list query = row.list query := by
  unfold AssetShelf.list AssetRow.list
  cases query.count with
  | none => rw [refines.toList_eq]
  | some count => rw [refines.toList_eq]

theorem size_eq (refines : shelf.Refines row) :
    shelf.size = row.records.length := by
  obtain ⟨line, arranges, recordsEq⟩ := refines.arranged
  rw [size, arranges.size_eq, ← recordsEq, List.length_map]

theorem liveCount_eq (refines : shelf.Refines row) :
    shelf.liveCount = row.records.countP Asset.isLive := by
  obtain ⟨line, arranges, recordsEq⟩ := refines.arranged
  rw [liveCount, ← List.countP_eq_length_filter,
    arranges.values_perm.countP_eq, ← recordsEq, List.countP_map]
  rfl

/-- The shelf counts the live records of each type as the row does. -/
theorem countByKind_eq (refines : shelf.Refines row) :
    shelf.countByKind = row.countByKind := by
  obtain ⟨line, arranges, recordsEq⟩ := refines.arranged
  refine SortedMap.ext_find? fun kind => ?_
  have sameCount :
      ((shelf.slots.values.filter fun slot => slot.asset.isLive).countP
          fun slot => slot.asset.kind == kind) =
        row.liveOf kind := by
    rw [List.countP_filter, arranges.values_perm.countP_eq, AssetRow.liveOf,
      ← recordsEq, List.countP_map]
    refine List.countP_congr fun slot _ => ?_
    rw [Bool.and_comm]
    rfl
  have byKind :
      ∀ entry ∈
        (row.records.filter Asset.isLive).map fun record =>
          (record.kind, row.liveOf record.kind),
        entry.2 = row.liveOf entry.1 := by
    intro entry member
    obtain ⟨record, _, rfl⟩ := List.mem_map.mp member
    rfl
  have listed :
      kind ∈
          ((row.records.filter Asset.isLive).map fun record =>
            (record.kind, row.liveOf record.kind)).map Prod.fst ↔
        0 < row.liveOf kind := by
    rw [List.map_map, List.mem_map, AssetRow.liveOf, List.countP_pos_iff]
    simp [and_assoc]
  rw [AssetShelf.countByKind, SortedMap.find?_tally, sameCount, AssetRow.countByKind,
    SortedMap.find?_ofList byKind]
  simp only [listed, SortedMap.find?_empty, Option.getD_none, Nat.zero_add]
  by_cases nothing : row.liveOf kind = 0
  · simp [nothing]
  · simp [nothing, Nat.pos_of_ne_zero nothing]

/-- Removing an asset from a shelf is removing it from a row. -/
theorem remove
    (refines : shelf.Refines row)
    (id : String)
    (timestamp : Timestamp) :
    AnswersAlike
      (shelf.answer (.remove id timestamp))
      (row.answer (.remove id timestamp)) := by
  have getEq := (refines.get_eq id).symm
  unfold answer AssetShelf.remove AssetRow.answer AssetRow.remove
  dsimp only
  cases found : shelf.slots.find? id with
  | none =>
      have absent : row.get id = .error (.assetNotFound id) := by
        rw [getEq, AssetShelf.get, asset?, found]
        rfl
      rw [absent]
      exact ⟨rfl, refines⟩
  | some slot =>
      have present : row.get id = .ok slot.asset := by
        rw [getEq, AssetShelf.get, asset?, found]
        rfl
      rw [present]
      dsimp only
      by_cases isTombstone : slot.asset.removed = true
      · rw [if_pos isTombstone, if_pos isTombstone]
        exact ⟨rfl, refines⟩
      · rw [if_neg isTombstone, if_neg isTombstone]
        obtain ⟨line, arranges, recordsEq⟩ := refines.arranged
        obtain ⟨member, rfl⟩ := arranges.find?_slots_iff.mp found
        obtain ⟨front, back, rfl⟩ := List.append_of_mem member
        refine ⟨rfl, refines.capacity_eq, refines.limits_eq, ?_⟩
        refine ⟨_, arranges.bury timestamp, ?_⟩
        rw [← arranges.map_tombstone_of_split, recordsEq]
        rfl

/-- A bulk removal is answered as by the row. -/
theorem removeAll
    (refines : shelf.Refines row)
    (kind? device? : Option String)
    (timestamp : Timestamp) :
    AnswersAlike
      (shelf.answer (.removeAll kind? device? timestamp))
      (row.answer (.removeAll kind? device? timestamp)) := by
  obtain ⟨line, arranges, recordsEq⟩ := refines.arranged
  have fromStart : shelf.Arranges ([] ++ line) := arranges
  obtain ⟨next, left, removedEq, bounds, arranged, leftEq⟩ :=
    fromStart.removeTargets kind? device? timestamp []
  rw [← arranges.values_order_eq, recordsEq] at removedEq
  unfold answer AssetShelf.removeAll AssetRow.answer AssetRow.removeAll
  dsimp only
  rw [removedEq]
  refine
    ⟨rfl, bounds.capacity_eq.trans refines.capacity_eq,
      bounds.limits_eq.trans refines.limits_eq, left, arranged, ?_⟩
  rw [leftEq, recordsEq]
  rfl

/-- Each call is answered alike, and leaves a shelf and a row that agree again. -/
theorem answer
    (refines : shelf.Refines row)
    (call : AssetCall) :
    AnswersAlike (shelf.answer call) (row.answer call) := by
  cases call with
  | upsert asset => exact ⟨rfl, refines.upsert asset⟩
  | remove id timestamp => exact refines.remove id timestamp
  | removeAll kind? device? timestamp =>
      exact refines.removeAll kind? device? timestamp
  | get id => exact ⟨congrArg _ (refines.get_eq id), refines⟩
  | list query => exact ⟨congrArg _ (refines.list_eq query), refines⟩
  | count => exact ⟨congrArg _ refines.liveCount_eq, refines⟩
  | size => exact ⟨congrArg _ refines.size_eq, refines⟩
  | countByKind => exact ⟨congrArg _ refines.countByKind_eq, refines⟩

end Refines

/-- What a shelf does that holds the records of a row. -/
structure Mirrors (shelf : AssetShelf) (row : AssetRow) : Prop where
  toList_eq : shelf.toList = row.records
  nodup_ids : (row.records.map Asset.id).Nodup
  /-- The indexes describe one line, and its assets are the records. -/
  arranged : ∃ line, shelf.Arranges line ∧ line.map Slot.asset = row.records
  /-- What is stored stays, and lets one other record go at most. -/
  putAtEnd :
    ∀ asset,
      PutAtEnd
        (shelf.toList.filter fun record => record.id != asset.id)
        asset
        (shelf.upsert asset).toList

/-- A shelf that holds the records of a row does all that the row does. -/
theorem Refines.mirrors
    (refines : shelf.Refines row)
    (fits : row.Fits) :
    shelf.Mirrors row where
  toList_eq := refines.toList_eq
  nodup_ids := by
    obtain ⟨line, arranges, recordsEq⟩ := refines.arranged
    exact recordsEq ▸ arranges.nodup_ids
  arranged := refines.arranged
  putAtEnd := by
    intro asset
    rw [(refines.upsert asset).toList_eq, refines.toList_eq]
    exact fits.putAtEnd_upsert asset

/-- Calls that follow each other are answered alike, and no bound is exceeded. -/
theorem Refines.run
    (refines : shelf.Refines row)
    (fits : row.Fits)
    (calls : List AssetCall) :
    AnswersAlike
        (AssetCall.run AssetShelf.answer shelf calls)
        (AssetCall.run AssetRow.answer row calls) ∧
      (AssetCall.run AssetRow.answer row calls).2.Fits := by
  induction calls generalizing shelf row with
  | nil => exact ⟨⟨rfl, refines⟩, fits⟩
  | cons call rest inductionHypothesis =>
      obtain ⟨answerEq, nextRefines⟩ := refines.answer call
      obtain ⟨⟨othersEq, finalRefines⟩, finalFits⟩ :=
        inductionHypothesis nextRefines (fits.answer call)
      refine ⟨⟨?_, finalRefines⟩, finalFits⟩
      unfold AssetCall.run
      dsimp only
      rw [answerEq, othersEq]

/-- Whatever it is asked, a shelf answers as a row of records does, and holds its records. -/
theorem mirrors_row
    (capacity : Nat)
    (limits : SortedMap String Nat)
    (calls : List AssetCall) :
    (AssetCall.run AssetShelf.answer (.empty capacity limits) calls).1 =
        (AssetCall.run AssetRow.answer
          { capacity := capacity, limits := limits } calls).1 ∧
      (AssetCall.run AssetShelf.answer (.empty capacity limits) calls).2.Mirrors
        (AssetCall.run AssetRow.answer
          { capacity := capacity, limits := limits } calls).2 := by
  have nothingYet : AssetRow.Fits { capacity := capacity, limits := limits } :=
    { length_le := Nat.zero_le _
      kind_le := fun _ _ _ => Nat.zero_le _ }
  obtain ⟨⟨answersEq, refines⟩, fits⟩ :=
    (refines_empty capacity limits).run nothingYet calls
  exact ⟨answersEq, refines.mirrors fits⟩

/-- Of a type that is limited to one record the older one goes, though there is room. -/
example :
    let tool (id : String) : Asset :=
      { id := id, kind := "Tool", device := "d", timestamp := ⟨0⟩
        removed := false, payload := "" }
    (AssetCall.run AssetShelf.answer (.empty 3 (.singleton "Tool" 1))
        [.upsert (tool "a"), .upsert (tool "b"), .list {}]).1 =
      [.record (.ok (tool "a")), .record (.ok (tool "b")),
        .records [tool "b"]] := by
  rfl

end AssetShelf

end MTConnect
