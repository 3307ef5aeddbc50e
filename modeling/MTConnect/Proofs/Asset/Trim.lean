import MTConnect.Proofs.Asset.Arrangement
import MTConnect.Proofs.Asset.Row

namespace MTConnect

/-!
# Storing an asset on a shelf

A shelf lets assets go by their stamps: it looks up the oldest stamps of a type, or
of all, and takes the assets with these stamps off one after the other. In the
line behind the shelf this is shrinking, and storing an asset is what a row does.
-/

/-- In a line, the oldest members of a kind are those with its first stamps. -/
theorem filter_stamps_eq_shrink
    {line : List Slot}
    (ascending :
      line.Pairwise fun earlier later => earlier.stamp < later.stamp)
    (test : Slot → Bool)
    (most : Nat) :
    (line.filter fun slot =>
        !(((line.filter test).map Slot.stamp).take
          (line.countP test - most)).contains slot.stamp) =
      shrink test most line := by
  induction line with
  | nil => rfl
  | cons oldest rest inductionHypothesis =>
      obtain ⟨oldestBelow, restAscending⟩ := List.pairwise_cons.mp ascending
      have rest_eq := inductionHypothesis restAscending
      by_cases passes : test oldest = true
      · rw [List.filter_cons_of_pos passes, List.countP_cons_of_pos passes,
          List.map_cons]
        by_cases excess : most < rest.countP test + 1
        · -- The oldest one goes, and its stamp is not asked for again.
          have oneMore :
              rest.countP test + 1 - most = rest.countP test - most + 1 := by
            omega
          have sameRest :
              (rest.filter fun slot =>
                  !(oldest.stamp ::
                    ((rest.filter test).map Slot.stamp).take
                      (rest.countP test - most)).contains slot.stamp) =
                rest.filter fun slot =>
                  !(((rest.filter test).map Slot.stamp).take
                    (rest.countP test - most)).contains slot.stamp := by
            apply List.filter_congr
            intro slot member
            have differs : (slot.stamp == oldest.stamp) = false :=
              beq_false_of_ne (Nat.ne_of_gt (oldestBelow slot member))
            rw [List.contains_cons, differs, Bool.false_or]
          rw [oneMore, List.take_succ_cons, List.filter_cons_of_neg (by simp),
            sameRest, rest_eq, shrink, if_pos ⟨passes, excess⟩]
        · -- Nothing has to go from here on.
          have within : (oldest :: rest).countP test ≤ most := by
            rw [List.countP_cons_of_pos passes]
            exact Nat.not_lt.mp excess
          have nothing : rest.countP test + 1 - most = 0 := by omega
          rw [nothing, List.take_zero, shrink_of_le within]
          exact List.filter_eq_self.mpr fun _ _ => rfl
      · rw [List.filter_cons_of_neg passes, List.countP_cons_of_neg passes,
          shrink, if_neg fun both => passes both.1]
        have notTaken :
            oldest.stamp ∉
              ((rest.filter test).map Slot.stamp).take
                (rest.countP test - most) := by
          intro taken
          obtain ⟨slot, inFilter, same⟩ :=
            List.mem_map.mp (List.mem_of_mem_take taken)
          have below := oldestBelow slot (List.mem_filter.mp inFilter).1
          rw [same] at below
          exact Nat.lt_irrefl _ below
        rw [List.filter_cons_of_pos (by simpa using notTaken), rest_eq]

namespace AssetShelf

variable {shelf : AssetShelf} {line : List Slot}

/-- A shelf keeps its bounds, whatever is done to it. -/
structure SameBounds (shelf next : AssetShelf) : Prop where
  capacity_eq : next.capacity = shelf.capacity
  limits_eq : next.limits = shelf.limits

namespace SameBounds

theorem refl (shelf : AssetShelf) : shelf.SameBounds shelf :=
  ⟨rfl, rfl⟩

theorem trans
    {next final : AssetShelf}
    (first : shelf.SameBounds next)
    (second : next.SameBounds final) :
    shelf.SameBounds final :=
  ⟨second.capacity_eq.trans first.capacity_eq,
    second.limits_eq.trans first.limits_eq⟩

theorem detach (shelf : AssetShelf) (id : String) :
    shelf.SameBounds (shelf.detach id) := by
  unfold AssetShelf.detach
  split
  · exact refl shelf
  · exact ⟨rfl, rfl⟩

/-- Evictions keep the bounds. -/
theorem evictAll (shelf : AssetShelf) (stamps : List Nat) :
    shelf.SameBounds (shelf.evictAll stamps) := by
  induction stamps generalizing shelf with
  | nil => exact refl shelf
  | cons stamp rest inductionHypothesis =>
      refine trans ?_ (inductionHypothesis (shelf.evict stamp))
      unfold evict
      split
      · exact refl shelf
      · exact detach shelf _

theorem trimKind (shelf : AssetShelf) (kind : String) :
    shelf.SameBounds (shelf.trimKind kind) := by
  unfold AssetShelf.trimKind
  split
  · exact refl shelf
  · exact evictAll shelf _

/-- To store a record keeps the bounds. -/
theorem upsert (shelf : AssetShelf) (asset : Asset) :
    shelf.SameBounds (shelf.upsert asset) := by
  have attached :
      (shelf.detach asset.id).SameBounds
        ((shelf.detach asset.id).attach asset) :=
    ⟨rfl, rfl⟩
  exact
    (((detach shelf asset.id).trans attached).trans
      (trimKind _ asset.kind)).trans (evictAll _ _)

end SameBounds

namespace Arranges

/-- Taking off the oldest assets that pass a test shrinks the line. -/
theorem evictAll_oldest
    (arranges : shelf.Arranges line)
    (test : Slot → Bool)
    (most : Nat) :
    (shelf.evictAll
        (((line.filter test).map Slot.stamp).take
          (line.countP test - most))).Arranges
      (shrink test most line) := by
  rw [← filter_stamps_eq_shrink arranges.ascending test most]
  exact arranges.evictAll _

/-- To trim a type lets its oldest assets go out of the line. -/
theorem trimKind (arranges : shelf.Arranges line) (kind : String) :
    (shelf.trimKind kind).Arranges
      (match shelf.limits.find? kind with
        | none => line
        | some limit =>
            shrink (fun slot => slot.asset.kind == kind) (max limit 1)
              line) := by
  unfold AssetShelf.trimKind
  cases shelf.limits.find? kind with
  | none => exact arranges
  | some limit =>
      dsimp only
      rw [arranges.stampsOf_eq kind, stampsIn, List.length_map,
        ← List.countP_eq_length_filter]
      exact arranges.evictAll_oldest _ (max limit 1)

theorem size_eq (arranges : shelf.Arranges line) :
    shelf.slots.size = line.length := by
  rw [SortedMap.size, arranges.slots_perm.length_eq, List.length_map]

/-- To trim a shelf lets the oldest assets go out of the line. -/
theorem trim (arranges : shelf.Arranges line) :
    shelf.trim.Arranges (shrink (fun _ => true) shelf.capacity line) := by
  have keysEq : shelf.order.keys = line.map Slot.stamp := by
    rw [SortedMap.keys, arranges.order_eq, List.map_map]
    rfl
  have allPass : (line.filter fun _ => true) = line :=
    List.filter_eq_self.mpr fun _ _ => rfl
  have oldest := arranges.evictAll_oldest (fun _ => true) shelf.capacity
  rw [allPass, List.countP_true] at oldest
  rw [AssetShelf.trim, keysEq, arranges.size_eq]
  exact oldest

end Arranges

/-- The shelf holds what the row holds, within the same bounds. -/
structure Refines (shelf : AssetShelf) (row : AssetRow) : Prop where
  capacity_eq : shelf.capacity = max row.capacity 1
  limits_eq : shelf.limits = row.limits
  arranged : ∃ line, shelf.Arranges line ∧ line.map Slot.asset = row.records

theorem refines_empty (capacity : Nat) (limits : SortedMap String Nat) :
    (empty capacity limits).Refines
      { capacity := capacity, limits := limits } where
  capacity_eq := rfl
  limits_eq := rfl
  arranged := ⟨[], arranges_empty capacity limits, rfl⟩

variable {row : AssetRow}

/-- Before anything goes, the asset stands behind all that have other identifiers. -/
theorem Refines.attached
    (refines : shelf.Refines row)
    (asset : Asset) :
    ∃ left,
      ((shelf.detach asset.id).attach asset).Arranges left ∧
        left.map Slot.asset = row.others asset ++ [asset] := by
  obtain ⟨line, arranges, recordsEq⟩ := refines.arranged
  have isNew :
      ∀ slot ∈ line.filter fun slot => slot.asset.id != asset.id,
        slot.asset.id ≠ asset.id :=
    fun slot member => bne_iff_ne.mp (List.mem_filter.mp member).2
  refine ⟨_, (arranges.detach asset.id).attach isNew, ?_⟩
  rw [AssetRow.others, ← recordsEq, List.filter_map, List.map_append]
  rfl

/-- Storing an asset on a shelf is storing it in a row. -/
theorem Refines.upsert
    (refines : shelf.Refines row)
    (asset : Asset) :
    (shelf.upsert asset).Refines (row.upsert asset) := by
  have bounds := SameBounds.upsert shelf asset
  have attachedBounds :
      shelf.SameBounds ((shelf.detach asset.id).attach asset) :=
    (SameBounds.detach shelf asset.id).trans ⟨rfl, rfl⟩
  have trimmedBounds :=
    attachedBounds.trans (SameBounds.trimKind _ asset.kind)
  obtain ⟨left, attached, leftEq⟩ := refines.attached asset
  refine
    { capacity_eq := bounds.capacity_eq.trans refines.capacity_eq
      limits_eq := bounds.limits_eq.trans refines.limits_eq
      arranged := ⟨_, (attached.trimKind asset.kind).trim, ?_⟩ }
  rw [trimmedBounds.capacity_eq, refines.capacity_eq,
    attachedBounds.limits_eq, refines.limits_eq,
    map_shrink Slot.asset fun _ => true]
  unfold AssetRow.upsert AssetRow.limited
  rw [← leftEq]
  cases row.limits.find? asset.kind with
  | none => rfl
  | some limit =>
      exact
        congrArg (shrink _ _)
          (map_shrink Slot.asset (fun record => record.kind == asset.kind)
            (max limit 1) left)

end AssetShelf

end MTConnect
