import MTConnect.Asset.Shelf
import MTConnect.Proofs.SortedMap

namespace MTConnect

/-!
# How a shelf is arranged

Behind the indexes of a shelf stands one line of stamped assets, in the order of
their stamps. Each index is a view of this line: by identifier, by stamp, and, of
each type, the stamps alone. Every change of the shelf is a change of the line
that all indexes follow.
-/

namespace AssetShelf

/-- The stamps of a type in a line. -/
def stampsIn (line : List Slot) (kind : String) : List Nat :=
  (line.filter fun slot => slot.asset.kind == kind).map Slot.stamp

/-- The indexes of a shelf are views of one line. -/
structure Arranges (shelf : AssetShelf) (line : List Slot) : Prop where
  ascending : line.Pairwise fun earlier later => earlier.stamp < later.stamp
  stamp_lt : ∀ slot ∈ line, slot.stamp < shelf.nextStamp
  slots_perm :
    shelf.slots.entries.Perm (line.map fun slot => (slot.asset.id, slot))
  order_eq :
    shelf.order.entries = line.map fun slot => (slot.stamp, slot.asset.id)
  stampsOf_eq : ∀ kind, shelf.stampsOf kind = stampsIn line kind
  /-- A type without stamps has no entry. -/
  stamps_ne_nil : ∀ kind, shelf.byKind.find? kind ≠ some []

variable {shelf : AssetShelf} {line front back : List Slot} {slot : Slot}

/-- That keys compare as different is that they differ. -/
theorem compare_bne_eq
    {κ : Type}
    [Ord κ]
    [Std.LawfulEqOrd κ]
    [BEq κ]
    [LawfulBEq κ]
    (key other : κ) :
    (compare key other != .eq) = (other != key) := by
  rw [Bool.eq_iff_iff, bne_iff_ne, bne_iff_ne, ne_eq, ne_eq,
    Std.LawfulEqCmp.compare_eq_iff_eq, eq_comm]

/-- Taking out one stamp leaves all others, under their types. -/
theorem getD_dropStamp
    (byKind : SortedMap String (List Nat))
    (kind other : String)
    (stamp : Nat) :
    ((dropStamp byKind kind stamp).find? other).getD [] =
      if other = kind then
        ((byKind.find? kind).getD []).filter (· != stamp)
      else
        (byKind.find? other).getD [] := by
  unfold dropStamp
  split
  next absent =>
    split
    next same => simp [same, absent]
    next => rfl
  next stamps found =>
    split
    next nothingLeft =>
      rw [SortedMap.find?_erase]
      by_cases same : other = kind
      · simp [same, found, nothingLeft]
      · simp [same, Ne.symm same]
    next =>
      rw [SortedMap.find?_insert]
      by_cases same : other = kind
      · simp [same, found]
      · simp [same]

/-- No type is left with an empty list when a stamp is dropped. -/
theorem dropStamp_ne_nil
    {byKind : SortedMap String (List Nat)}
    (notNil : ∀ kind, byKind.find? kind ≠ some [])
    (kind : String)
    (stamp : Nat)
    (other : String) :
    (dropStamp byKind kind stamp).find? other ≠ some [] := by
  unfold dropStamp
  split
  next => exact notNil other
  next stamps found =>
    split
    next =>
      rw [SortedMap.find?_erase]
      split
      · simp
      · exact notNil other
    next somethingLeft =>
      rw [SortedMap.find?_insert]
      split
      · intro isNil
        exact somethingLeft (Option.some.inj isNil)
      · exact notNil other

/-- Without one stamp the stamps of a type are the others. -/
theorem stampsIn_filter (line : List Slot) (kind : String) (stamp : Nat) :
    stampsIn (line.filter fun slot => slot.stamp != stamp) kind =
      (stampsIn line kind).filter (· != stamp) := by
  rw [stampsIn, stampsIn, List.filter_map, List.filter_filter,
    List.filter_filter]
  congr 1
  apply List.filter_congr
  intro slot _
  exact Bool.and_comm _ _

/-- An empty shelf is a view of the empty line. -/
theorem arranges_empty (capacity : Nat) (limits : SortedMap String Nat) :
    (empty capacity limits).Arranges [] where
  ascending := List.Pairwise.nil
  stamp_lt := fun _ member => nomatch member
  slots_perm := List.Perm.refl _
  order_eq := rfl
  stampsOf_eq := fun _ => rfl
  stamps_ne_nil := fun _ => nofun

namespace Arranges

/-- What is found under an identifier is the one member of the line that has it. -/
theorem find?_slots_iff
    (arranges : shelf.Arranges line)
    {id : String} :
    shelf.slots.find? id = some slot ↔ slot ∈ line ∧ slot.asset.id = id := by
  rw [SortedMap.find?_eq_some_iff, arranges.slots_perm.mem_iff, List.mem_map]
  constructor
  · rintro ⟨other, member, same⟩
    obtain ⟨rfl, rfl⟩ := Prod.mk.inj same
    exact ⟨member, rfl⟩
  · rintro ⟨member, rfl⟩
    exact ⟨slot, member, rfl⟩

/-- The index by stamps finds the identifier of the asset with that stamp. -/
theorem find?_order_iff
    (arranges : shelf.Arranges line)
    {stamp : Nat}
    {id : String} :
    shelf.order.find? stamp = some id ↔
      ∃ slot ∈ line, slot.stamp = stamp ∧ slot.asset.id = id := by
  rw [SortedMap.find?_eq_some_iff, arranges.order_eq, List.mem_map]
  simp only [Prod.mk.injEq]

/-- Two assets in the line with one identifier are the same. -/
theorem eq_of_id
    (arranges : shelf.Arranges line)
    {other : Slot}
    (member : slot ∈ line)
    (otherMember : other ∈ line)
    (same : other.asset.id = slot.asset.id) :
    other = slot := by
  have found := arranges.find?_slots_iff.mpr ⟨member, rfl⟩
  have alsoFound := arranges.find?_slots_iff.mpr ⟨otherMember, same⟩
  exact Option.some.inj (alsoFound.symm.trans found)

/-- Two assets in the line with one stamp are the same. -/
theorem eq_of_stamp
    (arranges : shelf.Arranges line)
    {other : Slot}
    (member : slot ∈ line)
    (otherMember : other ∈ line)
    (same : other.stamp = slot.stamp) :
    other = slot := by
  have found := arranges.find?_order_iff.mpr ⟨slot, member, rfl, rfl⟩
  have alsoFound := arranges.find?_order_iff.mpr ⟨other, otherMember, same, rfl⟩
  exact
    arranges.eq_of_id member otherMember
      (Option.some.inj (alsoFound.symm.trans found))

/-- To leave out an identifier is to leave out the stamp that it has. -/
theorem filter_id_eq_filter_stamp
    (arranges : shelf.Arranges line)
    (member : slot ∈ line) :
    (line.filter fun other => other.asset.id != slot.asset.id) =
      line.filter fun other => other.stamp != slot.stamp := by
  apply List.filter_congr
  intro other otherMember
  rw [Bool.eq_iff_iff, bne_iff_ne, bne_iff_ne]
  refine not_congr ⟨?_, ?_⟩
  · intro sameId
    rw [arranges.eq_of_id member otherMember sameId]
  · intro sameStamp
    rw [arranges.eq_of_stamp member otherMember sameStamp]

/-- Taking an asset off the shelf takes it out of the line. -/
theorem detach (arranges : shelf.Arranges line) (id : String) :
    (shelf.detach id).Arranges
      (line.filter fun other => other.asset.id != id) := by
  unfold AssetShelf.detach
  split
  next absent =>
    have unchanged :
        (line.filter fun other => other.asset.id != id) = line := by
      rw [List.filter_eq_self]
      intro other member
      rw [bne_iff_ne]
      intro same
      have found := arranges.find?_slots_iff.mpr ⟨member, same⟩
      rw [absent] at found
      contradiction
    rw [unchanged]
    exact arranges
  next slot found =>
    obtain ⟨member, rfl⟩ := arranges.find?_slots_iff.mp found
    have byStamp := arranges.filter_id_eq_filter_stamp member
    exact
      { ascending := arranges.ascending.filter _
        stamp_lt := fun other inLine =>
          arranges.stamp_lt other (List.mem_filter.mp inLine).1
        slots_perm := by
          have erased :=
            arranges.slots_perm.filter fun entry =>
              compare slot.asset.id entry.1 != .eq
          rw [List.filter_map] at erased
          simp only [Function.comp_def, compare_bne_eq] at erased
          simp only [SortedMap.erase, compare_bne_eq]
          exact erased
        order_eq := by
          rw [byStamp]
          simp only [SortedMap.erase, arranges.order_eq, List.filter_map,
            Function.comp_def, compare_bne_eq]
        stampsOf_eq := by
          intro kind
          rw [byStamp, stampsIn_filter, ← arranges.stampsOf_eq]
          refine (getD_dropStamp _ _ _ _).trans ?_
          split
          next sameKind => rw [sameKind, stampsOf]
          next otherKind =>
            -- The stamp is that of an asset of another type.
            symm
            refine List.filter_eq_self.mpr fun stamp inKind => ?_
            rw [arranges.stampsOf_eq kind] at inKind
            obtain ⟨other, inFilter, rfl⟩ := List.mem_map.mp inKind
            obtain ⟨otherMember, ofKind⟩ := List.mem_filter.mp inFilter
            rw [bne_iff_ne]
            intro same
            rw [arranges.eq_of_stamp member otherMember same] at ofKind
            exact otherKind (eq_of_beq ofKind).symm
        stamps_ne_nil := dropStamp_ne_nil arranges.stamps_ne_nil _ _ }

/-- An asset whose identifier is not on the shelf goes to the end of the line. -/
theorem attach
    (arranges : shelf.Arranges line)
    {asset : Asset}
    (isNew : ∀ slot ∈ line, slot.asset.id ≠ asset.id) :
    (shelf.attach asset).Arranges
      (line ++ [{ stamp := shelf.nextStamp, asset := asset }]) where
  ascending := by
    rw [List.pairwise_append]
    refine ⟨arranges.ascending, List.pairwise_singleton _ _, ?_⟩
    intro slot member newest isNewest
    rw [List.mem_singleton.mp isNewest]
    exact arranges.stamp_lt slot member
  stamp_lt := by
    intro slot member
    rcases List.mem_append.mp member with inOld | isNewest
    · exact Nat.lt_succ_of_lt (arranges.stamp_lt slot inOld)
    · rw [List.mem_singleton.mp isNewest]
      exact Nat.lt_succ_self _
  slots_perm := by
    have nothingErased :
        (shelf.slots.erase asset.id).entries = shelf.slots.entries := by
      refine List.filter_eq_self.mpr fun entry member => ?_
      obtain ⟨slot, inLine, rfl⟩ :=
        List.mem_map.mp (arranges.slots_perm.mem_iff.mp member)
      rw [compare_bne_eq, bne_iff_ne]
      exact isNew slot inLine
    have inserted :=
      SortedMap.entries_insert_perm shelf.slots asset.id
        { stamp := shelf.nextStamp, asset := asset }
    rw [nothingErased] at inserted
    rw [List.map_append]
    exact
      (inserted.trans (arranges.slots_perm.cons _)).trans
        (List.perm_append_singleton _ _).symm
  order_eq := by
    have above :
        ∀ entry ∈ shelf.order.entries,
          compare entry.1 shelf.nextStamp = .lt := by
      intro entry member
      rw [arranges.order_eq] at member
      obtain ⟨slot, inLine, rfl⟩ := List.mem_map.mp member
      exact Nat.compare_eq_lt.mpr (arranges.stamp_lt slot inLine)
    rw [List.map_append, ← arranges.order_eq]
    exact SortedMap.entries_insert_of_above above asset.id
  stampsOf_eq := by
    intro kind
    rw [stampsIn, List.filter_append, List.map_append]
    refine (congrArg (Option.getD · []) (SortedMap.find?_insert _ _ _ _)).trans ?_
    by_cases sameKind : kind = asset.kind
    · simp [sameKind, arranges.stampsOf_eq, stampsIn]
    · have stampsEq := arranges.stampsOf_eq kind
      rw [stampsOf, stampsIn] at stampsEq
      simp [sameKind, Ne.symm sameKind, stampsEq]
  stamps_ne_nil := by
    intro kind isNil
    have found := (SortedMap.find?_insert _ _ _ _).symm.trans isNil
    split at found
    · simp at found
    · exact arranges.stamps_ne_nil kind found

/-- An eviction takes the asset with that stamp out of the line. -/
theorem evict (arranges : shelf.Arranges line) (stamp : Nat) :
    (shelf.evict stamp).Arranges
      (line.filter fun slot => slot.stamp != stamp) := by
  unfold AssetShelf.evict
  split
  next absent =>
    have unchanged :
        (line.filter fun slot => slot.stamp != stamp) = line := by
      rw [List.filter_eq_self]
      intro slot member
      rw [bne_iff_ne]
      intro same
      have found := arranges.find?_order_iff.mpr ⟨slot, member, same, rfl⟩
      rw [absent] at found
      contradiction
    rw [unchanged]
    exact arranges
  next id found =>
    obtain ⟨slot, member, rfl, rfl⟩ := arranges.find?_order_iff.mp found
    rw [← arranges.filter_id_eq_filter_stamp member]
    exact arranges.detach slot.asset.id

/-- Evictions take the assets with those stamps out of the line. -/
theorem evictAll (arranges : shelf.Arranges line) (stamps : List Nat) :
    (shelf.evictAll stamps).Arranges
      (line.filter fun slot => !stamps.contains slot.stamp) := by
  induction stamps generalizing shelf line with
  | nil =>
      have whole :
          (line.filter fun slot => !([] : List Nat).contains slot.stamp) =
            line :=
        List.filter_eq_self.mpr fun _ _ => rfl
      rw [whole]
      exact arranges
  | cons stamp rest inductionHypothesis =>
      have evicted := inductionHypothesis (arranges.evict stamp)
      rw [List.filter_filter] at evicted
      have same :
          (line.filter fun slot => !(stamp :: rest).contains slot.stamp) =
            line.filter fun slot =>
              !rest.contains slot.stamp && slot.stamp != stamp := by
        apply List.filter_congr
        intro slot _
        rw [List.contains_cons, Bool.not_or, Bool.and_comm]
        rfl
      rw [same]
      exact evicted

/-- No other asset in the line has the identifier of one that is in it. -/
theorem ids_ne_of_split
    (arranges : shelf.Arranges (front ++ slot :: back)) :
    (∀ other ∈ front, other.asset.id ≠ slot.asset.id) ∧
      ∀ other ∈ back, other.asset.id ≠ slot.asset.id := by
  have atSlot : slot ∈ front ++ slot :: back := by simp
  obtain ⟨_, fromSlot, acrossSlot⟩ :=
    List.pairwise_append.mp arranges.ascending
  constructor
  · intro other member same
    have below := acrossSlot other member slot List.mem_cons_self
    rw [arranges.eq_of_id atSlot (by simp [member]) same] at below
    exact Nat.lt_irrefl _ below
  · intro other member same
    have below := (List.pairwise_cons.mp fromSlot).1 other member
    rw [arranges.eq_of_id atSlot (by simp [member]) same] at below
    exact Nat.lt_irrefl _ below

/-- To leave out one identifier is to leave out one asset. -/
theorem filter_id_of_split
    (arranges : shelf.Arranges (front ++ slot :: back)) :
    ((front ++ slot :: back).filter fun other =>
        other.asset.id != slot.asset.id) =
      front ++ back := by
  obtain ⟨inFront, inBack⟩ := arranges.ids_ne_of_split
  rw [List.filter_append, List.filter_cons_of_neg (by simp),
    List.filter_eq_self.mpr fun other member =>
      bne_iff_ne.mpr (inFront other member),
    List.filter_eq_self.mpr fun other member =>
      bne_iff_ne.mpr (inBack other member)]

/-- The tombstone of an asset takes its place in the line. -/
theorem bury
    (arranges : shelf.Arranges (front ++ slot :: back))
    (timestamp : Timestamp) :
    (shelf.bury slot.asset.id slot timestamp).Arranges
      (front ++
        { slot with asset := slot.asset.tombstone timestamp } :: back) where
  ascending := by
    have stamps :
        ((front ++ slot :: back).map Slot.stamp).Pairwise (· < ·) :=
      List.pairwise_map.mpr arranges.ascending
    have sameStamps :
        (front ++ slot :: back).map Slot.stamp =
          (front ++
            { slot with asset := slot.asset.tombstone timestamp } ::
              back).map Slot.stamp := by
      simp
    rw [sameStamps] at stamps
    exact List.pairwise_map.mp stamps
  stamp_lt := by
    intro other member
    rcases List.mem_append.mp member with inFront | inRest
    · exact arranges.stamp_lt other (by simp [inFront])
    · rcases List.mem_cons.mp inRest with rfl | inBack
      · exact arranges.stamp_lt slot (by simp)
      · exact arranges.stamp_lt other (by simp [inBack])
  slots_perm := by
    have others :=
      arranges.slots_perm.filter fun entry =>
        compare slot.asset.id entry.1 != .eq
    rw [List.filter_map] at others
    simp only [Function.comp_def, compare_bne_eq,
      arranges.filter_id_of_split] at others
    have inserted :=
      SortedMap.entries_insert_perm shelf.slots slot.asset.id
        { slot with asset := slot.asset.tombstone timestamp }
    simp only [SortedMap.erase, compare_bne_eq] at inserted
    refine inserted.trans ((others.cons _).trans ?_)
    rw [List.map_append, List.map_append, List.map_cons]
    exact List.perm_middle.symm
  order_eq := by
    refine arranges.order_eq.trans ?_
    simp [Asset.tombstone]
  stampsOf_eq := by
    intro kind
    refine (arranges.stampsOf_eq kind).trans ?_
    simp [stampsIn, List.filter_cons, Asset.tombstone, apply_ite]
  stamps_ne_nil := arranges.stamps_ne_nil

end Arranges

end AssetShelf

end MTConnect
