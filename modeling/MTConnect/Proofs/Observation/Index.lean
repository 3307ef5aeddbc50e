import MTConnect.Observation.Log
import MTConnect.Proofs.Observation.History
import MTConnect.Proofs.SortedMap

namespace MTConnect

/-!
# Indexes of newest observations

An index of some observations holds the newest one of each data item and
nothing else. Inserting a later observation keeps a map an index, which is all
that the checkpoints of the log and the reconstruction of a past state do.
-/

/-- The map holds exactly the newest of some observations for each data item. -/
def Indexes
    (map : SortedMap ItemKey Observation)
    (observations : List Observation) : Prop :=
  ∀ key observation,
    map.find? key = some observation ↔
      observation.key = key ∧ IsNewest observation observations

namespace IsNewest

/-- An observation later than all others is the newest of its data item. -/
theorem concat_self
    {observation : Observation}
    {observations : List Observation}
    (later :
      ∀ other ∈ observations, other.sequence < observation.sequence) :
    IsNewest observation (observations ++ [observation]) where
  member := by simp
  newest := by
    intro other member _
    rcases List.mem_append.mp member with inOld | isNew
    · exact Nat.le_of_lt (later other inOld)
    · exact Nat.le_of_eq
        (congrArg Observation.sequence (List.mem_singleton.mp isNew))

/-- A later observation of another data item does not matter. -/
theorem concat_iff_of_ne
    {observation added : Observation}
    {observations : List Observation}
    (differs : observation.key ≠ added.key) :
    IsNewest observation (observations ++ [added]) ↔
      IsNewest observation observations := by
  constructor
  · rintro ⟨member, newest⟩
    refine ⟨?_, fun other inOld => newest other (by simp [inOld])⟩
    rcases List.mem_append.mp member with inOld | isNew
    · exact inOld
    · rw [List.mem_singleton.mp isNew] at differs
      exact absurd rfl differs
  · rintro ⟨member, newest⟩
    refine ⟨by simp [member], ?_⟩
    intro other inNew sameKey
    rcases List.mem_append.mp inNew with inOld | isNew
    · exact newest other inOld sameKey
    · rw [List.mem_singleton.mp isNew] at sameKey
      exact absurd sameKey.symm differs

/-- With a later observation of its data item, no other one is the newest. -/
theorem eq_of_concat
    {observation added : Observation}
    {observations : List Observation}
    (later : ∀ other ∈ observations, other.sequence < added.sequence)
    (sameKey : observation.key = added.key)
    (newest : IsNewest observation (observations ++ [added])) :
    observation = added := by
  have addedFirst : added.sequence ≤ observation.sequence :=
    newest.newest added (by simp) sameKey.symm
  rcases List.mem_append.mp newest.member with inOld | isNew
  · exact absurd (later observation inOld) (Nat.not_lt.mpr addedFirst)
  · exact List.mem_singleton.mp isNew

/-- Choosing whole data items does not change which observations are newest. -/
theorem filter_iff
    {choose : Observation → Bool}
    (byKey :
      ∀ left right : Observation,
        left.key = right.key → choose left = choose right)
    {observation : Observation}
    {observations : List Observation} :
    IsNewest observation (observations.filter choose) ↔
      choose observation = true ∧ IsNewest observation observations := by
  constructor
  · rintro ⟨member, newest⟩
    obtain ⟨inAll, chosen⟩ := List.mem_filter.mp member
    refine ⟨chosen, inAll, ?_⟩
    intro other otherInAll sameKey
    have otherChosen : choose other = true :=
      (byKey other observation sameKey).trans chosen
    exact newest other
      (List.mem_filter.mpr ⟨otherInAll, otherChosen⟩) sameKey
  · rintro ⟨chosen, member, newest⟩
    refine ⟨List.mem_filter.mpr ⟨member, chosen⟩, ?_⟩
    intro other otherMember sameKey
    exact newest other (List.mem_filter.mp otherMember).1 sameKey

/-- Of a data item that is observed at all, one observation is the newest. -/
theorem exists_of_key
    {key : ItemKey}
    {observations : List Observation}
    (observed : ∃ observation ∈ observations, observation.key = key) :
    ∃ newest, IsNewest newest observations ∧ newest.key = key := by
  induction observations with
  | nil =>
      obtain ⟨_, member, _⟩ := observed
      cases member
  | cons first rest inductionHypothesis =>
      by_cases inRest : ∃ observation ∈ rest, observation.key = key
      · obtain ⟨later, isNewest, laterKey⟩ := inductionHypothesis inRest
        by_cases firstNewer :
            first.key = key ∧ later.sequence < first.sequence
        · obtain ⟨firstKey, newer⟩ := firstNewer
          refine ⟨first, ⟨List.mem_cons_self, ?_⟩, firstKey⟩
          intro other member sameKey
          rcases List.mem_cons.mp member with rfl | otherInRest
          · exact Nat.le_refl _
          · have older :=
              isNewest.newest other otherInRest
                (sameKey.trans (firstKey.trans laterKey.symm))
            exact Nat.le_of_lt (Nat.lt_of_le_of_lt older newer)
        · refine
            ⟨later, ⟨List.mem_cons_of_mem first isNewest.member, ?_⟩, laterKey⟩
          intro other member sameKey
          rcases List.mem_cons.mp member with rfl | otherInRest
          · exact Nat.not_lt.mp fun newer =>
              firstNewer ⟨sameKey.trans laterKey, newer⟩
          · exact isNewest.newest other otherInRest sameKey
      · obtain ⟨observation, member, keyEq⟩ := observed
        have firstKey : first.key = key := by
          rcases List.mem_cons.mp member with rfl | later
          · exact keyEq
          · exact absurd ⟨observation, later, keyEq⟩ inRest
        refine ⟨first, ⟨List.mem_cons_self, ?_⟩, firstKey⟩
        intro other otherMember sameKey
        rcases List.mem_cons.mp otherMember with rfl | otherInRest
        · exact Nat.le_refl _
        · exact absurd ⟨other, otherInRest, sameKey.trans firstKey⟩ inRest

end IsNewest

namespace Indexes

/-- The empty map indexes no observations. -/
theorem empty : Indexes .empty [] := by
  intro key observation
  constructor
  · intro found
    simp at found
  · rintro ⟨_, member, _⟩
    simp at member

/-- Inserting a later observation keeps a map an index. -/
theorem insert
    {map : SortedMap ItemKey Observation}
    {observations : List Observation}
    {added : Observation}
    (indexes : Indexes map observations)
    (later :
      ∀ other ∈ observations, other.sequence < added.sequence) :
    Indexes (map.insert added.key added) (observations ++ [added]) := by
  intro key observation
  rw [SortedMap.find?_insert]
  split
  next sameKey =>
    have keyEq : key = added.key := Std.LawfulEqCmp.eq_of_compare sameKey
    constructor
    · intro found
      rw [← Option.some.inj found]
      exact ⟨keyEq.symm, IsNewest.concat_self later⟩
    · rintro ⟨observationKey, newest⟩
      rw [IsNewest.eq_of_concat later (observationKey.trans keyEq) newest]
  next otherKey =>
    have keyNe : key ≠ added.key := by
      intro same
      exact otherKey (same ▸ Std.ReflCmp.compare_self)
    rw [indexes key observation]
    constructor
    · rintro ⟨rfl, newest⟩
      exact ⟨rfl, (IsNewest.concat_iff_of_ne keyNe).mpr newest⟩
    · rintro ⟨rfl, newest⟩
      exact ⟨rfl, (IsNewest.concat_iff_of_ne keyNe).mp newest⟩

/--
Overlaying observations that are later than all before, one after the other,
keeps a map an index, in whatever order those before are listed.
-/
theorem overlay_later
    {map : SortedMap ItemKey Observation}
    {observations added : List Observation}
    (indexes : Indexes map observations)
    (later :
      ∀ other ∈ observations,
        ∀ observation ∈ added, other.sequence < observation.sequence)
    (ascending :
      added.Pairwise fun earlier later => earlier.sequence < later.sequence) :
    Indexes (ObservationLog.overlay map added) (observations ++ added) := by
  induction added generalizing map observations with
  | nil => simpa [ObservationLog.overlay] using indexes
  | cons first rest inductionHypothesis =>
      obtain ⟨firstBelow, restAscending⟩ := List.pairwise_cons.mp ascending
      have firstLater :
          ∀ other ∈ observations, other.sequence < first.sequence :=
        fun other member => later other member first List.mem_cons_self
      have restLater :
          ∀ other ∈ observations ++ [first],
            ∀ observation ∈ rest, other.sequence < observation.sequence := by
        intro other member observation inRest
        rcases List.mem_append.mp member with inOld | isFirst
        · exact later other inOld observation
            (List.mem_cons_of_mem first inRest)
        · rw [List.mem_singleton.mp isFirst]
          exact firstBelow observation inRest
      have restIndexed :=
        inductionHypothesis (indexes.insert firstLater) restLater
          restAscending
      simpa [ObservationLog.overlay] using restIndexed

/-- Overlaying later observations, one after the other, keeps a map an index. -/
theorem overlay
    {map : SortedMap ItemKey Observation}
    {observations added : List Observation}
    (indexes : Indexes map observations)
    (ascending :
      (observations ++ added).Pairwise fun earlier later =>
        earlier.sequence < later.sequence) :
    Indexes (ObservationLog.overlay map added) (observations ++ added) := by
  obtain ⟨_, addedAscending, later⟩ := List.pairwise_append.mp ascending
  exact indexes.overlay_later later addedAscending

/-- Keeping whole data items keeps a map an index of what is kept. -/
theorem filter
    {map : SortedMap ItemKey Observation}
    {observations : List Observation}
    {choose : Observation → Bool}
    (indexes : Indexes map observations)
    (byKey :
      ∀ left right : Observation,
        left.key = right.key → choose left = choose right) :
    Indexes
      (map.filter fun _ observation => choose observation)
      (observations.filter choose) := by
  intro key observation
  rw [SortedMap.find?_filter_eq_some_iff, indexes key observation,
    IsNewest.filter_iff byKey]
  constructor
  · rintro ⟨⟨keyEq, newest⟩, chosen⟩
    exact ⟨keyEq, chosen, newest⟩
  · rintro ⟨keyEq, chosen, newest⟩
    exact ⟨⟨keyEq, newest⟩, chosen⟩

/-- The values of an index are the newest observations. -/
theorem mem_values_iff
    {map : SortedMap ItemKey Observation}
    {observations : List Observation}
    (indexes : Indexes map observations)
    {observation : Observation} :
    observation ∈ map.values ↔ IsNewest observation observations := by
  rw [SortedMap.mem_values_iff]
  constructor
  · rintro ⟨key, member⟩
    exact ((indexes key observation).mp
      (SortedMap.find?_eq_some_iff.mpr member)).2
  · intro newest
    exact ⟨observation.key,
      SortedMap.find?_eq_some_iff.mp
        ((indexes observation.key observation).mpr ⟨rfl, newest⟩)⟩

/-- Whatever is kept of an index is an index of what is kept of its values. -/
theorem filter_values
    {map : SortedMap ItemKey Observation}
    {observations : List Observation}
    (indexes : Indexes map observations)
    (choose : Observation → Bool) :
    Indexes
      (map.filter fun _ observation => choose observation)
      (map.values.filter choose) := by
  have found
      {observation : Observation}
      (member : observation ∈ map.values) :
      map.find? observation.key = some observation :=
    (indexes _ _).mpr ⟨rfl, indexes.mem_values_iff.mp member⟩
  intro key observation
  rw [SortedMap.find?_filter_eq_some_iff]
  constructor
  · rintro ⟨atKey, chosen⟩
    obtain ⟨keyEq, newest⟩ := (indexes key observation).mp atKey
    have inValues := indexes.mem_values_iff.mpr newest
    refine ⟨keyEq, List.mem_filter.mpr ⟨inValues, chosen⟩, ?_⟩
    intro other otherMember sameKey
    have otherFound := found (List.mem_filter.mp otherMember).1
    rw [sameKey, found inValues] at otherFound
    exact Nat.le_of_eq
      (congrArg Observation.sequence (Option.some.inj otherFound).symm)
  · rintro ⟨rfl, newest⟩
    obtain ⟨inValues, chosen⟩ := List.mem_filter.mp newest.member
    exact ⟨found inValues, chosen⟩

/-- The values of an index stand in the order of their keys. -/
theorem values_ascending
    {map : SortedMap ItemKey Observation}
    {observations : List Observation}
    (indexes : Indexes map observations) :
    map.values.Pairwise fun earlier later =>
      compare earlier.key later.key = .lt := by
  have keyOfEntry :
      ∀ entry ∈ map.entries, entry.2.key = entry.1 := by
    intro entry member
    exact ((indexes entry.1 entry.2).mp
      (SortedMap.find?_eq_some_iff.mpr member)).1
  unfold SortedMap.values
  rw [List.pairwise_map]
  refine map.ascending.imp_of_mem ?_
  intro earlier later earlierMember laterMember below
  rw [keyOfEntry earlier earlierMember, keyOfEntry later laterMember]
  exact below

end Indexes

/-- What stands in the order of its keys is told by its members. -/
theorem eq_of_keys_ascending
    {left right : List Observation}
    (leftAscending :
      left.Pairwise fun earlier later =>
        compare earlier.key later.key = .lt)
    (rightAscending :
      right.Pairwise fun earlier later =>
        compare earlier.key later.key = .lt)
    (sameMembers :
      ∀ observation, observation ∈ left ↔ observation ∈ right) :
    left = right := by
  have nodup
      {list : List Observation}
      (ascending :
        list.Pairwise fun earlier later =>
          compare earlier.key later.key = .lt) :
      list.Nodup := by
    refine ascending.imp ?_
    intro earlier later below same
    simp [same] at below
  have perm : left.Perm right :=
    (List.perm_ext_iff_of_nodup (nodup leftAscending)
      (nodup rightAscending)).mpr sameMembers
  refine perm.eq_of_pairwise ?_ leftAscending rightAscending
  intro earlier later _ _ below above
  exact absurd above (Std.OrientedCmp.not_lt_of_lt below)

end MTConnect
