import MTConnect.Proofs.Observation.Reading

namespace MTConnect

/-!
# Snapshots with later observations laid over them

A snapshot shows the newest observation of each selected data item at some
number. If what was logged from this number on is stored over it, each
observation in the place of the one of its data item, then the result shows the
newest observations at the later number. It is also all that can be shown there,
since a history has one replay at most.
-/

namespace ObservationLog

/-- What is shown after later observations have been laid over it. -/
def merged (shown later : List Observation) : List Observation :=
  (overlay (overlay .empty shown) later).values

/--
Storing observations of different data items puts each of them in the place of
its own, and leaves all other places as they are.
-/
theorem find?_overlay_of_distinct
    {map : SortedMap ItemKey Observation}
    {shown : List Observation}
    (distinct :
      shown.Pairwise fun earlier later => earlier.key ≠ later.key)
    {key : ItemKey}
    {observation : Observation} :
    (overlay map shown).find? key = some observation ↔
      (observation ∈ shown ∧ observation.key = key) ∨
        ((∀ other ∈ shown, other.key ≠ key) ∧
          map.find? key = some observation) := by
  induction shown generalizing map with
  | nil => simp [overlay]
  | cons first rest inductionHypothesis =>
      obtain ⟨firstDiffers, restDistinct⟩ := List.pairwise_cons.mp distinct
      have stored :
          overlay map (first :: rest) =
            overlay (map.insert first.key first) rest :=
        rfl
      rw [stored, inductionHypothesis restDistinct, SortedMap.find?_insert]
      by_cases sameKey : key = first.key
      · subst sameKey
        have noOther :
            ∀ other ∈ rest, other.key ≠ first.key :=
          fun other member => (firstDiffers other member).symm
        simp only [Std.ReflCmp.compare_self, if_true, Option.some.injEq,
          List.mem_cons]
        constructor
        · rintro (⟨member, keyEq⟩ | ⟨_, rfl⟩)
          · exact absurd keyEq (noOther observation member)
          · exact .inl ⟨.inl rfl, rfl⟩
        · rintro (⟨rfl | member, keyEq⟩ | ⟨differs, _⟩)
          · exact .inr ⟨noOther, rfl⟩
          · exact absurd keyEq (noOther observation member)
          · exact absurd rfl (differs first (.inl rfl))
      · have notFound : ¬ compare key first.key = .eq :=
          fun same => sameKey (Std.LawfulEqCmp.eq_of_compare same)
        rw [if_neg notFound]
        constructor
        · rintro (⟨member, keyEq⟩ | ⟨differs, found⟩)
          · exact .inl ⟨List.mem_cons_of_mem first member, keyEq⟩
          · refine .inr ⟨?_, found⟩
            intro other member
            rcases List.mem_cons.mp member with rfl | inRest
            · exact Ne.symm sameKey
            · exact differs other inRest
        · rintro (⟨member, keyEq⟩ | ⟨differs, found⟩)
          · rcases List.mem_cons.mp member with rfl | inRest
            · exact absurd keyEq.symm sameKey
            · exact .inl ⟨inRest, keyEq⟩
          · exact
              .inr
                ⟨fun other inRest =>
                  differs other (List.mem_cons_of_mem first inRest), found⟩

end ObservationLog

/-- The values of an index of what is selected replay the whole. -/
theorem Indexes.replays
    {map : SortedMap ItemKey Observation}
    {filter : ObservationFilter}
    {observations : List Observation}
    (indexes :
      Indexes map
        (observations.filter fun observation =>
          filter.selects observation.key)) :
    Replays map.values filter observations where
  ascending := indexes.values_ascending
  mem_iff := by
    intro observation
    rw [indexes.mem_values_iff, IsNewest.filter_iff]
    intro left right sameKey
    rw [sameKey]

namespace Replays

variable
  {shown : List Observation}
  {filter : ObservationFilter}
  {observations : List Observation}

theorem distinct (replays : Replays shown filter observations) :
    shown.Pairwise fun earlier later => earlier.key ≠ later.key := by
  refine replays.ascending.imp ?_
  intro earlier later below same
  simp [same] at below

/-- What is shown is the newest of each data item that the filter selects. -/
theorem indexes (replays : Replays shown filter observations) :
    Indexes (ObservationLog.overlay .empty shown)
      (observations.filter fun observation =>
        filter.selects observation.key) := by
  have byKey (left right : Observation) (sameKey : left.key = right.key) :
      filter.selects left.key = filter.selects right.key := by
    rw [sameKey]
  intro key observation
  rw [ObservationLog.find?_overlay_of_distinct replays.distinct,
    replays.mem_iff, IsNewest.filter_iff byKey]
  constructor
  · rintro (⟨newest, keyEq⟩ | ⟨_, found⟩)
    · exact ⟨keyEq, newest⟩
    · simp at found
  · rintro ⟨keyEq, newest⟩
    exact .inl ⟨newest, keyEq⟩

/-- There is one replay at most. -/
theorem unique
    {others : List Observation}
    (replays : Replays shown filter observations)
    (alsoReplays : Replays others filter observations) :
    shown = others := by
  refine eq_of_keys_ascending replays.ascending alsoReplays.ascending ?_
  intro observation
  rw [replays.mem_iff, alsoReplays.mem_iff]

/-- Laying what is selected of later observations over a replay replays it all. -/
theorem merged
    {later : List Observation}
    (replays : Replays shown filter observations)
    (ascending :
      (observations ++ later).Pairwise fun left right =>
        left.sequence < right.sequence) :
    Replays
      (ObservationLog.merged shown
        (later.filter fun observation => filter.selects observation.key))
      filter
      (observations ++ later) := by
  refine Indexes.replays ?_
  have selectedAscending := ascending.filter fun observation =>
    filter.selects observation.key
  rw [List.filter_append] at selectedAscending ⊢
  exact replays.indexes.overlay selectedAscending

end Replays

namespace History

variable (history : History)

theorem before_eq_between (bound : Nat) :
    history.before bound = history.between .all 0 bound := by
  apply List.filter_congr
  intro observation _
  simp

theorem before_next : history.before history.next = history.entries := by
  rw [before, List.filter_eq_self]
  intro observation member
  exact decide_eq_true (bounds_of_mem member).2

/-- A filter that restricts no categories may be applied to the data items afterwards. -/
theorem between_eq_filter
    {filter : ObservationFilter}
    (anyCategory : filter.categories = none)
    (start stop : Nat) :
    history.between filter start stop =
      (history.between .all start stop).filter fun observation =>
        filter.selects observation.key := by
  rw [between, between, List.filter_filter]
  apply List.filter_congr
  intro observation _
  rw [ObservationFilter.admits_eq_selects anyCategory]
  simp

/-- A replay up to a number, with what follows laid over it, replays what is up to there. -/
theorem replays_merged
    {history : History}
    {shown : List Observation}
    {filter : ObservationFilter}
    {start stop : Nat}
    (replays : Replays shown filter (history.before start))
    (anyCategory : filter.categories = none)
    (ordered : start ≤ stop) :
    Replays
      (ObservationLog.merged shown (history.between filter start stop))
      filter
      (history.before stop) := by
  have whole :
      history.before start ++ history.between .all start stop =
        history.before stop := by
    rw [before_eq_between, before_eq_between]
    exact history.between_append_between .all (Nat.zero_le start) ordered
  rw [history.between_eq_filter anyCategory, ← whole]
  refine replays.merged ?_
  rw [whole]
  exact history.ascending.filter _

end History

end MTConnect
