import Mathlib.Algebra.GroupWithZero.Nat
import MTConnect.SortedMap

namespace MTConnect.SortedMap

/-!
# What is stored in a map

Looking up a key, listing the entries and listing the values are three views
of one content. The lemmas here lead from one view to another, so that a
statement about all keys can be proved from the lists and the other way round.
-/

section

variable {κ α : Type} [Ord κ]

/-- The values are those of the entries. -/
theorem mem_values_iff
    {map : SortedMap κ α}
    {value : α} :
    value ∈ map.values ↔ ∃ key, (key, value) ∈ map.entries := by
  simp [values]

/-- A key is found exactly with the value of its entry. -/
theorem find?_eq_some_iff
    [Std.LawfulEqOrd κ]
    {map : SortedMap κ α}
    {key : κ}
    {value : α} :
    map.find? key = some value ↔ (key, value) ∈ map.entries := by
  unfold find?
  constructor
  · intro found
    obtain ⟨entry, entryFound, valueEq⟩ := Option.map_eq_some_iff.mp found
    have sameKey : key = entry.1 := by
      simpa using List.find?_some entryFound
    have member := List.mem_of_find?_eq_some entryFound
    rw [sameKey, ← valueEq]
    exact member
  · intro member
    obtain ⟨earlier, later, split⟩ := List.append_of_mem member
    have ascending := map.ascending
    rw [split] at ascending
    have absentEarlier :
        ∀ entry ∈ earlier, (compare key entry.1 == .eq) = false := by
      intro entry inEarlier
      have below : compare entry.1 key = .lt :=
        (List.pairwise_append.mp ascending).2.2
          entry inEarlier (key, value) (by simp)
      simp only [beq_eq_false_iff_ne]
      intro same
      rw [Std.LawfulEqCmp.eq_of_compare same] at below
      simp at below
    rw [split, List.find?_append,
      List.find?_eq_none.mpr (by simpa using absentEarlier)]
    simp

/-- Keeping the entries that pass a test keeps the look-ups that pass it. -/
theorem find?_filter_eq_some_iff
    [Std.LawfulEqOrd κ]
    {map : SortedMap κ α}
    {test : κ → α → Bool}
    {key : κ}
    {value : α} :
    (map.filter test).find? key = some value ↔
      map.find? key = some value ∧ test key value = true := by
  rw [find?_eq_some_iff, find?_eq_some_iff]
  simp [filter]

theorem nodup_entries
    [Std.ReflOrd κ]
    (map : SortedMap κ α) :
    map.entries.Nodup :=
  List.Pairwise.of_map Prod.fst
    (fun _ _ differs same => differs (congrArg Prod.fst same)) map.nodup_keys

/-- Maps in which the same is found under every key are equal. -/
theorem ext_find?
    [Std.TransOrd κ]
    [Std.LawfulEqOrd κ]
    {left right : SortedMap κ α}
    (same : ∀ key, left.find? key = right.find? key) :
    left = right := by
  have sameEntries : left.entries.Perm right.entries := by
    rw [List.perm_ext_iff_of_nodup left.nodup_entries right.nodup_entries]
    rintro ⟨key, value⟩
    rw [← find?_eq_some_iff, ← find?_eq_some_iff, same]
  refine
    ext_entries
      (sameEntries.eq_of_pairwise ?_ left.ascending right.ascending)
  intro earlier later _ _ below above
  exact absurd above (Std.OrientedCmp.not_lt_of_lt below)

/-- Nothing is found under a key that was removed, and other keys are untouched. -/
theorem find?_erase
    [Std.LawfulEqOrd κ]
    (map : SortedMap κ α)
    (key other : κ) :
    (map.erase key).find? other =
      if compare key other = .eq then none else map.find? other := by
  refine Option.ext fun value => ?_
  rw [find?_eq_some_iff]
  simp only [erase, List.mem_filter, bne_iff_ne]
  split
  next same => simp [same]
  next differs =>
    rw [find?_eq_some_iff]
    exact and_iff_left differs

/-- Storing under a key puts its entry in the place of the one it had. -/
theorem entries_insert_perm
    [Std.TransOrd κ]
    [Std.LawfulEqOrd κ]
    (map : SortedMap κ α)
    (key : κ)
    (value : α) :
    (map.insert key value).entries.Perm
      ((key, value) :: (map.erase key).entries) := by
  have notErased (found : α) : (key, found) ∉ (map.erase key).entries := by
    rw [← find?_eq_some_iff, find?_erase]
    simp
  rw [List.perm_ext_iff_of_nodup (nodup_entries _)
    (List.nodup_cons.mpr ⟨notErased value, nodup_entries _⟩)]
  rintro ⟨other, found⟩
  rw [← find?_eq_some_iff, find?_insert, List.mem_cons, ← find?_eq_some_iff,
    find?_erase]
  by_cases same : other = key
  · subst same
    simp [eq_comm]
  · have differs : ¬ compare other key = .eq :=
      fun equal => same (Std.LawfulEqCmp.eq_of_compare equal)
    have alsoDiffers : ¬ compare key other = .eq :=
      fun equal => same (Std.LawfulEqCmp.eq_of_compare equal).symm
    simp [differs, alsoDiffers, same]

/-- A key above all others is stored at the end. -/
theorem entries_insert_of_above
    [Std.TransOrd κ]
    {map : SortedMap κ α}
    {key : κ}
    (above : ∀ entry ∈ map.entries, compare entry.1 key = .lt)
    (value : α) :
    (map.insert key value).entries = map.entries ++ [(key, value)] := by
  have atEnd
      {entries : List (κ × α)}
      (above : ∀ entry ∈ entries, compare entry.1 key = .lt) :
      insertEntry key value entries = entries ++ [(key, value)] := by
    induction entries with
    | nil => rfl
    | cons first rest inductionHypothesis =>
        have beyondFirst : compare key first.1 = .gt :=
          Std.OrientedCmp.gt_of_lt (above first List.mem_cons_self)
        simp only [insertEntry, beyondFirst, List.cons_append]
        rw [inductionHypothesis fun entry member =>
          above entry (List.mem_cons_of_mem first member)]
  exact atEnd above

/-- Storing the entries of a map again gives the map. -/
theorem ofList_toList
    [Std.TransOrd κ]
    [Std.LawfulEqOrd κ]
    (map : SortedMap κ α) :
    ofList map.toList = map := by
  have storing (entries : List (κ × α)) (before : SortedMap κ α)
      (ascending : Ascending (before.entries ++ entries)) :
      (entries.foldl (fun map entry => map.insert entry.1 entry.2)
          before).entries =
        before.entries ++ entries := by
    induction entries generalizing before with
    | nil => simp
    | cons entry rest inductionHypothesis =>
        have above :
            ∀ earlier ∈ before.entries, compare earlier.1 entry.1 = .lt :=
          fun earlier member =>
            (List.pairwise_append.mp ascending).2.2 earlier member entry
              List.mem_cons_self
        have stored :
            (before.insert entry.1 entry.2).entries =
              before.entries ++ [entry] :=
          entries_insert_of_above above entry.2
        rw [List.foldl_cons, inductionHypothesis, stored]
        · simp
        · rw [stored, List.append_assoc]
          exact ascending
  exact ext_entries (storing map.entries empty map.ascending)

/-- Where the keys decide the values, a map of a list holds the value of each key in it. -/
theorem find?_ofList
    [Std.TransOrd κ]
    [Std.LawfulEqOrd κ]
    [DecidableEq κ]
    {entries : List (κ × α)}
    {value : κ → α}
    (byKey : ∀ entry ∈ entries, entry.2 = value entry.1)
    (key : κ) :
    (ofList entries).find? key =
      if key ∈ entries.map Prod.fst then some (value key) else none := by
  have storing (map : SortedMap κ α) :
      (entries.foldl (fun map entry => map.insert entry.1 entry.2)
          map).find? key =
        if key ∈ entries.map Prod.fst then some (value key)
        else map.find? key := by
    induction entries generalizing map with
    | nil => rfl
    | cons first rest inductionHypothesis =>
        have firstValue := byKey first List.mem_cons_self
        rw [List.foldl_cons,
          inductionHypothesis fun entry member =>
            byKey entry (List.mem_cons_of_mem first member),
          find?_insert, firstValue]
        by_cases same : key = first.1
        · simp [same]
        · have differs : ¬ compare key first.1 = .eq :=
            fun equal => same (Std.LawfulEqCmp.eq_of_compare equal)
          rw [if_neg differs]
          simp only [List.map_cons, List.mem_cons, same, false_or]
  exact storing .empty

/-- Changing the values changes what is found, not where. -/
theorem find?_mapValues
    {β : Type}
    [Std.LawfulEqOrd κ]
    (map : SortedMap κ α)
    (change : κ → α → β)
    (key : κ) :
    (map.mapValues change).find? key = (map.find? key).map (change key) := by
  refine Option.ext fun value => ?_
  rw [find?_eq_some_iff, Option.map_eq_some_iff]
  simp only [mapValues, List.mem_map, find?_eq_some_iff]
  constructor
  · rintro ⟨⟨other, found⟩, member, same⟩
    obtain ⟨rfl, rfl⟩ := Prod.mk.inj same
    exact ⟨found, member, rfl⟩
  · rintro ⟨found, member, rfl⟩
    exact ⟨(key, found), member, rfl⟩

/-- Storing what is stored already changes nothing. -/
theorem insert_of_find?
    [Std.TransOrd κ]
    [Std.LawfulEqOrd κ]
    {map : SortedMap κ α}
    {key : κ}
    {value : α}
    (found : map.find? key = some value) :
    map.insert key value = map := by
  refine ext_find? fun other => ?_
  rw [find?_insert]
  split
  next same => rw [Std.LawfulEqCmp.eq_of_compare same, found]
  next => rfl

/-- There is nothing to remove where nothing is stored. -/
theorem erase_of_find?
    [Std.TransOrd κ]
    [Std.LawfulEqOrd κ]
    {map : SortedMap κ α}
    {key : κ}
    (absent : map.find? key = none) :
    map.erase key = map := by
  refine ext_find? fun other => ?_
  rw [find?_erase]
  split
  next same => rw [← Std.LawfulEqCmp.eq_of_compare same, absent]
  next => rfl

/-- A sum over all values changes by what storing under a key changes there. -/
theorem sum_insert
    [Std.TransOrd κ]
    [Std.LawfulEqOrd κ]
    (map : SortedMap κ α)
    (weight : α → Nat)
    (key : κ)
    (value : α) :
    ((map.insert key value).values.map weight).sum +
        ((map.find? key).map weight).getD 0 =
      (map.values.map weight).sum + weight value := by
  have sumOf (stored : α) :
      ((map.insert key stored).values.map weight).sum =
        weight stored + ((map.erase key).values.map weight).sum := by
    have rearranged := (map.entries_insert_perm key stored).map Prod.snd
    have sumEq := (rearranged.map weight).sum_nat
    simpa only [values, List.map_cons, List.sum_cons] using sumEq
  rw [sumOf]
  cases found : map.find? key with
  | none =>
      rw [erase_of_find? found]
      simp [Nat.add_comm]
  | some before =>
      have beforeSum := sumOf before
      rw [insert_of_find? found] at beforeSum
      rw [beforeSum]
      simp only [Option.map_some, Option.getD_some]
      omega

/-- The numbers that counting the members of a list by a key arrives at. -/
theorem find?_tally
    {β : Type}
    [Std.TransOrd κ]
    [Std.LawfulEqOrd κ]
    [DecidableEq κ]
    (keyOf : β → κ)
    (members : List β)
    (counts : SortedMap κ Nat)
    (key : κ) :
    (members.foldl
        (fun counts member =>
          counts.update (keyOf member) fun count? => count?.getD 0 + 1)
        counts).find? key =
      if members.countP (fun member => keyOf member == key) = 0 then
        counts.find? key
      else
        some
          ((counts.find? key).getD 0 +
            members.countP fun member => keyOf member == key) := by
  induction members generalizing counts with
  | nil => rfl
  | cons first rest inductionHypothesis =>
      rw [List.foldl_cons, inductionHypothesis, update, find?_insert]
      by_cases sameKey : keyOf first = key
      · rw [List.countP_cons_of_pos (by simpa using sameKey)]
        subst sameKey
        simp only [Std.ReflCmp.compare_self, if_true, Option.getD_some,
          Nat.succ_ne_zero, if_false]
        split
        next nothing => rw [nothing]
        next => rw [Nat.add_assoc, Nat.add_comm 1]
      · have notFound : ¬ compare key (keyOf first) = .eq :=
          fun same => sameKey (Std.LawfulEqCmp.eq_of_compare same).symm
        rw [List.countP_cons_of_neg (by simpa using sameKey),
          if_neg notFound]

end

end MTConnect.SortedMap
