import MTConnect.Observation.Filter
import MTConnect.SortedMap

namespace MTConnect

/-!
# Filters built step by step

A filter is built by steps that restrict it to a device, to data items or to a
category. What it admits can be told from the steps alone: a dimension that no
step is about admits everything, and any other one what one of its steps names.
So neither the order of the steps nor their repetition matters, and a step that
names nothing still restricts its dimension. Data items may as well be kept in a
table by device.
-/

/-- One step of building a filter. -/
inductive Restriction where
  | onDevice (device : String)
  | onItem (item : ItemKey)
  | onItems (items : List ItemKey)
  | ofCategory (category : Category)
  deriving Repr, DecidableEq

namespace Restriction

/-- The filter after one more step. -/
def applyTo (filter : ObservationFilter) : Restriction → ObservationFilter
  | .onDevice device => filter.onDevice device
  | .onItem item => filter.onItems [item]
  | .onItems items => filter.onItems items
  | .ofCategory category => filter.ofCategory category

/-- The devices that a step names, if it is about devices. -/
def devices? : Restriction → Option (List String)
  | .onDevice device => some [device]
  | _ => none

/-- The data items that a step names, if it is about data items. -/
def items? : Restriction → Option (List ItemKey)
  | .onItem item => some [item]
  | .onItems items => some items
  | _ => none

/-- The categories that a step names, if it is about categories. -/
def categories? : Restriction → Option (List Category)
  | .ofCategory category => some [category]
  | _ => none

/-- The filter that some steps build, one after the other. -/
def build (steps : List Restriction) : ObservationFilter :=
  steps.foldl applyTo .all

/-! ## One dimension -/

section

variable {α : Type}

/-- A dimension after a step that may name values of it. -/
def widen (dimension named? : Option (List α)) : Option (List α) :=
  match named? with
  | none => dimension
  | some values => some (dimension.getD [] ++ values)

/-- A dimension after some steps. -/
def widenAll
    (named? : Restriction → Option (List α))
    (dimension : Option (List α))
    (steps : List Restriction) :
    Option (List α) :=
  steps.foldl (fun before step => widen before (named? step)) dimension

/-- Some step names a value. -/
def Names
    (named? : Restriction → Option (List α))
    (steps : List Restriction)
    (value : α) :
    Prop :=
  ∃ step ∈ steps, ∃ values, named? step = some values ∧ value ∈ values

variable
  {named? : Restriction → Option (List α)}
  {steps : List Restriction}
  {dimension : Option (List α)}
  {value : α}

theorem names_cons_iff {step : Restriction} :
    Names named? (step :: steps) value ↔
      (∃ values, named? step = some values ∧ value ∈ values) ∨
        Names named? steps value := by
  simp [Names]

/-- A dimension stays unrestricted as long as no step is about it. -/
theorem widenAll_eq_none_iff :
    widenAll named? dimension steps = none ↔
      dimension = none ∧ ∀ step ∈ steps, named? step = none := by
  induction steps generalizing dimension with
  | nil => simp [widenAll]
  | cons step others inductionHypothesis =>
      rw [widenAll, List.foldl_cons, ← widenAll, inductionHypothesis,
        List.forall_mem_cons]
      cases named? step with
      | none => simp [widen]
      | some values => simp [widen]

/-- A dimension names what it named before and what the steps name. -/
theorem mem_widenAll_iff :
    value ∈ (widenAll named? dimension steps).getD [] ↔
      value ∈ dimension.getD [] ∨ Names named? steps value := by
  induction steps generalizing dimension with
  | nil => simp [widenAll, Names]
  | cons step others inductionHypothesis =>
      rw [widenAll, List.foldl_cons, ← widenAll, inductionHypothesis,
        names_cons_iff]
      cases named? step with
      | none => simp [widen]
      | some values => simp [widen, or_assoc]

/-- A value is allowed if no step is about its dimension or one step names it. -/
theorem allows_widenAll_iff [DecidableEq α] :
    ObservationFilter.allows (widenAll named? none steps) value = true ↔
      (∀ step ∈ steps, named? step = none) ∨ Names named? steps value := by
  have named := @mem_widenAll_iff α named? steps none value
  cases reached : widenAll named? none steps with
  | none =>
      have untouched := (widenAll_eq_none_iff.mp reached).2
      simp only [ObservationFilter.allows, true_iff]
      exact Or.inl untouched
  | some values =>
      have touched : ¬ ∀ step ∈ steps, named? step = none := by
        intro untouched
        rw [widenAll_eq_none_iff.mpr ⟨rfl, untouched⟩] at reached
        cases reached
      rw [reached] at named
      simpa [ObservationFilter.allows, touched] using named

end

/-! ## The dimensions of a built filter -/

section

variable (steps : List Restriction)

/-- Every step widens each dimension by what it names of it. -/
theorem foldl_applyTo_eq (filter : ObservationFilter) :
    steps.foldl applyTo filter =
      { devices := widenAll devices? filter.devices steps
        items := widenAll items? filter.items steps
        categories := widenAll categories? filter.categories steps } := by
  induction steps generalizing filter with
  | nil => rfl
  | cons step others inductionHypothesis =>
      rw [List.foldl_cons, inductionHypothesis]
      cases step <;> rfl

theorem build_eq :
    build steps =
      { devices := widenAll devices? none steps
        items := widenAll items? none steps
        categories := widenAll categories? none steps } :=
  foldl_applyTo_eq steps .all

end

end Restriction

/-! ## Data items by device -/

/-- Data items listed under their devices. -/
abbrev ItemTable := SortedMap String (List String)

namespace ItemTable

/-- The data items listed under a device. -/
def under (table : ItemTable) (device : String) : List String :=
  (table.find? device).getD []

/-- List a data item under its device. -/
def enter (table : ItemTable) (key : ItemKey) : ItemTable :=
  table.update key.device fun items? => items?.getD [] ++ [key.item]

/-- Whether an optional table, if there is one, lists a data item under its device. -/
def allows (table? : Option ItemTable) (key : ItemKey) : Bool :=
  match table? with
  | none => true
  | some table => decide (key.item ∈ table.under key.device)

/-- An optional table after a step that may name data items. -/
def restrict (table? : Option ItemTable) (step : Restriction) : Option ItemTable :=
  match step.items? with
  | none => table?
  | some items => some (items.foldl enter (table?.getD .empty))

/-- A data item that is entered is listed, and nothing else is new. -/
theorem mem_under_enter_iff
    {table : ItemTable}
    {entered key : ItemKey} :
    key.item ∈ (table.enter entered).under key.device ↔
      key.item ∈ table.under key.device ∨ key = entered := by
  have keyEq :
      key = entered ↔ key.device = entered.device ∧ key.item = entered.item := by
    cases key
    cases entered
    exact ItemKey.mk.injEq .. ▸ Iff.rfl
  rw [under, enter, SortedMap.update, SortedMap.find?_insert, keyEq]
  by_cases same : key.device = entered.device
  · rw [if_pos (Std.LawfulEqCmp.compare_eq_iff_eq.mpr same), ← same]
    simp [under]
  · rw [if_neg (mt Std.LawfulEqCmp.compare_eq_iff_eq.mp same)]
    simp [under, same]

/-- Entries of one device are merged, and nothing else is listed. -/
theorem mem_under_foldl_enter_iff
    {items : List ItemKey}
    {table : ItemTable}
    {key : ItemKey} :
    key.item ∈ (items.foldl enter table).under key.device ↔
      key.item ∈ table.under key.device ∨ key ∈ items := by
  induction items generalizing table with
  | nil => simp
  | cons item others inductionHypothesis =>
      rw [List.foldl_cons, inductionHypothesis, mem_under_enter_iff,
        List.mem_cons, or_assoc]

/-- A table stands for a dimension of data items. -/
structure Represents (table? : Option ItemTable) (dimension : Option (List ItemKey)) : Prop where
  isNone_eq : table?.isNone = dimension.isNone
  mem_iff :
    ∀ key : ItemKey,
      key.item ∈ (table?.getD .empty).under key.device ↔
        key ∈ dimension.getD []

namespace Represents

variable
  {table? : Option ItemTable}
  {dimension : Option (List ItemKey)}

/-- A step restricts the table as it widens the dimension. -/
theorem restrict
    (represents : Represents table? dimension)
    (step : Restriction) :
    Represents (ItemTable.restrict table? step)
      (Restriction.widen dimension step.items?) := by
  unfold ItemTable.restrict Restriction.widen
  cases step.items? with
  | none => exact represents
  | some items =>
      refine ⟨rfl, fun key => ?_⟩
      rw [Option.getD_some, Option.getD_some, mem_under_foldl_enter_iff,
        List.mem_append, represents.mem_iff]

/-- Steps restrict the table as they widen the dimension. -/
theorem foldl_restrict
    (represents : Represents table? dimension)
    (steps : List Restriction) :
    Represents (steps.foldl ItemTable.restrict table?)
      (Restriction.widenAll Restriction.items? dimension steps) := by
  induction steps generalizing table? dimension with
  | nil => exact represents
  | cons step others inductionHypothesis =>
      exact inductionHypothesis (represents.restrict step)

/-- The table allows what the dimension allows. -/
theorem allows_eq
    (represents : Represents table? dimension)
    (key : ItemKey) :
    ItemTable.allows table? key = ObservationFilter.allows dimension key := by
  have restricted := represents.isNone_eq
  have named := represents.mem_iff key
  cases table? with
  | none =>
      cases dimension with
      | none => rfl
      | some items => cases restricted
  | some table =>
      cases dimension with
      | none => cases restricted
      | some items =>
          simp only [Option.getD_some] at named
          simp only [ItemTable.allows, ObservationFilter.allows, named]

end Represents

end ItemTable

namespace Restriction

theorem represents_foldl_restrict (steps : List Restriction) :
    ItemTable.Represents (steps.foldl ItemTable.restrict none)
      (build steps).items := by
  rw [build_eq]
  exact ItemTable.Represents.foldl_restrict ⟨rfl, fun key => by simp [ItemTable.under]⟩ steps

/-! ## What a built filter admits -/

section

variable {steps : List Restriction}

/-- No step is about devices if none restricts to a device. -/
theorem devices?_eq_none_iff :
    (∀ step ∈ steps, step.devices? = none) ↔
      ∀ device, .onDevice device ∉ steps := by
  constructor
  · intro none device member
    cases none _ member
  · intro absent step member
    cases step with
    | onDevice device => exact absurd member (absent device)
    | onItem | onItems | ofCategory => rfl

/-- No step is about categories if none restricts to a category. -/
theorem categories?_eq_none_iff :
    (∀ step ∈ steps, step.categories? = none) ↔
      ∀ category, .ofCategory category ∉ steps := by
  constructor
  · intro none category member
    cases none _ member
  · intro absent step member
    cases step with
    | ofCategory category => exact absurd member (absent category)
    | onDevice | onItem | onItems => rfl

/-- No step is about data items if none restricts to one or to several. -/
theorem items?_eq_none_iff :
    (∀ step ∈ steps, step.items? = none) ↔
      ∀ item items, .onItem item ∉ steps ∧ .onItems items ∉ steps := by
  constructor
  · intro none item items
    constructor
    · intro member
      cases none _ member
    · intro member
      cases none _ member
  · intro absent step member
    cases step with
    | onItem item => exact absurd member (absent item []).1
    | onItems items => exact absurd member (absent default items).2
    | onDevice | ofCategory => rfl

/-- A device is named by the step that restricts to it. -/
theorem names_devices?_iff {device : String} :
    Names devices? steps device ↔ .onDevice device ∈ steps := by
  constructor
  · rintro ⟨step, member, values, named, inValues⟩
    cases step with
    | onDevice other =>
        obtain rfl := Option.some.inj named
        rwa [List.mem_singleton.mp inValues]
    | onItem | onItems | ofCategory => cases named
  · intro member
    exact ⟨_, member, [device], rfl, List.mem_singleton_self device⟩

/-- A category is named by the step that restricts to it. -/
theorem names_categories?_iff {category : Category} :
    Names categories? steps category ↔ .ofCategory category ∈ steps := by
  constructor
  · rintro ⟨step, member, values, named, inValues⟩
    cases step with
    | ofCategory other =>
        obtain rfl := Option.some.inj named
        rwa [List.mem_singleton.mp inValues]
    | onDevice | onItem | onItems => cases named
  · intro member
    exact ⟨_, member, [category], rfl, List.mem_singleton_self category⟩

/-- A data item is named by the step for it or by one for several with it among them. -/
theorem names_items?_iff {key : ItemKey} :
    Names items? steps key ↔
      .onItem key ∈ steps ∨ ∃ items, .onItems items ∈ steps ∧ key ∈ items := by
  constructor
  · rintro ⟨step, member, values, named, inValues⟩
    cases step with
    | onItem other =>
        obtain rfl := Option.some.inj named
        left
        rwa [List.mem_singleton.mp inValues]
    | onItems items =>
        obtain rfl := Option.some.inj named
        exact Or.inr ⟨_, member, inValues⟩
    | onDevice | ofCategory => cases named
  · rintro (member | ⟨items, member, inItems⟩)
    · exact ⟨_, member, [key], rfl, List.mem_singleton_self key⟩
    · exact ⟨_, member, items, rfl, inItems⟩

end

/-- What the steps say of an observation, in whatever order they stand. -/
structure Admits (steps : List Restriction) (observation : Observation) : Prop where
  device :
    (∀ device, .onDevice device ∉ steps) ∨
      .onDevice observation.device ∈ steps
  item :
    (∀ item items, .onItem item ∉ steps ∧ .onItems items ∉ steps) ∨
      .onItem observation.key ∈ steps ∨
      ∃ items, .onItems items ∈ steps ∧ observation.key ∈ items
  category :
    (∀ category, .ofCategory category ∉ steps) ∨
      .ofCategory observation.category ∈ steps

/-- What is built admits what each restricted dimension admits. -/
theorem admits_build_iff
    {steps : List Restriction}
    {observation : Observation} :
    (build steps).admits observation = true ↔ Admits steps observation := by
  rw [ObservationFilter.admits, build_eq]
  simp only [Bool.and_eq_true, allows_widenAll_iff, devices?_eq_none_iff,
    items?_eq_none_iff, categories?_eq_none_iff, names_devices?_iff,
    names_items?_iff, names_categories?_iff]
  constructor
  · rintro ⟨⟨device, item⟩, category⟩
    exact ⟨device, item, category⟩
  · rintro ⟨device, item, category⟩
    exact ⟨⟨device, item⟩, category⟩

/-- Steps that occur in both of two lists say the same there. -/
theorem Admits.of_same_steps
    {steps others : List Restriction}
    (same : ∀ step, step ∈ others ↔ step ∈ steps)
    {observation : Observation}
    (admits : Admits steps observation) :
    Admits others observation := by
  obtain ⟨device, item, category⟩ := admits
  exact
    { device := by simpa only [same] using device
      item := by simpa only [same] using item
      category := by simpa only [same] using category }

/-- Only no steps at all leave every dimension unrestricted. -/
theorem isUnrestricted_build_iff {steps : List Restriction} :
    (build steps).isUnrestricted = true ↔ steps = [] := by
  rw [ObservationFilter.isUnrestricted, build_eq]
  simp only [Bool.and_eq_true, Option.isNone_iff_eq_none, widenAll_eq_none_iff,
    true_and]
  constructor
  · rintro ⟨⟨noDevices, noItems⟩, noCategories⟩
    rw [List.eq_nil_iff_forall_not_mem]
    intro step member
    cases step with
    | onDevice device => cases noDevices _ member
    | onItem item => cases noItems _ member
    | onItems items => cases noItems _ member
    | ofCategory category => cases noCategories _ member
  · rintro rfl
    simp

/--
A built filter admits what its steps say, whether it lists data items by
themselves or by device, and steps that occur in another order or more often
build a filter that admits the same.
-/
theorem built_filters_admit (steps : List Restriction) :
    (∀ observation,
      (build steps).admits observation = true ↔ Admits steps observation) ∧
    (∀ key,
      ItemTable.allows (steps.foldl ItemTable.restrict none) key =
        ObservationFilter.allows (build steps).items key) ∧
    (∀ others,
      (∀ step, step ∈ others ↔ step ∈ steps) →
      ∀ observation,
        (build others).admits observation =
          (build steps).admits observation) ∧
    ((build steps).isUnrestricted = true ↔ steps = []) := by
  refine
    ⟨fun observation => admits_build_iff,
      (represents_foldl_restrict steps).allows_eq, ?_,
      isUnrestricted_build_iff⟩
  intro others same observation
  rw [Bool.eq_iff_iff, admits_build_iff, admits_build_iff]
  exact ⟨.of_same_steps fun step => (same step).symm, .of_same_steps same⟩

example (observation : Observation) :
    (build []).admits observation = true ∧
      (build [.onItems []]).admits observation = false :=
  ⟨rfl, rfl⟩

end Restriction

end MTConnect
