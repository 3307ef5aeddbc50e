namespace MTConnect

/-!
# First-in first-out queues

A queue keeps its oldest members in order and its newest members in reverse,
so that adding at one end and taking from the other cost constant amortized
time. `toList` is the view that every law is stated through: pushing appends
to it and popping takes its head.
-/

/-- A queue; the front list is empty only when the whole queue is. -/
structure Queue (α : Type) where
  front : List α := []
  back : List α := []
  size : Nat := 0
  size_eq : size = front.length + back.length := by rfl
  back_nil : front = [] → back = [] := by intro; rfl
  deriving DecidableEq

namespace Queue

/-- The queue without members. -/
def empty
    {α : Type} :
    Queue α :=
  {}

/-- The members, oldest first. -/
def toList
    {α : Type}
    (queue : Queue α) :
    List α :=
  queue.front ++ queue.back.reverse

/-- Add a member at the newest end. -/
def push
    {α : Type}
    (queue : Queue α)
    (member : α) :
    Queue α :=
  match shape : queue.front with
  | [] =>
      { front := [member], back := [], size := 1 }
  | _ :: _ =>
      { front := queue.front
        back := member :: queue.back
        size := queue.size + 1
        size_eq := by
          have := queue.size_eq
          simp only [List.length_cons]
          omega
        back_nil := by
          intro frontNil
          simp [shape] at frontNil }

/-- The oldest member. -/
def oldest?
    {α : Type}
    (queue : Queue α) :
    Option α :=
  queue.front.head?

/-- Take the oldest member off the queue. -/
def pop?
    {α : Type}
    (queue : Queue α) :
    Option (α × Queue α) :=
  match shape : queue.front with
  | [] => none
  | [member] =>
      some (member,
        { front := queue.back.reverse
          back := []
          size := queue.size - 1
          size_eq := by
            have := queue.size_eq
            simp only [shape, List.length_cons, List.length_nil] at this
            simp only [List.length_reverse, List.length_nil]
            omega })
  | member :: second :: rest =>
      some (member,
        { front := second :: rest
          back := queue.back
          size := queue.size - 1
          size_eq := by
            have := queue.size_eq
            simp only [shape, List.length_cons] at this
            simp only [List.length_cons]
            omega
          back_nil := by
            intro frontNil
            simp at frontNil })

/-- The empty queue has no members. -/
@[simp] theorem toList_empty
    {α : Type} :
    (empty : Queue α).toList = [] :=
  rfl

/-- Pushing appends one member to the view. -/
@[simp] theorem toList_push
    {α : Type}
    (queue : Queue α)
    (member : α) :
    (queue.push member).toList = queue.toList ++ [member] := by
  unfold push
  split
  next shape =>
    simp [toList, shape, queue.back_nil shape]
  next shape =>
    simp [toList]

/-- The cached size is the length of the view. -/
theorem size_eq_length
    {α : Type}
    (queue : Queue α) :
    queue.size = queue.toList.length := by
  rw [queue.size_eq]
  simp [toList]

/-- The oldest member is the head of the view. -/
theorem oldest?_eq_head?
    {α : Type}
    (queue : Queue α) :
    queue.oldest? = queue.toList.head? := by
  unfold oldest? toList
  cases shape : queue.front with
  | nil =>
      simp [queue.back_nil shape]
  | cons member rest =>
      simp

/-- Nothing can be taken exactly when the view is empty. -/
theorem pop?_eq_none
    {α : Type}
    {queue : Queue α}
    (viewNil : queue.toList = []) :
    queue.pop? = none := by
  have frontNil : queue.front = [] :=
    (List.append_eq_nil_iff.mp viewNil).1
  unfold pop?
  split
  next => rfl
  next shape => simp [frontNil] at shape
  next shape => simp [frontNil] at shape

/-- Something can be taken as soon as the view is not empty. -/
theorem exists_pop?
    {α : Type}
    {queue : Queue α}
    (viewNe : queue.toList ≠ []) :
    ∃ member rest, queue.pop? = some (member, rest) := by
  have frontNe : queue.front ≠ [] := by
    intro frontNil
    apply viewNe
    simp [toList, frontNil, queue.back_nil frontNil]
  unfold pop?
  split
  next frontNil => exact absurd frontNil frontNe
  next => exact ⟨_, _, rfl⟩
  next => exact ⟨_, _, rfl⟩

/-- Popping takes the head of the view and leaves its tail. -/
theorem toList_pop?
    {α : Type}
    {queue rest : Queue α}
    {member : α}
    (popped : queue.pop? = some (member, rest)) :
    queue.toList = member :: rest.toList := by
  unfold pop? at popped
  split at popped
  next => simp at popped
  next shape =>
    obtain ⟨rfl, rfl⟩ := Prod.mk.inj (Option.some.inj popped)
    simp [toList, shape]
  next shape =>
    obtain ⟨rfl, rfl⟩ := Prod.mk.inj (Option.some.inj popped)
    simp [toList, shape]

end Queue

end MTConnect
