namespace GuildFeed

structure Queue (α : Type) where
  front : List α
  back : List α

namespace Queue
variable {α : Type}

def empty : Queue α := ⟨[], []⟩

def toList (q : Queue α) : List α := q.front ++ q.back.reverse

def push (q : Queue α) (a : α) : Queue α := { q with back := a :: q.back }

def pop? (q : Queue α) : Option (α × Queue α) :=
  match q.front with
  | a :: front => some (a, { q with front })
  | [] =>
    match q.back.reverse with
    | a :: front => some (a, ⟨front, []⟩)
    | [] => none

def size (q : Queue α) : Nat := q.front.length + q.back.length

@[simp] theorem toList_empty : (empty : Queue α).toList = [] := rfl

@[simp] theorem toList_push (q : Queue α) (a : α) : (q.push a).toList = q.toList ++ [a] := by
  simp [toList, push]

@[simp] theorem length_toList (q : Queue α) : q.toList.length = q.size := by
  simp [toList, size]

theorem pop?_eq_none_iff (q : Queue α) : q.pop? = none ↔ q.toList = [] := by
  unfold pop? toList
  split
  · simp_all
  · split <;> simp_all

theorem toList_of_pop? {q r : Queue α} {a : α} (h : q.pop? = some (a, r)) :
    q.toList = a :: r.toList := by
  unfold pop? at h
  split at h
  · simp only [Option.some.injEq, Prod.mk.injEq] at h
    obtain ⟨rfl, rfl⟩ := h
    simp_all [toList]
  · split at h
    · simp only [Option.some.injEq, Prod.mk.injEq] at h
      obtain ⟨rfl, rfl⟩ := h
      simp_all [toList]
    · cases h

end Queue
end GuildFeed
