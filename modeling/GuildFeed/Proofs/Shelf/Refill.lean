import Mathlib.Data.List.Basic
import Mathlib.Data.List.Induction
import GuildFeed.Proofs.Shelf.Listing
import GuildFeed.Proofs.Shelf.Ownership

namespace GuildFeed

def last? {β ι : Type} [DecidableEq ι] (id : β → ι) (items : List β) (i : ι) : Option β :=
  items.reverse.find? (id · = i)

section
variable {β ι : Type} [DecidableEq ι] {id : β → ι}

@[simp] theorem last?_nil (i : ι) : last? id [] i = none := rfl

theorem last?_concat (items : List β) (b : β) (i : ι) :
    last? id (items ++ [b]) i = if id b = i then some b else last? id items i := by
  simp only [last?, List.reverse_append, List.reverse_cons, List.reverse_nil, List.nil_append,
    List.singleton_append, List.find?_cons]
  split <;> simp_all

theorem last?_cons (b : β) (items : List β) (i : ι) :
    last? id (b :: items) i = (last? id items i).or (if id b = i then some b else none) := by
  simp only [last?, List.reverse_cons, List.find?_append, List.find?_singleton, decide_eq_true_eq]

theorem last?_eq_some {items : List β} {b : β} {i : ι} (h : last? id items i = some b) :
    b ∈ items ∧ id b = i :=
  ⟨List.mem_reverse.1 (List.mem_of_find?_eq_some h), by simpa using List.find?_some h⟩

theorem last?_eq_none {items : List β} {i : ι} :
    last? id items i = none ↔ ∀ b ∈ items, id b ≠ i := by
  simp [last?]

theorem exists_last? (id : β → ι) {items : List β} {b : β} (mem : b ∈ items) : ∃ c, last? id items (id b) = some c := by
  rw [← Option.isSome_iff_exists, Option.isSome_iff_ne_none]
  intro none
  exact last?_eq_none.1 none b mem rfl

/-- The items that no later item with the same id takes the place of. -/
def latest (id : β → ι) : List β → List β
  | [] => []
  | b :: items => if items.any (id · = id b) then latest id items else b :: latest id items

theorem mem_of_mem_latest {items : List β} {b : β} (h : b ∈ latest id items) : b ∈ items := by
  induction items with
  | nil => exact h
  | cons c items ih =>
    rw [latest] at h
    split at h
    · exact List.mem_cons_of_mem c (ih h)
    · rcases List.mem_cons.1 h with rfl | h
      · exact List.mem_cons_self
      · exact List.mem_cons_of_mem c (ih h)

theorem pairwise_latest (items : List β) : (latest id items).Pairwise fun a b => id a ≠ id b := by
  induction items with
  | nil => exact List.Pairwise.nil
  | cons b items ih =>
    rw [latest]
    split
    · exact ih
    · next last =>
      refine List.Pairwise.cons (fun c mem same => last ?_) ih
      exact List.any_eq_true.2 ⟨c, mem_of_mem_latest mem, by simp [same]⟩

theorem mem_latest {items : List β} {b : β} : b ∈ latest id items ↔ last? id items (id b) = some b := by
  induction items with
  | nil => simp [latest]
  | cons c items ih =>
    rw [last?_cons, latest]
    cases found : last? id items (id b) with
    | some d =>
      rw [found, Option.some.injEq] at ih
      split
      · simp [ih]
      · next last =>
        have other : b ≠ c := by
          rintro rfl
          obtain ⟨mem, same⟩ := last?_eq_some found
          exact last (List.any_eq_true.2 ⟨d, mem, by simp [same]⟩)
        simp [ih, other]
    | none =>
      rw [found] at ih
      have absent : b ∉ latest id items := by simp [ih]
      split
      · next later =>
        obtain ⟨d, mem, same⟩ := List.any_eq_true.1 later
        have other : id c ≠ id b := by
          intro eq
          exact last?_eq_none.1 found d mem ((of_decide_eq_true same).trans eq)
        simp [absent, other]
      · simp only [List.mem_cons, absent, or_false, Option.none_or]
        constructor
        · rintro rfl
          simp
        · intro eq
          split at eq
          · exact (Option.some.inj eq).symm
          · cases eq

end

namespace Shelf
open Entry

set_option linter.unusedSectionVars false

variable {κ ι α β : Type} [Ord κ] [Std.TransOrd κ] [Std.LawfulEqOrd κ] [DecidableEq κ]
  [Ord ι] [Std.TransOrd ι] [Std.LawfulEqOrd ι] [DecidableEq ι] [Listed κ ι]

def assign (g : GuildId) (id : β → ι) (val : β → Option α) (s : Shelf κ α) (b : β) : Shelf κ α :=
  match val b with
  | some a => s.put (some g) (Listed.key g (id b)) a
  | none => s.take (some g) (Listed.key g (id b))

def kept (id : β → ι) (val : β → Option α) (items : List β) : Std.ExtTreeSet ι :=
  .ofList ((items.filter fun b => (val b).isSome).map id)

def refill (s : Shelf κ α) (g : GuildId) (id : β → ι) (val : β → Option α) (items : List β) :
    Shelf κ α :=
  (items.foldl (assign g id val) (s.ensure g)).retain g (kept id val items)

def deciding? (g : GuildId) (id : β → ι) (items : List β) (k : κ) : Option β :=
  (Listed.id? g k).bind (last? id items)

section
variable {s : Shelf κ α} {g h : GuildId} {id : β → ι} {val : β → Option α} {items : List β} {k : κ}

theorem deciding?_eq_some {b : β} (found : deciding? g id items k = some b) :
    b ∈ items ∧ Listed.key g (id b) = k := by
  obtain ⟨i, hi, hb⟩ := Option.bind_eq_some_iff.1 found
  obtain ⟨mem, rfl⟩ := last?_eq_some hb
  exact ⟨mem, Listed.id?_eq_some_iff.1 hi⟩

theorem deciding?_eq_none : deciding? g id items k = none ↔ ∀ b ∈ items, Listed.key g (id b) ≠ k := by
  constructor
  · intro none b mem same
    rw [deciding?, Listed.id?_eq_some_iff.2 same, Option.bind_some] at none
    exact last?_eq_none.1 none b mem rfl
  · intro other
    cases found : deciding? g id items k with
    | none => rfl
    | some b => exact absurd (deciding?_eq_some found).2 (other b (deciding?_eq_some found).1)

@[simp] theorem deciding?_nil (k : κ) : deciding? g id [] k = none := by
  rw [deciding?_eq_none]
  simp

theorem deciding?_concat (items : List β) (b : β) (k : κ) :
    deciding? g id (items ++ [b]) k =
      if Listed.key g (id b) = k then some b else deciding? g id items k := by
  unfold deciding?
  cases hi : Listed.id? g k with
  | none =>
    rw [if_neg]
    · rfl
    · intro same
      rw [Listed.id?_eq_some_iff.2 same] at hi
      cases hi
  | some i =>
    have same : Listed.key g (id b) = k ↔ id b = i := by
      rw [← Listed.id?_eq_some_iff, hi, Option.some.injEq, eq_comm]
    simp only [Option.bind_some, last?_concat, same]

theorem names_kept : names (kept id val items) g k = true ↔
    ∃ b ∈ items, (val b).isSome = true ∧ Listed.key g (id b) = k := by
  rw [kept, names_ofList]
  constructor
  · rintro ⟨i, mem, hk⟩
    obtain ⟨b, hb, rfl⟩ := List.mem_map.1 mem
    exact ⟨b, (List.mem_filter.1 hb).1, (List.mem_filter.1 hb).2, hk⟩
  · rintro ⟨b, mem, some, hk⟩
    exact ⟨id b, List.mem_map_of_mem (List.mem_filter.2 ⟨mem, some⟩), hk⟩

/-! ## One item -/

theorem get?_assign (b : β) (k : κ) :
    (assign g id val s b).get? k = if Listed.key g (id b) = k then val b else s.get? k := by
  unfold assign
  cases val b with
  | none => exact get?_take ..
  | some a => exact get?_put ..

theorem isListed_assign {b : β} (other : Listed.key g (id b) ≠ k) :
    (assign g id val s b).isListed h k = s.isListed h k := by
  rw [Bool.eq_iff_iff]
  unfold assign
  cases val b with
  | none => simp [isListed_take, other]
  | some a => simp [isListed_put, other]

theorem lists_assign (b : β) (other : g ≠ h) :
    (assign g id val s b).lists[h]? = s.lists[h]? := by
  unfold assign
  cases val b with
  | none => exact lists_unlist other
  | some a => exact lists_enlist other

/-! ## All items -/

theorem get?_foldl_assign (k : κ) :
    (items.foldl (assign g id val) s).get? k =
      match deciding? g id items k with
      | some b => val b
      | none => s.get? k := by
  induction items using List.reverseRecOn with
  | nil => simp
  | append_singleton items b ih =>
    rw [List.foldl_concat, get?_assign, deciding?_concat, ih]
    split <;> rfl

theorem isListed_foldl_assign (none : deciding? g id items k = none) :
    (items.foldl (assign g id val) s).isListed h k = s.isListed h k := by
  induction items using List.reverseRecOn with
  | nil => rfl
  | append_singleton items b ih =>
    rw [deciding?_concat] at none
    split at none
    · cases none
    · next other => rw [List.foldl_concat, isListed_assign other, ih none]

theorem lists_foldl_assign (other : g ≠ h) :
    (items.foldl (assign g id val) s).lists[h]? = s.lists[h]? := by
  induction items using List.reverseRecOn with
  | nil => rfl
  | append_singleton items b ih => rw [List.foldl_concat, lists_assign b other, ih]

/-! ## The refilled shelf -/

theorem get?_refill (k : κ) :
    (s.refill g id val items).get? k =
      match deciding? g id items k with
      | some b => val b
      | none => if s.isListed g k then none else s.get? k := by
  rw [refill, get?_retain, get?_foldl_assign]
  cases found : deciding? g id items k with
  | some b =>
    obtain ⟨mem, hk⟩ := deciding?_eq_some found
    cases hv : val b with
    | none => simp [hv]
    | some a =>
      have named : names (kept id val items) g k = true := names_kept.2 ⟨b, mem, by simp [hv], hk⟩
      simp [named, hv]
  | none =>
    have unnamed : names (kept id val items) g k = false := by
      rw [Bool.eq_false_iff, ne_eq, names_kept]
      rintro ⟨b, mem, -, hk⟩
      exact deciding?_eq_none.1 found b mem hk
    simp [unnamed, isListed_foldl_assign found]

theorem lists_refill (s : Shelf κ α) (h : GuildId) :
    (s.refill g id val items).lists[h]? = if g = h then some (kept id val items) else s.lists[h]? := by
  simp only [refill, retain, Std.ExtTreeMap.getElem?_insert, Std.LawfulEqCmp.compare_eq_iff_eq]
  split
  · rfl
  · next other =>
    rw [lists_foldl_assign other]
    simp [ensure, Std.ExtTreeMap.getElem?_insertIfNew, other]

theorem ids_refill (s : Shelf κ α) (h : GuildId) :
    (s.refill g id val items).ids h = if g = h then kept id val items else s.ids h := by
  rw [ids, lists_refill]
  split <;> rfl

theorem isListed_refill (s : Shelf κ α) (h : GuildId) (k : κ) :
    (s.refill g id val items).isListed h k =
      if g = h then names (kept id val items) h k else s.isListed h k := by
  rw [isListed, ids_refill]
  split <;> rfl

theorem get?_refill_key {i : ι}
    (listed : ∀ a, s.get? (Listed.key g i) = some a → s.isListed g (Listed.key g i : κ) = true) :
    (s.refill g id val items).get? (Listed.key g i) = (last? id items i).bind val := by
  rw [get?_refill, deciding?, Listed.id?_eq_some_iff.2 rfl, Option.bind_some]
  cases last? id items i with
  | some b => rfl
  | none =>
    simp only [Option.bind_none, ite_eq_left_iff, Bool.not_eq_true]
    intro unlisted
    cases found : s.get? (Listed.key g i) with
    | none => rfl
    | some a => simp [listed a found] at unlisted

theorem mem_entities_refill {a : α} :
    a ∈ (s.refill g id val items).entities g ↔ ∃ b ∈ latest id items, val b = some a := by
  simp only [mem_entities, ids_refill, if_pos, get?_refill, deciding?, Listed.id?_eq_some_iff.2 rfl,
    Option.bind_some]
  constructor
  · rintro ⟨i, mem, found⟩
    cases decides : last? id items i with
    | some b =>
      obtain ⟨-, rfl⟩ := last?_eq_some decides
      rw [decides] at found
      exact ⟨b, mem_latest.2 decides, found⟩
    | none =>
      rw [kept, Std.ExtTreeSet.mem_ofList, List.contains_iff_mem, List.mem_map] at mem
      obtain ⟨b, hb, same⟩ := mem
      exact absurd same (last?_eq_none.1 decides b (List.mem_filter.1 hb).1)
  · rintro ⟨b, mem, hb⟩
    have decides := mem_latest.1 mem
    refine ⟨id b, ?_, by rw [decides]; exact hb⟩
    rw [kept, Std.ExtTreeSet.mem_ofList, List.contains_iff_mem]
    exact List.mem_map_of_mem (List.mem_filter.2 ⟨mem_of_mem_latest mem, by simp [hb]⟩)

theorem refill_close (s : Shelf κ α) (g : GuildId) (id : β → ι) (val : β → Option α)
    (items : List β) : (s.close g).refill g id val items = s.refill g id val items := by
  apply ext_get?
  · intro k
    rw [get?_refill, get?_refill, isListed_close, get?_close]
    cases deciding? g id items k <;> simp
  · intro h
    rw [lists_refill, lists_refill]
    split
    · rfl
    · next other => simp [close, Std.ExtTreeMap.getElem?_erase, other]

/-! ## Ownership -/

variable [Entry α κ ι] {cached : GuildId → Prop}

def Fits (g : GuildId) (id : β → ι) (val : β → Option α) (items : List β) : Prop :=
  ∀ b ∈ items, ∀ a, val b = some a → key a = Listed.key g (id b) ∧ owner? a = some g

def Steady (id : β → ι) (val : β → Option α) (items : List β) : Prop :=
  ∀ b ∈ items, (val b).isSome = true → ((last? id items (id b)).bind val).isSome = true

theorem steady_of_isSome (filled : ∀ b ∈ items, (val b).isSome = true) : Steady id val items := by
  intro b mem _
  obtain ⟨c, found⟩ := exists_last? id mem
  rw [found]
  exact filled c (last?_eq_some found).1

theorem Ownership.refill (own : s.Ownership cached) (fits : Fits g id val items) :
    (s.refill g id val items).Ownership fun h => g = h ∨ cached h where
  mem_lists h := by
    rw [← Std.ExtTreeMap.isSome_getElem?_iff_mem, lists_refill, ← own.mem_lists h,
      ← Std.ExtTreeMap.isSome_getElem?_iff_mem]
    split <;> simp_all
  key_eq {k a} found := by
    rw [get?_refill] at found
    split at found
    · next b hb =>
      obtain ⟨mem, hk⟩ := deciding?_eq_some hb
      exact (fits b mem a found).1.trans hk
    · split at found
      · cases found
      · exact own.key_eq found
  listed {k a h} found owner := by
    rw [get?_refill] at found
    rw [isListed_refill]
    split at found
    · next b hb =>
      obtain ⟨mem, hk⟩ := deciding?_eq_some hb
      have same : g = h := Option.some.inj ((fits b mem a found).2.symm.trans owner)
      subst same
      rw [if_pos rfl, names_kept]
      exact ⟨b, mem, by simp [found], hk⟩
    · split at found
      · cases found
      · next left =>
        have listed := own.listed found owner
        rw [if_neg]
        · exact listed
        · rintro rfl
          exact left listed

theorem Exact.refill (exact : s.Exact) (fits : Fits g id val items) (steady : Steady id val items)
    (yields : ∀ b ∈ items, s.Yields (Listed.key g (id b)) (some g)) :
    (s.refill g id val items).Exact := fun h k listed => by
  rw [isListed_refill] at listed
  rw [get?_refill]
  split at listed
  · next same =>
    subst same
    obtain ⟨b, mem, filled, rfl⟩ := names_kept.1 listed
    obtain ⟨a, ha⟩ := Option.isSome_iff_exists.1 (steady b mem filled)
    obtain ⟨c, hc, ha⟩ := Option.bind_eq_some_iff.1 ha
    have decides : deciding? g id items (Listed.key g (id b) : κ) = some c := by
      rw [deciding?, Listed.id?_eq_some_iff.2 rfl, Option.bind_some, hc]
    rw [decides]
    exact ⟨a, ha, (fits c (last?_eq_some hc).1 a ha).2⟩
  · next other =>
    obtain ⟨a, found, owner⟩ := exact h k listed
    cases decides : deciding? g id items k with
    | some b =>
      obtain ⟨mem, rfl⟩ := deciding?_eq_some decides
      exact absurd (Option.some.inj (yields b mem a h found owner)) other
    | none =>
      refine ⟨a, ?_, owner⟩
      rw [if_neg]
      · exact found
      · intro also
        obtain ⟨c, hc, owner'⟩ := exact g k also
        rw [found, Option.some.injEq] at hc
        subst hc
        exact other (Option.some.inj (owner'.symm.trans owner))

end
end Shelf
end GuildFeed
