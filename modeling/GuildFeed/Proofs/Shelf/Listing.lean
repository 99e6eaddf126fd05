import Mathlib.Data.List.Basic
import GuildFeed.Store.Shelf.Lemmas

namespace GuildFeed

def Ascending {α : Type} (cmp : α → α → Ordering) (l : List α) : Prop :=
  l.Pairwise fun a b => cmp a b = .lt

instance {α : Type} (cmp : α → α → Ordering) (l : List α) : Decidable (Ascending cmp l) :=
  inferInstanceAs (Decidable (l.Pairwise fun a b => cmp a b = .lt))

namespace Ascending

variable {α : Type} {cmp : α → α → Ordering} {l m : List α}

theorem nodup [Std.ReflCmp cmp] (h : Ascending cmp l) : l.Nodup := by
  apply h.imp
  rintro a _ lt rfl
  have self : cmp a a = .eq := Std.ReflCmp.compare_self
  rw [self] at lt
  cases lt

theorem count_eq_one [Std.ReflCmp cmp] [DecidableEq α] (h : Ascending cmp l) {a : α} (mem : a ∈ l) :
    l.count a = 1 := by
  rw [h.nodup.count, if_pos mem]

theorem ext [Std.TransCmp cmp] (hl : Ascending cmp l) (hm : Ascending cmp m)
    (same : ∀ a, a ∈ l ↔ a ∈ m) : l = m := by
  apply List.Perm.eq_of_pairwise ?_ hl hm
  · exact (List.perm_ext_iff_of_nodup hl.nodup hm.nodup).2 same
  · intro a b _ _ lt gt
    have swap : cmp b a = (cmp a b).swap := Std.OrientedCmp.eq_swap
    rw [swap, lt] at gt
    cases gt

theorem nodup_map {β ι : Type} [Ord ι] [Std.TransOrd ι] {name : α → ι} {f : α → β}
    (h : Ascending (compareOn name) l) (tells : ∀ a b, f a = f b → name a = name b) : (l.map f).Nodup := by
  refine List.Pairwise.map f ?_ h
  intro a b lt eq
  have self : compare (name b) (name b) = .eq := Std.ReflCmp.compare_self
  rw [compareOn, tells a b eq, self] at lt
  cases lt

theorem mergeSort [Std.TransCmp cmp] (distinct : l.Pairwise fun a b => cmp a b ≠ .eq) :
    Ascending cmp (l.mergeSort fun a b => (cmp a b).isLE) := by
  have sorted : (l.mergeSort fun a b => (cmp a b).isLE).Pairwise fun a b => (cmp a b).isLE := by
    apply List.pairwise_mergeSort
    · intro a b c ab bc
      exact Std.TransCmp.isLE_trans ab bc
    · intro a b
      have swap : cmp b a = (cmp a b).swap := Std.OrientedCmp.eq_swap
      rw [swap]
      cases cmp a b <;> rfl
  have apart : (l.mergeSort fun a b => (cmp a b).isLE).Pairwise fun a b => cmp a b ≠ .eq := by
    refine (List.mergeSort_perm l _).symm.pairwise distinct ?_
    intro a b ne eq
    exact ne (Std.OrientedCmp.eq_symm eq)
  refine (sorted.and apart).imp ?_
  rintro a b ⟨le, ne⟩
  cases order : cmp a b with
  | lt => rfl
  | eq => exact absurd order ne
  | gt => simp [order] at le

theorem mergeSort_eq [Std.TransCmp cmp] (hm : Ascending cmp m) (perm : l.Perm m) :
    (l.mergeSort fun a b => (cmp a b).isLE) = m := by
  have distinct : l.Pairwise fun a b => cmp a b ≠ .eq := by
    refine perm.symm.pairwise (hm.imp ?_) ?_
    · intro a b lt eq
      rw [lt] at eq
      cases eq
    · intro a b ne eq
      exact ne (Std.OrientedCmp.eq_symm eq)
  refine (mergeSort distinct).ext hm fun a => ?_
  rw [List.mem_mergeSort, perm.mem_iff]

theorem resort {ι : Type} [Ord ι] [Std.TransOrd ι] [Std.TransCmp cmp] {name : α → ι}
    (h : Ascending (compareOn name) l) (tells : ∀ a b, cmp a b = .eq → name a = name b) :
    Ascending cmp (l.mergeSort fun a b => (cmp a b).isLE) := by
  refine mergeSort (h.imp ?_)
  intro a b lt eq
  have self : compare (name b) (name b) = .eq := Std.ReflCmp.compare_self
  rw [compareOn, tells a b eq, self] at lt
  cases lt

end Ascending

namespace Shelf

set_option linter.unusedSectionVars false

variable {κ ι α : Type} [Ord κ] [Std.TransOrd κ] [Std.LawfulEqOrd κ]
  [Ord ι] [Std.TransOrd ι] [Std.LawfulEqOrd ι] [Listed κ ι] {s : Shelf κ α} {g : GuildId}

theorem mem_entities {a : α} :
    a ∈ s.entities g ↔ ∃ i, i ∈ s.ids g ∧ s.get? (Listed.key g i) = some a := by
  simp only [entities, List.mem_filterMap, Std.ExtTreeSet.mem_toList]

theorem ascending_entities {name : α → ι}
    (named : ∀ {i a}, s.get? (Listed.key g i) = some a → name a = i) :
    Ascending (compareOn name) (s.entities g) := by
  refine List.Pairwise.filterMap _ ?_ Std.ExtTreeSet.ordered_toList
  intro i j lt a ha b hb
  rw [compareOn, named ha, named hb]
  exact lt

theorem exists_mem_entities (name : α → ι)
    (named : ∀ {i a}, s.get? (Listed.key g i) = some a → name a = i) {k : κ} :
    (∃ a ∈ s.entities g, Listed.key g (name a) = k) ↔ s.isListed g k = true ∧ (s.get? k).isSome = true := by
  constructor
  · rintro ⟨a, mem, rfl⟩
    obtain ⟨i, listed, found⟩ := mem_entities.1 mem
    rw [named found]
    exact ⟨isListed_key.2 listed, by rw [found]; rfl⟩
  · rintro ⟨listed, stored⟩
    obtain ⟨i, mem, rfl⟩ := isListed_iff.1 listed
    obtain ⟨a, found⟩ := Option.isSome_iff_exists.1 stored
    exact ⟨a, mem_entities.2 ⟨i, mem, found⟩, by rw [named found]⟩

theorem map_entities {name : α → ι} (named : ∀ {i a}, s.get? (Listed.key g i) = some a → name a = i)
    (full : ∀ i ∈ s.ids g, (s.get? (Listed.key g i)).isSome = true) :
    (s.entities g).map name = (s.ids g).toList := by
  have shown (i : ι) (mem : i ∈ (s.ids g).toList) : (s.get? (Listed.key g i)).map name = some i := by
    obtain ⟨a, found⟩ := Option.isSome_iff_exists.1 (full i (Std.ExtTreeSet.mem_toList.1 mem))
    rw [found, Option.map_some, named found]
  rw [entities, List.map_filterMap, List.filterMap_congr shown, List.filterMap_some]

end Shelf
end GuildFeed
