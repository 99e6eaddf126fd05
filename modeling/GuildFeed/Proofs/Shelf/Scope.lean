import Mathlib.Data.List.Basic
import GuildFeed.Proofs.Shelf.Ownership

/-!
# Parts of a shelf

A scope is a set of guilds with a set of keys. An operation is local to a scope if what it makes of
the scope depends on the scope alone and it leaves all else as it was. Closing the list of a guild
is local only because the guilds of a scope list no keys outside of it, which every local operation
has to maintain.
-/

namespace GuildFeed.Shelf
open Entry

set_option linter.unusedSectionVars false

variable {κ ι α β : Type} [Ord κ] [Std.TransOrd κ] [Std.LawfulEqOrd κ] [DecidableEq κ]
  [Ord ι] [Std.TransOrd ι] [Std.LawfulEqOrd ι] [Listed κ ι] [Entry α κ ι]

structure Agree (guilds : GuildId → Prop) (keys : κ → Prop) (s t : Shelf κ α) : Prop where
  get? : ∀ k, keys k → s.get? k = t.get? k
  lists : ∀ g : GuildId, guilds g → s.lists[g]? = t.lists[g]?

structure Inside (guilds : GuildId → Prop) (keys : κ → Prop) (a : α) : Prop where
  key : keys (key a)
  owner : ∀ g, owner? a = some g → guilds g

structure Tidy (guilds : GuildId → Prop) (keys : κ → Prop) (s : Shelf κ α) : Prop where
  listed : ∀ g k, guilds g → s.isListed g k = true → keys k
  entry : ∀ k a, keys k → s.get? k = some a → Inside guilds keys a

structure Local (guilds : GuildId → Prop) (keys : κ → Prop) (f : Shelf κ α → Shelf κ α) : Prop where
  tidy : ∀ s, s.Tidy guilds keys → (f s).Tidy guilds keys
  agree : ∀ s t, s.Tidy guilds keys → s.Agree guilds keys t → (f s).Agree guilds keys (f t)
  frame : ∀ s, s.Tidy guilds keys → (f s).Agree (¬ guilds ·) (¬ keys ·) s

variable {guilds : GuildId → Prop} {keys : κ → Prop} {s t u : Shelf κ α} {g : GuildId} {k : κ}

namespace Agree

theorem refl (s : Shelf κ α) : s.Agree guilds keys s := ⟨fun _ _ => rfl, fun _ _ => rfl⟩

theorem symm (same : s.Agree guilds keys t) : t.Agree guilds keys s :=
  ⟨fun k hk => (same.get? k hk).symm, fun g hg => (same.lists g hg).symm⟩

theorem trans (st : s.Agree guilds keys t) (tu : t.Agree guilds keys u) : s.Agree guilds keys u :=
  ⟨fun k hk => (st.get? k hk).trans (tu.get? k hk), fun g hg => (st.lists g hg).trans (tu.lists g hg)⟩

theorem mono {guilds' : GuildId → Prop} {keys' : κ → Prop} (same : s.Agree guilds keys t)
    (hg : ∀ g, guilds' g → guilds g) (hk : ∀ k, keys' k → keys k) : s.Agree guilds' keys' t :=
  ⟨fun k h => same.get? k (hk k h), fun g h => same.lists g (hg g h)⟩

theorem ids (same : s.Agree guilds keys t) (hg : guilds g) : s.ids g = t.ids g := by
  rw [Shelf.ids, Shelf.ids, same.lists g hg]

theorem isListed (same : s.Agree guilds keys t) (hg : guilds g) (k : κ) : s.isListed g k = t.isListed g k :=
  isListed_congr (same.ids hg) k

theorem entities (same : s.Agree guilds keys t) (tidy : s.Tidy guilds keys) (hg : guilds g) :
    s.entities g = t.entities g := by
  unfold Shelf.entities
  rw [same.ids hg]
  apply List.filterMap_congr
  intro i mem
  apply same.get?
  apply tidy.listed g _ hg
  rw [isListed_key, same.ids hg]
  exact Std.ExtTreeSet.mem_toList.1 mem

end Agree

theorem Tidy.congr (tidy : s.Tidy guilds keys) (same : s.Agree guilds keys t) : t.Tidy guilds keys where
  listed g k hg listed := tidy.listed g k hg ((same.isListed hg k).trans listed)
  entry k a hk found := tidy.entry k a hk ((same.get? k hk).trans found)

theorem Tidy.unlisted (tidy : s.Tidy guilds keys) (hg : guilds g) (hk : ¬ keys k) : s.isListed g k = false :=
  Bool.eq_false_iff.2 fun listed => hk (tidy.listed g k hg listed)

theorem tidy_empty : (empty : Shelf κ α).Tidy guilds keys where
  listed _ _ _ listed := by simp at listed
  entry _ _ _ found := by simp at found

/-! ## Lists -/

theorem lists_ensure (s : Shelf κ α) (g h : GuildId) :
    (s.ensure g).lists[h]? = if g = h then some (s.ids h) else s.lists[h]? := by
  simp only [ensure, Std.ExtTreeMap.getElem?_insertIfNew, Std.LawfulEqCmp.compare_eq_iff_eq, ids]
  by_cases same : g = h
  · subst same
    cases found : s.lists[g]? with
    | none =>
      have absent : g ∉ s.lists := by simpa using found
      simp [absent]
    | some l =>
      have present : g ∈ s.lists := Std.ExtTreeMap.mem_iff_isSome_getElem?.2 (by simp [found])
      simp [present]
  · simp [same]

theorem lists_enlist_congr {h : GuildId} (same : s.lists[h]? = t.lists[h]?) (owner : Option GuildId) (k : κ) :
    (s.enlist owner k).lists[h]? = (t.enlist owner k).lists[h]? := by
  unfold enlist
  split
  · rw [getElem?_modify_list, getElem?_modify_list, same]
  · exact same

theorem lists_unlist_congr {h : GuildId} (same : s.lists[h]? = t.lists[h]?) (owner : Option GuildId) (k : κ) :
    (s.unlist owner k).lists[h]? = (t.unlist owner k).lists[h]? := by
  unfold unlist
  split
  · rw [getElem?_modify_list, getElem?_modify_list, same]
  · exact same

theorem lists_enlist_of_ne {owner : Option GuildId} {h : GuildId} (other : owner ≠ some h) :
    (s.enlist owner k).lists[h]? = s.lists[h]? := by
  cases owner with
  | none => rfl
  | some g => exact lists_enlist fun same => other (congrArg some same)

theorem lists_unlist_of_ne {owner : Option GuildId} {h : GuildId} (other : owner ≠ some h) :
    (s.unlist owner k).lists[h]? = s.lists[h]? := by
  cases owner with
  | none => rfl
  | some g => exact lists_unlist fun same => other (congrArg some same)

/-! ## Local operations -/

namespace Local

theorem id : Local guilds keys fun s : Shelf κ α => s :=
  ⟨fun _ tidy => tidy, fun _ _ _ same => same, fun s _ => .refl s⟩

theorem comp {f h : Shelf κ α → Shelf κ α} (hf : Local guilds keys f) (hh : Local guilds keys h) :
    Local guilds keys fun s => h (f s) where
  tidy s tidy := hh.tidy _ (hf.tidy s tidy)
  agree s t tidy same := hh.agree _ _ (hf.tidy s tidy) (hf.agree s t tidy same)
  frame s tidy := (hh.frame _ (hf.tidy s tidy)).trans (hf.frame s tidy)

theorem foldl {f : Shelf κ α → β → Shelf κ α} {items : List β}
    (each : ∀ b ∈ items, Local guilds keys (f · b)) : Local guilds keys (items.foldl f) := by
  induction items with
  | nil => exact id
  | cons b items ih =>
    exact (each b List.mem_cons_self).comp (ih fun c mem => each c (List.mem_cons_of_mem b mem))

theorem ensure (hg : guilds g) : Local (α := α) guilds keys (·.ensure g) where
  tidy s tidy := by
    constructor
    · intro h k hh listed
      rw [isListed_ensure] at listed
      exact tidy.listed h k hh listed
    · exact tidy.entry
  agree s t _ same := by
    refine ⟨same.get?, fun h hh => ?_⟩
    rw [lists_ensure, lists_ensure, same.ids hh, same.lists h hh]
  frame s _ := by
    refine ⟨fun _ _ => rfl, fun h hh => ?_⟩
    rw [lists_ensure, if_neg]
    rintro rfl
    exact hh hg

theorem put {owner : Option GuildId} {a : α} (hk : keys k) (ho : ∀ g, owner = some g → guilds g)
    (ha : Inside guilds keys a) : Local guilds keys (·.put owner k a) where
  tidy s tidy := by
    constructor
    · intro h l hh listed
      rcases isListed_put.1 listed with listed | ⟨rfl, -, -, -⟩
      · exact tidy.listed h l hh listed
      · exact hk
    · intro l b hl found
      rw [get?_put] at found
      by_cases same : k = l
      · rw [if_pos same, Option.some.injEq] at found
        exact found ▸ ha
      · rw [if_neg same] at found
        exact tidy.entry l b hl found
  agree s t _ same := by
    constructor
    · intro l hl
      rw [get?_put, get?_put, same.get? l hl]
    · intro h hh
      exact lists_enlist_congr (same.lists h hh) owner k
  frame s _ := by
    constructor
    · intro l hl
      rw [get?_put, if_neg]
      rintro rfl
      exact hl hk
    · intro h hh
      exact lists_enlist_of_ne fun own => hh (ho h own)

theorem take {owner : Option GuildId} (hk : keys k) (ho : ∀ g, owner = some g → guilds g) :
    Local (α := α) guilds keys (·.take owner k) where
  tidy s tidy := by
    constructor
    · intro h l hh listed
      exact tidy.listed h l hh (isListed_take.1 listed).1
    · intro l b hl found
      rw [get?_take] at found
      by_cases same : k = l
      · rw [if_pos same] at found
        cases found
      · rw [if_neg same] at found
        exact tidy.entry l b hl found
  agree s t _ same := by
    constructor
    · intro l hl
      rw [get?_take, get?_take, same.get? l hl]
    · intro h hh
      exact lists_unlist_congr (same.lists h hh) owner k
  frame s _ := by
    constructor
    · intro l hl
      rw [get?_take, if_neg]
      rintro rfl
      exact hl hk
    · intro h hh
      exact lists_unlist_of_ne fun own => hh (ho h own)

theorem discard {owner : Option GuildId} (hk : keys k) (ho : ∀ g, owner = some g → guilds g) :
    Local (α := α) guilds keys (·.discard owner k) := by
  have taken : Local (α := α) guilds keys (·.take owner k) := take hk ho
  have discards (s : Shelf κ α) : s.discard owner k = if (s.get? k).isSome then s.take owner k else s := by
    rw [Shelf.discard, Shelf.get?, Std.ExtTreeMap.contains_eq_isSome_getElem?]
  constructor
  · intro s tidy
    rw [discards]
    split
    · exact taken.tidy s tidy
    · exact tidy
  · intro s t tidy same
    rw [discards, discards, same.get? k hk]
    split
    · exact taken.agree s t tidy same
    · exact same
  · intro s tidy
    rw [discards]
    split
    · exact taken.frame s tidy
    · exact .refl s

theorem modify {f : α → α} (hk : keys k) (hf : ∀ a, Inside guilds keys a → Inside guilds keys (f a)) :
    Local guilds keys (·.modify k f) where
  tidy s tidy := by
    constructor
    · exact tidy.listed
    · intro l b hl found
      rw [get?_modify] at found
      by_cases same : k = l
      · rw [if_pos same] at found
        obtain ⟨a, ha, rfl⟩ := Option.map_eq_some_iff.1 found
        exact hf a (tidy.entry l a hl ha)
      · rw [if_neg same] at found
        exact tidy.entry l b hl found
  agree s t _ same := by
    refine ⟨fun l hl => ?_, same.lists⟩
    rw [get?_modify, get?_modify, same.get? l hl]
  frame s _ := by
    refine ⟨fun l hl => ?_, fun _ _ => rfl⟩
    rw [get?_modify, if_neg]
    rintro rfl
    exact hl hk

theorem modifyListed {f : α → α} (hg : guilds g)
    (hf : ∀ a, Inside guilds keys a → Inside guilds keys (f a)) : Local guilds keys (·.modifyListed g f) where
  tidy s tidy := by
    constructor
    · exact tidy.listed
    · intro l b hl found
      rw [get?_modifyListed] at found
      obtain ⟨a, ha, rfl⟩ := Option.map_eq_some_iff.1 found
      have inside := tidy.entry l a hl ha
      by_cases listed : s.isListed g l = true
      · rw [if_pos listed]
        exact hf a inside
      · rwa [if_neg listed]
  agree s t _ same := by
    refine ⟨fun l hl => ?_, same.lists⟩
    rw [get?_modifyListed, get?_modifyListed, same.get? l hl, same.isListed hg l]
  frame s tidy := by
    refine ⟨fun l hl => ?_, fun _ _ => rfl⟩
    rw [get?_modifyListed, tidy.unlisted hg hl]
    simp

theorem retain {keep : Std.ExtTreeSet ι} (hg : guilds g) (hk : ∀ k : κ, names keep g k = true → keys k) :
    Local (α := α) guilds keys (·.retain g keep) where
  tidy s tidy := by
    constructor
    · intro h l hh listed
      rw [isListed_retain] at listed
      by_cases same : g = h
      · subst same
        rw [if_pos rfl] at listed
        exact hk l listed
      · rw [if_neg same] at listed
        exact tidy.listed h l hh listed
    · intro l b hl found
      rw [get?_retain] at found
      split at found
      · cases found
      · exact tidy.entry l b hl found
  agree s t _ same := by
    constructor
    · intro l hl
      rw [get?_retain, get?_retain, same.get? l hl, same.isListed hg l]
    · intro h hh
      simp only [Shelf.retain, Std.ExtTreeMap.getElem?_insert, same.lists h hh]
  frame s tidy := by
    constructor
    · intro l hl
      rw [get?_retain, tidy.unlisted hg hl]
      rfl
    · intro h hh
      have other : g ≠ h := by
        rintro rfl
        exact hh hg
      simp [Shelf.retain, Std.ExtTreeMap.getElem?_insert, other]

theorem close (hg : guilds g) : Local (α := α) guilds keys (·.close g) where
  tidy s tidy := by
    constructor
    · intro h l hh listed
      rw [isListed_close] at listed
      split at listed
      · cases listed
      · exact tidy.listed h l hh listed
    · intro l b hl found
      rw [get?_close] at found
      split at found
      · cases found
      · exact tidy.entry l b hl found
  agree s t _ same := by
    constructor
    · intro l hl
      rw [get?_close, get?_close, same.get? l hl, same.isListed hg l]
    · intro h hh
      simp only [Shelf.close, Std.ExtTreeMap.getElem?_erase, same.lists h hh]
  frame s tidy := by
    constructor
    · intro l hl
      rw [get?_close, tidy.unlisted hg hl]
      rfl
    · intro h hh
      have other : g ≠ h := by
        rintro rfl
        exact hh hg
      simp [Shelf.close, Std.ExtTreeMap.getElem?_erase, other]

end Local
end GuildFeed.Shelf
