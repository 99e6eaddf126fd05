import GuildFeed.Store.Shelf

namespace GuildFeed.Shelf

set_option linter.unusedSectionVars false

variable {κ ι α : Type} [Ord κ] [Std.TransOrd κ] [Std.LawfulEqOrd κ]
  [Ord ι] [Std.TransOrd ι] [Std.LawfulEqOrd ι] [Listed κ ι]

theorem names_iff {ids : Std.ExtTreeSet ι} {g : GuildId} {k : κ} :
    names ids g k = true ↔ ∃ i ∈ ids, Listed.key g i = k := by
  unfold names
  cases h : Listed.id? g k with
  | none =>
    simp only [Bool.false_eq_true, false_iff, not_exists, not_and]
    intro i _ hk
    simp [Listed.id?_eq_some_iff.2 hk] at h
  | some i =>
    simp only [Std.ExtTreeSet.contains_iff_mem]
    constructor
    · exact fun hi => ⟨i, hi, Listed.id?_eq_some_iff.1 h⟩
    · rintro ⟨j, hj, hk⟩
      rw [Listed.id?_eq_some_iff.2 hk, Option.some.injEq] at h
      exact h ▸ hj

theorem isListed_iff {s : Shelf κ α} {g : GuildId} {k : κ} :
    s.isListed g k = true ↔ ∃ i ∈ s.ids g, Listed.key g i = k :=
  names_iff

theorem bind_id?_eq_some_iff {owner : Option GuildId} {k : κ} {g : GuildId} {i : ι} :
    (owner.bind fun g => (Listed.id? g k).map (g, ·)) = some (g, i) ↔
      owner = some g ∧ Listed.id? g k = some i := by
  cases owner with
  | none => simp
  | some h =>
    simp only [Option.bind_some, Option.map_eq_some_iff, Prod.mk.injEq, Option.some.injEq]
    constructor
    · rintro ⟨j, hj, rfl, rfl⟩
      exact ⟨rfl, hj⟩
    · rintro ⟨rfl, hi⟩
      exact ⟨i, hi, rfl, rfl⟩

/-! ## What is under a key -/

@[simp] theorem get?_empty (k : κ) : (empty : Shelf κ α).get? k = none := by
  simp [empty, get?]

@[simp] theorem get?_ensure (s : Shelf κ α) (g : GuildId) (k : κ) :
    (s.ensure g).get? k = s.get? k := rfl

@[simp] theorem table_enlist (s : Shelf κ α) (owner : Option GuildId) (k : κ) :
    (s.enlist owner k).table = s.table := by
  unfold enlist
  split <;> rfl

@[simp] theorem table_unlist (s : Shelf κ α) (owner : Option GuildId) (k : κ) :
    (s.unlist owner k).table = s.table := by
  unfold unlist
  split <;> rfl

@[simp] theorem get?_enlist (s : Shelf κ α) (owner : Option GuildId) (k l : κ) :
    (s.enlist owner k).get? l = s.get? l := by
  simp [get?]

@[simp] theorem get?_unlist (s : Shelf κ α) (owner : Option GuildId) (k l : κ) :
    (s.unlist owner k).get? l = s.get? l := by
  simp [get?]

theorem get?_put [DecidableEq κ] (s : Shelf κ α) (owner : Option GuildId) (k l : κ) (a : α) :
    (s.put owner k a).get? l = if k = l then some a else s.get? l := by
  simp [put, get?, Std.ExtTreeMap.getElem?_insert]

theorem get?_put_self [DecidableEq κ] (s : Shelf κ α) (owner : Option GuildId) (k : κ) (a : α) :
    (s.put owner k a).get? k = some a := by
  rw [get?_put, if_pos rfl]

theorem get?_take [DecidableEq κ] (s : Shelf κ α) (owner : Option GuildId) (k l : κ) :
    (s.take owner k).get? l = if k = l then none else s.get? l := by
  simp [take, get?, Std.ExtTreeMap.getElem?_erase]

theorem get?_discard [DecidableEq κ] (s : Shelf κ α) (owner : Option GuildId) (k l : κ) :
    (s.discard owner k).get? l = if k = l then none else s.get? l := by
  unfold discard
  split
  · exact get?_take s owner k l
  · next h =>
    split
    · next hk =>
      subst hk
      simpa [get?] using h
    · rfl

theorem get?_modify [DecidableEq κ] (s : Shelf κ α) (k l : κ) (f : α → α) :
    (s.modify k f).get? l = if k = l then (s.get? l).map f else s.get? l := by
  simp only [modify, get?, Std.ExtTreeMap.getElem?_modify, Std.LawfulEqCmp.compare_eq_iff_eq]
  split
  · next h => rw [h]
  · rfl

theorem get?_foldl_modify [DecidableEq κ] {f : α → α} (again : ∀ a, f (f a) = f a) (s : Shelf κ α)
    (ks : List κ) (l : κ) :
    (ks.foldl (fun t k => t.modify k f) s).get? l = if l ∈ ks then (s.get? l).map f else s.get? l := by
  induction ks generalizing s with
  | nil => simp
  | cons k ks ih =>
    rw [List.foldl_cons, ih, get?_modify]
    by_cases same : k = l
    · simp [same, again, Function.comp_def]
    · simp [same, Ne.symm same]

theorem get?_modifyListed (s : Shelf κ α) (g : GuildId) (k : κ) (f : α → α) :
    (s.modifyListed g f).get? k = (s.get? k).map fun a => if s.isListed g k then f a else a := by
  simp [modifyListed, get?]

theorem get?_close (s : Shelf κ α) (g : GuildId) (k : κ) :
    (s.close g).get? k = if s.isListed g k then none else s.get? k := by
  simp only [close, get?, Std.ExtTreeMap.getElem?_filter']
  cases s.isListed g k <;> cases s.table[k]? <;> simp

theorem get?_retain (s : Shelf κ α) (g : GuildId) (keep : Std.ExtTreeSet ι) (k : κ) :
    (s.retain g keep).get? k =
      if s.isListed g k && !names keep g k then none else s.get? k := by
  simp only [retain, get?, Std.ExtTreeMap.getElem?_filter']
  cases s.isListed g k <;> cases names keep g k <;> cases s.table[k]? <;> simp

/-! ## Which guilds have a list -/

theorem mem_lists_ensure {s : Shelf κ α} {g h : GuildId} :
    h ∈ (s.ensure g).lists ↔ g = h ∨ h ∈ s.lists := by
  simp [ensure]

@[simp] theorem mem_lists_enlist {s : Shelf κ α} {owner : Option GuildId} {k : κ} {g : GuildId} :
    g ∈ (s.enlist owner k).lists ↔ g ∈ s.lists := by
  unfold enlist
  split
  · exact Std.ExtTreeMap.mem_modify
  · rfl

@[simp] theorem mem_lists_unlist {s : Shelf κ α} {owner : Option GuildId} {k : κ} {g : GuildId} :
    g ∈ (s.unlist owner k).lists ↔ g ∈ s.lists := by
  unfold unlist
  split
  · exact Std.ExtTreeMap.mem_modify
  · rfl

@[simp] theorem mem_lists_put {s : Shelf κ α} {owner : Option GuildId} {k : κ} {a : α}
    {g : GuildId} : g ∈ (s.put owner k a).lists ↔ g ∈ s.lists :=
  mem_lists_enlist

@[simp] theorem mem_lists_take {s : Shelf κ α} {owner : Option GuildId} {k : κ} {g : GuildId} :
    g ∈ (s.take owner k).lists ↔ g ∈ s.lists :=
  mem_lists_unlist

@[simp] theorem mem_lists_discard {s : Shelf κ α} {owner : Option GuildId} {k : κ}
    {g : GuildId} : g ∈ (s.discard owner k).lists ↔ g ∈ s.lists := by
  unfold discard
  split
  · exact mem_lists_take
  · rfl

theorem mem_lists_close {s : Shelf κ α} {g h : GuildId} :
    h ∈ (s.close g).lists ↔ g ≠ h ∧ h ∈ s.lists := by
  simp [close]

/-! ## Which ids a guild lists -/

theorem mem_lists_of_mem_ids {s : Shelf κ α} {g : GuildId} {i : ι} (h : i ∈ s.ids g) :
    g ∈ s.lists := by
  unfold ids at h
  cases hl : s.lists[g]? with
  | none => simp [hl] at h
  | some l => exact Std.ExtTreeMap.mem_iff_isSome_getElem?.2 (by simp [hl])

theorem ids_ensure (s : Shelf κ α) (g h : GuildId) : (s.ensure g).ids h = s.ids h := by
  simp only [ids, ensure, Std.ExtTreeMap.getElem?_insertIfNew, Std.LawfulEqCmp.compare_eq_iff_eq]
  split
  · next hg =>
    obtain ⟨rfl, hg⟩ := hg
    have : s.lists[g]? = none := Std.ExtTreeMap.getElem?_eq_none hg
    simp [this]
  · rfl

theorem ids_put (s : Shelf κ α) (owner : Option GuildId) (k : κ) (a : α) (g : GuildId) :
    (s.put owner k a).ids g = (s.enlist owner k).ids g := rfl

theorem getElem?_modify_list (s : Shelf κ α) (g h : GuildId)
    (f : Std.ExtTreeSet ι compare → Std.ExtTreeSet ι compare) :
    (s.lists.modify g f)[h]? = if g = h then (s.lists[h]?).map f else s.lists[h]? := by
  simp only [Std.ExtTreeMap.getElem?_modify, Std.LawfulEqCmp.compare_eq_iff_eq]
  split
  · next hg => rw [hg]
  · rfl

theorem lists_enlist {s : Shelf κ α} {g h : GuildId} {k : κ} (other : g ≠ h) :
    (s.enlist (some g) k).lists[h]? = s.lists[h]? := by
  unfold enlist
  split
  · next hb =>
    obtain ⟨same, -⟩ := bind_id?_eq_some_iff.1 hb
    cases same
    rw [getElem?_modify_list, if_neg other]
  · rfl

theorem lists_unlist {s : Shelf κ α} {g h : GuildId} {k : κ} (other : g ≠ h) :
    (s.unlist (some g) k).lists[h]? = s.lists[h]? := by
  unfold unlist
  split
  · next hb =>
    obtain ⟨same, -⟩ := bind_id?_eq_some_iff.1 hb
    cases same
    rw [getElem?_modify_list, if_neg other]
  · rfl

theorem mem_ids_enlist {s : Shelf κ α} {owner : Option GuildId} {k : κ} {g : GuildId} {i : ι} :
    i ∈ (s.enlist owner k).ids g ↔
      i ∈ s.ids g ∨ g ∈ s.lists ∧ owner = some g ∧ Listed.id? g k = some i := by
  rw [← bind_id?_eq_some_iff, ← Std.ExtTreeMap.isSome_getElem?_iff_mem]
  unfold enlist
  split
  · next h j hb =>
    rw [hb]
    simp only [ids, getElem?_modify_list, Option.some.injEq, Prod.mk.injEq]
    by_cases hg : h = g
    · subst hg
      cases s.lists[h]? with
      | none => simp
      | some l => simp [or_comm]
    · simp [hg]
  · next hb => simp [hb]

theorem mem_ids_unlist {s : Shelf κ α} {owner : Option GuildId} {k : κ} {g : GuildId} {i : ι} :
    i ∈ (s.unlist owner k).ids g ↔
      i ∈ s.ids g ∧ ¬ (owner = some g ∧ Listed.id? g k = some i) := by
  rw [← bind_id?_eq_some_iff]
  unfold unlist
  split
  · next h j hb =>
    rw [hb]
    simp only [ids, getElem?_modify_list, Option.some.injEq, Prod.mk.injEq]
    by_cases hg : h = g
    · subst hg
      cases s.lists[h]? with
      | none => simp
      | some l => simp [and_comm]
    · simp [hg]
  · next hb => simp [hb]

@[simp] theorem ids_modify (s : Shelf κ α) (k : κ) (f : α → α) (g : GuildId) :
    (s.modify k f).ids g = s.ids g := rfl

@[simp] theorem ids_modifyListed (s : Shelf κ α) (g h : GuildId) (f : α → α) :
    (s.modifyListed g f).ids h = s.ids h := rfl

theorem ids_retain (s : Shelf κ α) (g h : GuildId) (keep : Std.ExtTreeSet ι) :
    (s.retain g keep).ids h = if g = h then keep else s.ids h := by
  simp only [ids, retain, Std.ExtTreeMap.getElem?_insert, Std.LawfulEqCmp.compare_eq_iff_eq]
  split <;> rfl

theorem ids_close (s : Shelf κ α) (g h : GuildId) :
    (s.close g).ids h = if g = h then ∅ else s.ids h := by
  simp only [ids, close, Std.ExtTreeMap.getElem?_erase, Std.LawfulEqCmp.compare_eq_iff_eq]
  split <;> rfl

/-! ## Which entities a guild lists -/

theorem names_ofList [DecidableEq ι] {is : List ι} {g : GuildId} {k : κ} :
    names (.ofList is) g k = true ↔ ∃ i ∈ is, Listed.key g i = k := by
  simp [names_iff, Std.ExtTreeSet.mem_ofList]

theorem isListed_key {s : Shelf κ α} {g : GuildId} {i : ι} :
    s.isListed g (Listed.key g i) = true ↔ i ∈ s.ids g := by
  rw [isListed_iff]
  constructor
  · rintro ⟨j, hj, hk⟩
    have := Listed.id?_eq_some_iff.2 hk
    rw [Listed.id?_eq_some_iff.2 rfl, Option.some.injEq] at this
    exact this ▸ hj
  · exact fun hi => ⟨i, hi, rfl⟩

theorem isListed_congr {s t : Shelf κ α} {g : GuildId} (h : s.ids g = t.ids g) (k : κ) :
    s.isListed g k = t.isListed g k := by
  rw [isListed, isListed, h]

@[simp] theorem isListed_empty (g : GuildId) (k : κ) :
    (empty : Shelf κ α).isListed g k = false := by
  rw [Bool.eq_false_iff]
  simp [isListed_iff, empty, ids]

@[simp] theorem isListed_ensure (s : Shelf κ α) (g h : GuildId) (k : κ) :
    (s.ensure g).isListed h k = s.isListed h k :=
  isListed_congr (ids_ensure s g h) k

theorem isListed_put {s : Shelf κ α} {owner : Option GuildId} {k l : κ} {a : α} {g : GuildId} :
    (s.put owner k a).isListed g l = true ↔
      s.isListed g l = true ∨
        k = l ∧ owner = some g ∧ g ∈ s.lists ∧ (Listed.id? g k).isSome = true := by
  simp only [isListed_iff, ids_put, mem_ids_enlist]
  constructor
  · rintro ⟨i, hi | ⟨hg, ho, hi⟩, hk⟩
    · exact .inl ⟨i, hi, hk⟩
    · exact .inr ⟨(Listed.id?_eq_some_iff.1 hi).symm.trans hk, ho, hg, by simp [hi]⟩
  · rintro (⟨i, hi, hk⟩ | ⟨rfl, ho, hg, hs⟩)
    · exact ⟨i, .inl hi, hk⟩
    · obtain ⟨i, hi⟩ := Option.isSome_iff_exists.1 hs
      exact ⟨i, .inr ⟨hg, ho, hi⟩, Listed.id?_eq_some_iff.1 hi⟩

theorem isListed_unlist {s : Shelf κ α} {owner : Option GuildId} {k l : κ} {g : GuildId} :
    (s.unlist owner k).isListed g l = true ↔
      s.isListed g l = true ∧ ¬ (owner = some g ∧ k = l) := by
  simp only [isListed_iff, mem_ids_unlist, Listed.id?_eq_some_iff]
  constructor
  · rintro ⟨i, ⟨hi, hn⟩, rfl⟩
    exact ⟨⟨i, hi, rfl⟩, fun ⟨ho, hk⟩ => hn ⟨ho, hk.symm⟩⟩
  · rintro ⟨⟨i, hi, rfl⟩, hn⟩
    exact ⟨i, ⟨hi, fun ⟨ho, hk⟩ => hn ⟨ho, hk.symm⟩⟩, rfl⟩

theorem isListed_take {s : Shelf κ α} {owner : Option GuildId} {k l : κ} {g : GuildId} :
    (s.take owner k).isListed g l = true ↔
      s.isListed g l = true ∧ ¬ (owner = some g ∧ k = l) :=
  isListed_unlist

@[simp] theorem isListed_modify (s : Shelf κ α) (k l : κ) (f : α → α) (g : GuildId) :
    (s.modify k f).isListed g l = s.isListed g l := rfl

@[simp] theorem isListed_modifyListed (s : Shelf κ α) (g h : GuildId) (f : α → α) (k : κ) :
    (s.modifyListed g f).isListed h k = s.isListed h k := rfl

theorem isListed_retain (s : Shelf κ α) (g h : GuildId) (keep : Std.ExtTreeSet ι) (k : κ) :
    (s.retain g keep).isListed h k = if g = h then names keep h k else s.isListed h k := by
  rw [isListed, ids_retain]
  split <;> rfl

theorem isListed_close (s : Shelf κ α) (g h : GuildId) (k : κ) :
    (s.close g).isListed h k = if g = h then false else s.isListed h k := by
  rw [isListed, ids_close]
  split
  · exact Bool.eq_false_iff.2 (by simp [names_iff])
  · rfl

theorem ext_get? {s t : Shelf κ α} (h : ∀ k, s.get? k = t.get? k)
    (hl : ∀ g : GuildId, s.lists[g]? = t.lists[g]?) : s = t := by
  have table : s.table = t.table := Std.ExtTreeMap.ext_getElem? h
  have lists : s.lists = t.lists := Std.ExtTreeMap.ext_getElem? hl
  cases s
  cases t
  cases table
  cases lists
  rfl

theorem enlist_eq_self {s : Shelf κ α} {owner : Option GuildId} {k : κ}
    (listed : ∀ g, owner = some g → s.isListed g k = true) : s.enlist owner k = s := by
  apply ext_get?
  · exact get?_enlist s owner k
  · intro h
    unfold enlist
    split
    · next g i hb =>
      obtain ⟨owned, hi⟩ := bind_id?_eq_some_iff.1 hb
      obtain ⟨j, hj, hk⟩ := isListed_iff.1 (listed g owned)
      rw [Listed.id?_eq_some_iff.2 hk, Option.some.injEq] at hi
      subst hi
      rw [getElem?_modify_list]
      split
      · next same =>
        subst same
        unfold ids at hj
        cases hl : s.lists[g]? with
        | none => rfl
        | some l =>
          -- the id is in the list already
          have mem : j ∈ l := by simpa [hl] using hj
          have same : l.insert j = l := Std.ExtTreeSet.ext_mem fun i => by
            rw [Std.ExtTreeSet.mem_insert, or_iff_right_iff_imp]
            intro hij
            exact Std.LawfulEqCmp.eq_of_compare hij ▸ mem
          simp [same]
      · rfl
    · rfl

theorem unlist_eq_self {s : Shelf κ α} {owner : Option GuildId} {k : κ}
    (unlisted : ∀ g, owner = some g → s.isListed g k = false) : s.unlist owner k = s := by
  apply ext_get?
  · exact get?_unlist s owner k
  · intro h
    unfold unlist
    split
    · next g i hb =>
      obtain ⟨owned, hi⟩ := bind_id?_eq_some_iff.1 hb
      rw [getElem?_modify_list]
      split
      · next same =>
        subst same
        cases hl : s.lists[g]? with
        | none => rfl
        | some l =>
          have absent : i ∉ l := by
            intro mem
            have listed : s.isListed g k = true :=
              isListed_iff.2 ⟨i, by simpa [ids, hl] using mem, Listed.id?_eq_some_iff.1 hi⟩
            rw [unlisted g owned] at listed
            cases listed
          have same : l.erase i = l := Std.ExtTreeSet.ext_mem fun j => by
            rw [Std.ExtTreeSet.mem_erase, and_iff_right_iff_imp]
            intro mem hij
            exact absent (Std.LawfulEqCmp.eq_of_compare hij ▸ mem)
          simp [same]
      · rfl
    · rfl

theorem put_eq_self [DecidableEq κ] {s : Shelf κ α} {owner : Option GuildId} {k : κ} {a : α}
    (found : s.get? k = some a) (listed : ∀ g, owner = some g → s.isListed g k = true) :
    s.put owner k a = s := by
  apply ext_get?
  · intro l
    rw [get?_put]
    split
    · next same => rw [← same, found]
    · rfl
  · intro h
    change (s.enlist owner k).lists[h]? = s.lists[h]?
    rw [enlist_eq_self listed]

theorem take_eq_self [DecidableEq κ] {s : Shelf κ α} {owner : Option GuildId} {k : κ}
    (absent : s.get? k = none) (unlisted : ∀ g, owner = some g → s.isListed g k = false) :
    s.take owner k = s := by
  apply ext_get?
  · intro l
    rw [get?_take]
    split
    · next same => rw [← same, absent]
    · rfl
  · intro h
    change (s.unlist owner k).lists[h]? = s.lists[h]?
    rw [unlist_eq_self unlisted]

theorem discard_eq_self {s : Shelf κ α} {owner : Option GuildId} {k : κ}
    (absent : s.get? k = none) : s.discard owner k = s := by
  unfold discard
  rw [if_neg]
  simpa [get?] using absent

theorem discard_of_get? {s : Shelf κ α} {owner : Option GuildId} {k : κ} {a : α} (found : s.get? k = some a) :
    s.discard owner k = s.take owner k := by
  have stored : s.table[k]? = some a := found
  rw [discard, if_pos]
  rw [Std.ExtTreeMap.contains_eq_isSome_getElem?, stored]
  rfl

theorem pop_eq (s : Shelf κ α) (owner : α → Option GuildId) (k : κ) :
    s.pop owner k = (s.get? k, s.discard ((s.get? k).bind owner) k) := by
  cases found : s.get? k with
  | none =>
    have absent : s.table[k]? = none := found
    rw [pop, absent, discard_eq_self found]
  | some a =>
    have stored : s.table[k]? = some a := found
    rw [pop, stored, discard_of_get? found]
    rfl

theorem pop_const (s : Shelf κ α) (owner : Option GuildId) (k : κ) :
    s.pop (fun _ => owner) k = (s.get? k, s.discard owner k) := by
  rw [pop_eq]
  cases found : s.get? k with
  | none => rw [discard_eq_self found, discard_eq_self found]
  | some a => rfl

theorem modify_eq_self [DecidableEq κ] {s : Shelf κ α} {k : κ} {f : α → α}
    (fixed : ∀ a, s.get? k = some a → f a = a) : s.modify k f = s := by
  apply ext_get?
  · intro l
    rw [get?_modify]
    split
    · next same =>
      subst same
      cases found : s.get? k with
      | none => rfl
      | some a => exact congrArg some (fixed a found)
    · rfl
  · exact fun _ => rfl

theorem foldl_modify_filter [DecidableEq κ] {s : Shelf κ α} {k : κ} (absent : s.get? k = none) (ks : List κ)
    (f : α → α) :
    (ks.filter (· ≠ k)).foldl (fun t l => t.modify l f) s = ks.foldl (fun t l => t.modify l f) s := by
  induction ks generalizing s with
  | nil => rfl
  | cons l ks ih =>
    rw [List.foldl_cons, List.filter_cons]
    by_cases same : l = k
    · subst same
      rw [modify_eq_self (by simp [absent]), ← ih absent]
      simp
    · have still : (s.modify l f).get? k = none := by rw [get?_modify, if_neg same, absent]
      rw [← ih still]
      simp [same]

theorem close_eq_self {s : Shelf κ α} {g : GuildId} (without : g ∉ s.lists) : s.close g = s := by
  have unlisted (k : κ) : s.isListed g k = false := by
    rw [Bool.eq_false_iff, ne_eq, isListed_iff]
    rintro ⟨i, mem, -⟩
    exact without (mem_lists_of_mem_ids mem)
  apply ext_get?
  · intro k
    rw [get?_close, unlisted]
    rfl
  · intro h
    simp only [close, Std.ExtTreeMap.getElem?_erase, Std.LawfulEqCmp.compare_eq_iff_eq]
    split
    · next same => rw [← same, Std.ExtTreeMap.getElem?_eq_none without]
    · rfl

end GuildFeed.Shelf
