import GuildFeed.Proofs.Shelf.Refill

namespace GuildFeed.Shelf

set_option linter.unusedSectionVars false

variable {κ ι α β : Type} [Ord κ] [Std.TransOrd κ] [Std.LawfulEqOrd κ] [DecidableEq κ]
  [Ord ι] [Std.TransOrd ι] [Std.LawfulEqOrd ι] [DecidableEq ι] [Listed κ ι]

theorem refill_refill (s : Shelf κ α) (g : GuildId) (id : β → ι) (val : β → Option α) (items : List β) :
    (s.refill g id val items).refill g id val items = s.refill g id val items := by
  apply ext_get?
  · intro k
    rw [get?_refill]
    cases decides : deciding? g id items k with
    | some b => rw [get?_refill, decides]
    | none =>
      have unlisted : (s.refill g id val items).isListed g k = false := by
        rw [isListed_refill, if_pos rfl, Bool.eq_false_iff, ne_eq, names_kept]
        rintro ⟨b, mem, -, same⟩
        exact deciding?_eq_none.1 decides b mem same
      rw [unlisted]
      rfl
  · intro h
    rw [lists_refill, lists_refill]
    split <;> rfl

theorem assign_assign (s : Shelf κ α) {g : GuildId} (cached : g ∈ s.lists) (id : β → ι)
    (val : β → Option α) (b : β) : assign g id val (assign g id val s b) b = assign g id val s b := by
  unfold assign
  cases val b with
  | none =>
    apply take_eq_self
    · rw [get?_take, if_pos rfl]
    · rintro _ ⟨⟩
      rw [Bool.eq_false_iff, ne_eq, isListed_take]
      exact fun listed => listed.2 ⟨rfl, rfl⟩
  | some a =>
    apply put_eq_self
    · rw [get?_put, if_pos rfl]
    · rintro _ ⟨⟩
      exact isListed_put.2 (.inr ⟨rfl, rfl, cached, by simp [Listed.id?_eq_some_iff.2 rfl]⟩)

def amend (g : GuildId) (id : β → ι) (val : Option α → β → α) (s : Shelf κ α) (b : β) : Shelf κ α :=
  s.put (some g) (Listed.key g (id b)) (val (s.get? (Listed.key g (id b))) b)

section
variable {s : Shelf κ α} {g : GuildId} {id : β → ι} {val : Option α → β → α} {items : List β}

theorem get?_foldl_amend (k : κ) : (items.foldl (amend g id val) s).get? k =
    (items.filter fun b => Listed.key g (id b) = k).foldl (fun o b => some (val o b)) (s.get? k) := by
  induction items generalizing s with
  | nil => rfl
  | cons b items ih =>
    rw [List.foldl_cons, ih, amend, get?_put]
    by_cases same : Listed.key g (id b) = k
    · subst same
      simp
    · simp [same]

theorem isListed_amend {b : β} {k : κ} : (amend g id val s b).isListed g k = true ↔
    s.isListed g k = true ∨ Listed.key g (id b) = k ∧ g ∈ s.lists := by
  rw [amend, isListed_put]
  simp [Listed.id?_eq_some_iff.2 rfl]

theorem isListed_foldl_amend (cached : g ∈ s.lists) {k : κ} :
    (items.foldl (amend g id val) s).isListed g k = true ↔
      s.isListed g k = true ∨ ∃ b ∈ items, Listed.key g (id b) = k := by
  induction items generalizing s with
  | nil => simp
  | cons b items ih =>
    have cached' : g ∈ (amend g id val s b).lists := mem_lists_put.2 cached
    rw [List.foldl_cons, ih cached', isListed_amend]
    simp only [List.mem_cons, exists_eq_or_imp, cached, and_true, or_assoc]

theorem lists_foldl_amend (listed : ∀ b ∈ items, s.isListed g (Listed.key g (id b) : κ) = true) :
    (items.foldl (amend g id val) s).lists = s.lists := by
  induction items generalizing s with
  | nil => rfl
  | cons b items ih =>
    have same : (amend g id val s b).lists = s.lists := by
      change (s.enlist (some g) (Listed.key g (id b))).lists = s.lists
      rw [enlist_eq_self]
      rintro _ ⟨⟩
      exact listed b List.mem_cons_self
    rw [List.foldl_cons, ih, same]
    exact fun c mem => isListed_amend.2 (.inl (listed c (List.mem_cons_of_mem b mem)))

def Repeatable (id : β → ι) (val : Option α → β → α) : Prop :=
  ∀ (items : List β) (o : Option α), (∀ b ∈ items, ∀ c ∈ items, id b = id c) →
    items.foldl (fun o b => some (val o b)) (items.foldl (fun o b => some (val o b)) o) =
      items.foldl (fun o b => some (val o b)) o

theorem foldl_amend_again (items : List β) (repeatable : Repeatable id val) (cached : g ∈ s.lists) :
    items.foldl (amend g id val) (items.foldl (amend g id val) s) = items.foldl (amend g id val) s := by
  apply ext_get?
  · intro k
    rw [get?_foldl_amend, get?_foldl_amend]
    apply repeatable
    intro b hb c hc
    have hb : Listed.key g (id b) = k := of_decide_eq_true (List.mem_filter.1 hb).2
    have hc : Listed.key g (id c) = k := of_decide_eq_true (List.mem_filter.1 hc).2
    exact Option.some.inj ((Listed.id?_eq_some_iff.2 hb).symm.trans (Listed.id?_eq_some_iff.2 hc))
  · intro h
    rw [lists_foldl_amend]
    intro b mem
    exact (isListed_foldl_amend cached).2 (.inr ⟨b, mem, rfl⟩)

end
end GuildFeed.Shelf
