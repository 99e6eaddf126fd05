import GuildFeed.Store.Entry
import GuildFeed.Store.Shelf.Lemmas

/-!
# Ownership on a shelf

An entry names the key that it is stored under and the guild that owns it, if any. On a shelf in
order each entry stands under its own key and is listed by its owner, and lists are kept for the
cached guilds only. A shelf is exact if moreover a guild lists nothing but entries that it owns.

Every operation on a shelf keeps the order. Exactness is lost where an entry takes the place of one
with another owner, whose list keeps naming the key.
-/

namespace GuildFeed

class Entry (α : Type) (κ ι : outParam Type) [Listed κ ι] where
  key : α → κ
  owner? : α → Option GuildId
  isSome_id? {a : α} {g : GuildId} : owner? a = some g → (Listed.id? g (key a)).isSome = true

instance : Entry ChannelEntry ChannelId ChannelId := ⟨(·.id), (·.guildId), fun _ => rfl⟩
instance : Entry RoleEntry RoleId RoleId := ⟨(·.id), (some ·.guildId), fun _ => rfl⟩
instance : Entry EmojiEntry EmojiId EmojiId := ⟨(·.id), (some ·.guildId), fun _ => rfl⟩

theorem MemberId.isSome_id? (id : MemberId) {g : GuildId} (h : some id.guild = some g) :
    (Listed.id? g id).isSome = true := by
  cases h
  simp [Listed.id?]

instance : Entry MemberEntry MemberId UserId :=
  ⟨(·.id), (some ·.guildId), fun {e _} h => MemberId.isSome_id? e.id h⟩
instance : Entry PresenceEntry MemberId UserId :=
  ⟨(·.id), (some ·.guildId), fun {e _} h => MemberId.isSome_id? e.id h⟩
instance : Entry VoiceEntry MemberId UserId :=
  ⟨(·.id), (some ·.guildId), fun {e _} h => MemberId.isSome_id? e.id h⟩

namespace Shelf
open Entry

set_option linter.unusedSectionVars false

variable {κ ι α : Type} [Ord κ] [Std.TransOrd κ] [Std.LawfulEqOrd κ]
  [Ord ι] [Std.TransOrd ι] [Std.LawfulEqOrd ι] [Listed κ ι] [Entry α κ ι]

structure Ownership (s : Shelf κ α) (cached : GuildId → Prop) : Prop where
  mem_lists : ∀ g, g ∈ s.lists ↔ cached g
  key_eq : ∀ {k a}, s.get? k = some a → key a = k
  listed : ∀ {k a g}, s.get? k = some a → owner? a = some g → s.isListed g k = true

def Exact (s : Shelf κ α) : Prop :=
  ∀ g k, s.isListed g k = true → ∃ a, s.get? k = some a ∧ owner? a = some g

def Yields (s : Shelf κ α) (k : κ) (owner : Option GuildId) : Prop :=
  ∀ a g, s.get? k = some a → owner? a = some g → owner = some g

namespace Ownership
variable {s : Shelf κ α} {cached : GuildId → Prop}

theorem cached_owner (own : s.Ownership cached) {k : κ} {a : α} {g : GuildId}
    (found : s.get? k = some a) (owner : owner? a = some g) : cached g := by
  obtain ⟨i, hi, -⟩ := isListed_iff.1 (own.listed found owner)
  exact (own.mem_lists g).1 (mem_lists_of_mem_ids hi)

theorem congr (own : s.Ownership cached) {cached' : GuildId → Prop}
    (same : ∀ g, cached' g ↔ cached g) : s.Ownership cached' :=
  ⟨fun g => (own.mem_lists g).trans (same g).symm, own.key_eq, own.listed⟩

theorem empty : (Shelf.empty : Shelf κ α).Ownership fun _ => False where
  mem_lists := by simp [Shelf.empty]
  key_eq := by simp
  listed := by simp

theorem ensure (own : s.Ownership cached) (g : GuildId) :
    (s.ensure g).Ownership fun h => g = h ∨ cached h where
  mem_lists h := by rw [mem_lists_ensure, own.mem_lists]
  key_eq := own.key_eq
  listed found owner := by
    rw [isListed_ensure]
    exact own.listed found owner

theorem put [DecidableEq κ] (own : s.Ownership cached) {k : κ} {a : α} {owner : Option GuildId}
    (hk : key a = k) (ho : owner? a = owner) (hc : ∀ g, owner = some g → cached g) :
    (s.put owner k a).Ownership cached where
  mem_lists g := by rw [mem_lists_put, own.mem_lists]
  key_eq {l b} found := by
    rw [get?_put] at found
    split at found
    · next same => cases found; exact hk.trans same
    · exact own.key_eq found
  listed {l b g} found hb := by
    rw [get?_put] at found
    rw [isListed_put]
    split at found
    · next same =>
      cases found
      refine .inr ⟨same, ho ▸ hb, (own.mem_lists g).2 (hc g (ho ▸ hb)), ?_⟩
      rw [← hk]
      exact isSome_id? hb
    · exact .inl (own.listed found hb)

theorem take [DecidableEq κ] (own : s.Ownership cached) (owner : Option GuildId) (k : κ) :
    (s.take owner k).Ownership cached where
  mem_lists g := by rw [mem_lists_take, own.mem_lists]
  key_eq {l b} found := by
    rw [get?_take] at found
    split at found
    · cases found
    · exact own.key_eq found
  listed {l b g} found hb := by
    rw [get?_take] at found
    rw [isListed_take]
    split at found
    · cases found
    · next other => exact ⟨own.listed found hb, fun h => other h.2⟩

theorem discard [DecidableEq κ] (own : s.Ownership cached) (owner : Option GuildId) (k : κ) :
    (s.discard owner k).Ownership cached := by
  unfold Shelf.discard
  split
  · exact own.take owner k
  · exact own

theorem unlist (own : s.Ownership cached) {owner : Option GuildId} {k : κ}
    (ho : ∀ {a g}, s.get? k = some a → owner? a = some g → owner ≠ some g) :
    (s.unlist owner k).Ownership cached where
  mem_lists g := by rw [mem_lists_unlist, own.mem_lists]
  key_eq found := own.key_eq (by simpa using found)
  listed {l b g} found hb := by
    rw [get?_unlist] at found
    refine isListed_unlist.2 ⟨own.listed found hb, ?_⟩
    rintro ⟨hg, rfl⟩
    exact ho found hb hg

theorem modify [DecidableEq κ] (own : s.Ownership cached) {k : κ} {f : α → α}
    (hk : ∀ a, s.get? k = some a → key (f a) = key a) (ho : ∀ a, owner? (f a) = owner? a) :
    (s.modify k f).Ownership cached where
  mem_lists := own.mem_lists
  key_eq {l b} found := by
    rw [get?_modify] at found
    split at found
    · next same =>
      obtain ⟨a, ha, rfl⟩ := Option.map_eq_some_iff.1 found
      exact (hk a (same ▸ ha)).trans (own.key_eq ha)
    · exact own.key_eq found
  listed {l b g} found hb := by
    rw [get?_modify] at found
    rw [isListed_modify]
    split at found
    · obtain ⟨a, ha, rfl⟩ := Option.map_eq_some_iff.1 found
      exact own.listed ha (ho a ▸ hb)
    · exact own.listed found hb

theorem foldl_modify [DecidableEq κ] (own : s.Ownership cached) (ks : List κ) {f : α → α}
    (hk : ∀ a, key (f a) = key a) (ho : ∀ a, owner? (f a) = owner? a) :
    (ks.foldl (fun shelf k => shelf.modify k f) s).Ownership cached := by
  induction ks generalizing s with
  | nil => exact own
  | cons k ks ih => exact ih (own.modify (fun a _ => hk a) ho)

theorem modifyListed (own : s.Ownership cached) (g : GuildId) {f : α → α}
    (hk : ∀ a, key (f a) = key a) (ho : ∀ a, owner? (f a) = owner? a) :
    (s.modifyListed g f).Ownership cached where
  mem_lists := own.mem_lists
  key_eq {l b} found := by
    rw [get?_modifyListed] at found
    obtain ⟨a, ha, rfl⟩ := Option.map_eq_some_iff.1 found
    split
    · exact (hk a).trans (own.key_eq ha)
    · exact own.key_eq ha
  listed {l b h} found hb := by
    rw [get?_modifyListed] at found
    rw [isListed_modifyListed]
    obtain ⟨a, ha, rfl⟩ := Option.map_eq_some_iff.1 found
    split at hb
    · exact own.listed ha (ho a ▸ hb)
    · exact own.listed ha hb

theorem close (own : s.Ownership cached) (g : GuildId) :
    (s.close g).Ownership fun h => g ≠ h ∧ cached h where
  mem_lists h := by rw [mem_lists_close, own.mem_lists]
  key_eq {l b} found := by
    rw [get?_close] at found
    split at found
    · cases found
    · exact own.key_eq found
  listed {l b h} found hb := by
    rw [get?_close] at found
    rw [isListed_close]
    split at found
    · cases found
    · next left =>
      have listed := own.listed found hb
      split
      · next same => exact absurd (same ▸ listed) left
      · exact listed

end Ownership

namespace Exact
variable {s : Shelf κ α}

theorem empty : (Shelf.empty : Shelf κ α).Exact := fun _ _ h => by simp at h

theorem ensure (exact : s.Exact) (g : GuildId) : (s.ensure g).Exact := fun h k listed => by
  rw [isListed_ensure] at listed
  exact exact _ _ listed

theorem put [DecidableEq κ] (exact : s.Exact) {k : κ} {a : α} {owner : Option GuildId}
    (ho : owner? a = owner) (yields : s.Yields k owner) : (s.put owner k a).Exact :=
  fun g l listed => by
    rw [isListed_put] at listed
    rw [get?_put]
    split
    · next same =>
      subst same
      rcases listed with listed | ⟨-, hg, -, -⟩
      · obtain ⟨b, hb, hg⟩ := exact _ _ listed
        exact ⟨a, rfl, ho.trans (yields b g hb hg)⟩
      · exact ⟨a, rfl, ho.trans hg⟩
    · next other =>
      rcases listed with listed | ⟨same, -⟩
      · exact exact _ _ listed
      · exact absurd same other

theorem take [DecidableEq κ] (exact : s.Exact) {k : κ} {owner : Option GuildId}
    (yields : s.Yields k owner) : (s.take owner k).Exact := fun g l listed => by
  rw [isListed_take] at listed
  obtain ⟨b, hb, hg⟩ := exact g l listed.1
  rw [get?_take, if_neg]
  · exact ⟨b, hb, hg⟩
  · rintro rfl
    exact listed.2 ⟨yields b g hb hg, rfl⟩

theorem discard [DecidableEq κ] (exact : s.Exact) {k : κ} {owner : Option GuildId}
    (yields : s.Yields k owner) : (s.discard owner k).Exact := by
  unfold Shelf.discard
  split
  · exact exact.take yields
  · exact exact

theorem modify [DecidableEq κ] (exact : s.Exact) (k : κ) {f : α → α}
    (ho : ∀ a, owner? (f a) = owner? a) : (s.modify k f).Exact := fun g l listed => by
  obtain ⟨b, hb, hg⟩ := exact _ _ listed
  rw [get?_modify, hb]
  split
  · exact ⟨f b, rfl, (ho b).trans hg⟩
  · exact ⟨b, rfl, hg⟩

theorem foldl_modify [DecidableEq κ] (exact : s.Exact) (ks : List κ) {f : α → α}
    (ho : ∀ a, owner? (f a) = owner? a) : (ks.foldl (fun shelf k => shelf.modify k f) s).Exact := by
  induction ks generalizing s with
  | nil => exact exact
  | cons k ks ih => exact ih (exact.modify k ho)

theorem modifyListed (exact : s.Exact) (g : GuildId) {f : α → α}
    (ho : ∀ a, owner? (f a) = owner? a) : (s.modifyListed g f).Exact := fun h l listed => by
  obtain ⟨b, hb, hg⟩ := exact _ _ listed
  rw [get?_modifyListed, hb]
  refine ⟨_, rfl, ?_⟩
  split
  · exact (ho b).trans hg
  · exact hg

theorem get?_close (exact : s.Exact) {g : GuildId} {k : κ} {a : α} (found : s.get? k = some a)
    (other : owner? a ≠ some g) : (s.close g).get? k = some a := by
  rw [Shelf.get?_close, if_neg]
  · exact found
  · intro listed
    obtain ⟨b, hb, owner⟩ := exact g k listed
    rw [found, Option.some.injEq] at hb
    exact other (hb ▸ owner)

theorem close (exact : s.Exact) (g : GuildId) : (s.close g).Exact := fun h l listed => by
  rw [isListed_close] at listed
  split at listed
  · cases listed
  · next other =>
    obtain ⟨b, found, owner⟩ := exact _ _ listed
    refine ⟨b, exact.get?_close found ?_, owner⟩
    intro also
    exact other (Option.some.inj (also.symm.trans owner))

theorem foldl_close (exact : s.Exact) (gs : List GuildId) : (gs.foldl Shelf.close s).Exact := by
  induction gs generalizing s with
  | nil => exact exact
  | cons g gs ih => exact ih (exact.close g)

end Exact
end Shelf
end GuildFeed
