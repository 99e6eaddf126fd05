import GuildFeed.Proofs.Store.Deletion
import GuildFeed.Store.Update

namespace GuildFeed.Store
open GuildFeed.Shelf

variable {s t : Store}

theorem parentOf?_eq_some {c : ChannelId} {q : ChannelEntry} : s.parentOf? c = some q ↔
    ∃ e p, s.channels.get? c = some e ∧ e.parentId = some p ∧ s.channels.get? p = some q ∧
      q.kind.isCategory = true := by
  simp only [parentOf?, bind, Option.bind_eq_some_iff]
  constructor
  · rintro ⟨e, found, p, names, r, parent, category⟩
    split at category
    · next isCategory =>
      cases category
      exact ⟨e, p, found, names, parent, isCategory⟩
    · cases category
  · rintro ⟨e, p, found, names, parent, category⟩
    exact ⟨e, found, p, names, q, parent, if_pos category⟩

structure Hierarchical (s : Store) : Prop where
  parent : ∀ p, ∀ e ∈ s.categoryChannels p, s.channels.get? e.id = some e ∧
    ∃ q, s.channels.get? p = some q ∧ s.parentOf? e.id = some q
  shown : ∀ c p e q g, s.channels.get? c = some e → s.channels.get? p = some q → s.parentOf? c = some q →
    e.guildId = some g → q.guildId = some g → e ∈ s.categoryChannels p

theorem hierarchical (own : s.Ownership) : s.Hierarchical where
  parent p e mem := by
    obtain ⟨q, g, found, category, -, listed, names⟩ := mem_categoryChannels.1 mem
    have known := channel?_of_mem_channelsOf own listed
    exact ⟨known, q, found, parentOf?_eq_some.2 ⟨e, p, known, names, found, category⟩⟩
  shown c p e q g known found parent owner owner' := by
    obtain ⟨f, o, also, names, resolved, category⟩ := parentOf?_eq_some.1 parent
    rw [known, Option.some.injEq] at also
    subst also
    -- an entry tells its own key, so both keys of the parent are one
    have same : p = o := (own.channels.key_eq found).symm.trans (own.channels.key_eq resolved)
    subst same
    have key : e.id = c := own.channels.key_eq known
    exact mem_categoryChannels.2 ⟨q, g, found, category, owner', own.mem_channelsOf (key ▸ known) owner, names⟩

structure Orphans (s : Store) (p : ChannelId) (g : GuildId) (orphaned : List ChannelId) (t : Store) : Prop where
  told : orphaned = ((s.categoryChannels p).map (·.id)).filter (· ≠ p)
  ordered : Ascending ChannelEntry.order (s.categoryChannels p)
  gone : t.channels.get? p = none
  childless : ∀ c e, t.channels.get? c = some e → e.guildId = some g → e.parentId ≠ some p
  parentless : ∀ c q, t.parentOf? c = some q → q.id ≠ p
  orphan : ∀ c ∈ orphaned, ∃ e, s.channels.get? c = some e ∧ t.channels.get? c = some { e with parentId := none }
  others : ∀ c, c ≠ p → c ∉ orphaned → t.channels.get? c = s.channels.get? c

theorem orphans_deleteChannel (own : s.Ownership) {p : ChannelId} {q : ChannelEntry} {g : GuildId}
    (found : s.channels.get? p = some q) (category : q.kind.isCategory = true) (owner : q.guildId = some g) :
    s.Orphans p g (s.orphans p) (s.deleteChannel p) where
  told := rfl
  ordered := by
    rw [categoryChannels_eq found category owner]
    exact (own.ascending_channelsOf g).filter _
  gone := channel?_deleteChannel s p
  childless c e after home := by
    rw [channels_deleteChannel] at after
    split at after
    · cases after
    · next other =>
      split at after
      · obtain ⟨old, -, rfl⟩ := Option.map_eq_some_iff.1 after
        rintro ⟨⟩
      · next unshown =>
        -- a channel of the guild that names the category would have been shown by it
        intro names
        have key : e.id = c := own.channels.key_eq after
        have listed := own.mem_channelsOf (key ▸ after) home
        have shown := mem_categoryChannels.2 ⟨q, g, found, category, owner, listed, names⟩
        exact unshown (mem_orphans.2 ⟨other, e, shown, key⟩)
  parentless c r parent same := by
    obtain ⟨-, o, -, -, resolved, -⟩ := parentOf?_eq_some.1 parent
    have key : r.id = o := (own.deleteChannel p).channels.key_eq resolved
    rw [← key, same, channel?_deleteChannel] at resolved
    cases resolved
  orphan c mem := by
    obtain ⟨e, known, -⟩ := channel?_of_mem_orphans own mem
    refine ⟨e, known, ?_⟩
    rw [channels_deleteChannel, if_neg (mem_orphans.1 mem).1, if_pos mem, known]
    rfl
  others c other unorphaned := by
    rw [channels_deleteChannel, if_neg other, if_neg unorphaned]

/-- Channels and categories agree about each other, and a category that is deleted leaves no channel
of its guild behind that names it. Any other channel that is deleted concerns no channel but itself. -/
theorem Reachable.categories (reachable : s.Reachable) : s.Hierarchical ∧
    (∀ (c : Channel) (q : ChannelEntry) (g : GuildId), s.channels.get? c.id = some q → q.kind.isCategory = true →
      q.guildId = some g → ∃ t orphaned,
        s.update (.channelDelete c) = .ok (t, .channelDeleted c.id (c.guildId <|> some g) (some q) orphaned) ∧
        s.Orphans c.id g orphaned t) ∧
    ∀ c : Channel, (∀ q, s.channels.get? c.id = some q → q.kind.isCategory = false) → ∃ t,
      s.update (.channelDelete c) = .ok (t, .channelDeleted c.id
        (c.guildId <|> (s.channels.get? c.id).bind (·.guildId)) (s.channels.get? c.id) []) ∧
      ∀ d, d ≠ c.id → t.channels.get? d = s.channels.get? d := by
  have own := reachable.ownership
  refine ⟨hierarchical own, fun c q g found category owner => ?_, fun c plain => ?_⟩
  · refine ⟨s.deleteChannel c.id, s.orphans c.id, ?_, orphans_deleteChannel own found category owner⟩
    simp [update, onChannelDelete, found, owner]
  · have alone : s.orphans c.id = [] := by rw [orphans, categoryChannels_eq_nil plain]; rfl
    refine ⟨s.deleteChannel c.id, ?_, fun d other => ?_⟩
    · simp only [update, onChannelDelete, alone, ite_self]
    · rw [channels_deleteChannel, if_neg other, alone, if_neg List.not_mem_nil]

def household : List Command :=
  let under (id : ChannelId) (position : Int64) : Channel :=
    { Channel.text id none with parentId := some ⟨20⟩, position := some position }
  [.dispatch (.guildCreate { Guild.bare ⟨1⟩ with
      channels := [{ under ⟨20⟩ 0 with kind := .guildCategory }, under ⟨11⟩ 2, under ⟨12⟩ 1] }),
    .dispatch (.guildCreate { Guild.bare ⟨2⟩ with channels := [under ⟨13⟩ 0] })]

theorem categories_household :
    let s := run household
    s.Hierarchical ∧
    (∃ t, s.Orphans ⟨20⟩ ⟨1⟩ [⟨12⟩, ⟨11⟩] t ∧ (t.channels.get? ⟨13⟩).map (·.parentId) = some (some ⟨20⟩)) ∧
    (∃ t e, s.update (.channelDelete (.text ⟨11⟩ none)) = .ok (t, e) ∧
      ∀ d, d ≠ ⟨11⟩ → t.channels.get? d = s.channels.get? d) := by
  intro s
  let q : ChannelEntry := ⟨⟨20⟩, some ⟨1⟩, .guildCategory, none, 0, some ⟨20⟩, none, false⟩
  obtain ⟨hierarchical, category, plain⟩ := (reachable_run household).categories
  refine ⟨hierarchical, ?_, ?_⟩
  · have found : s.channels.get? ⟨20⟩ = some q := by decide +kernel
    obtain ⟨t, orphaned, -, orphans⟩ := category (.text ⟨20⟩ none) q ⟨1⟩ found rfl rfl
    let shown (id : ChannelId) (position : Int64) : ChannelEntry :=
      ⟨id, some ⟨1⟩, .guildText, none, position, some ⟨20⟩, none, false⟩
    have listed : s.channelsOf ⟨1⟩ = [q, shown ⟨12⟩ 1, shown ⟨11⟩ 2] := by
      apply Ascending.mergeSort_eq <;> decide +kernel
    have told : orphaned = [⟨12⟩, ⟨11⟩] := by
      have shown : s.categoryChannels (Channel.text ⟨20⟩ none).id = _ := categoryChannels_eq found rfl rfl
      rw [orphans.told, shown, listed]
      decide
    subst told
    refine ⟨t, orphans, ?_⟩
    rw [orphans.others ⟨13⟩ (by decide) (by decide)]
    decide +kernel
  · obtain ⟨t, accepted, others⟩ := plain (.text ⟨11⟩ none) (by decide +kernel)
    exact ⟨t, _, accepted, others⟩

end GuildFeed.Store
