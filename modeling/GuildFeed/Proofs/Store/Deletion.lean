import GuildFeed.Proofs.Store.Listing

namespace GuildFeed.Store
open GuildFeed.Shelf

variable {s : Store}

theorem channel?_of_mem_channelsOf (own : s.Ownership) {g : GuildId} {e : ChannelEntry}
    (mem : e ∈ s.channelsOf g) : s.channels.get? e.id = some e :=
  own.channels.get?_of_mem_entities (List.mem_mergeSort.1 mem)

theorem mem_categoryChannels {p : ChannelId} {e : ChannelEntry} : e ∈ s.categoryChannels p ↔
    ∃ q g, s.channels.get? p = some q ∧ q.kind.isCategory = true ∧ q.guildId = some g ∧
      e ∈ s.channelsOf g ∧ e.parentId = some p := by
  unfold categoryChannels
  cases s.channels.get? p with
  | none => simp
  | some q => cases kind : q.kind.isCategory <;> cases guild : q.guildId <;> simp [kind, guild]

theorem categoryChannels_eq {p : ChannelId} {q : ChannelEntry} {g : GuildId} (found : s.channels.get? p = some q)
    (category : q.kind.isCategory = true) (owner : q.guildId = some g) :
    s.categoryChannels p = (s.channelsOf g).filter (·.parentId = some p) := by
  simp only [categoryChannels, found, category, owner]

theorem categoryChannels_eq_nil {p : ChannelId}
    (none : ∀ q, s.channels.get? p = some q → q.kind.isCategory = false) : s.categoryChannels p = [] := by
  rw [List.eq_nil_iff_forall_not_mem]
  intro e mem
  obtain ⟨q, g, found, category, -⟩ := mem_categoryChannels.1 mem
  rw [none q found] at category
  cases category

theorem mem_orphans {p c : ChannelId} : c ∈ s.orphans p ↔ c ≠ p ∧ ∃ e ∈ s.categoryChannels p, e.id = c := by
  simp only [orphans, List.mem_filter, List.mem_map, decide_eq_true_eq]
  exact and_comm

theorem channel?_of_mem_orphans (own : s.Ownership) {p c : ChannelId} (mem : c ∈ s.orphans p) :
    ∃ e, s.channels.get? c = some e ∧ e.parentId = some p := by
  obtain ⟨-, e, shown, rfl⟩ := mem_orphans.1 mem
  obtain ⟨_, _, -, -, -, listed, names⟩ := mem_categoryChannels.1 shown
  exact ⟨e, channel?_of_mem_channelsOf own listed, names⟩

theorem channels_deleteChannel (s : Store) (p c : ChannelId) : (s.deleteChannel p).channels.get? c =
    if c = p then none
    else if c ∈ s.orphans p then (s.channels.get? c).map ({ · with parentId := none })
    else s.channels.get? c := by
  cases found : s.channels.get? p with
  | none =>
    have alone : s.orphans p = [] := by simp [orphans, categoryChannels, found]
    by_cases same : c = p
    · simp [deleteChannel, found, same]
    · simp [deleteChannel, found, same, alone]
  | some q =>
    have self : p ∉ s.orphans p := fun mem => (mem_orphans.1 mem).1 rfl
    have orphaned := get?_foldl_modify (f := fun e : ChannelEntry => { e with parentId := none }) (fun _ => rfl)
      (s.channels.take q.guildId p) (s.orphans p) c
    simp only [deleteChannel, found]
    rw [orphaned, get?_take]
    by_cases same : c = p
    · simp [same, self]
    · simp [same, Ne.symm same]

theorem channel?_deleteChannel (s : Store) (c : ChannelId) : (s.deleteChannel c).channels.get? c = none := by
  rw [channels_deleteChannel, if_pos rfl]

theorem deleteRole_eq {e : RoleEntry} {r : RoleId} (found : s.roles.get? r = some e) : s.deleteRole r =
    { s with
      roles := s.roles.take (some e.guildId) r
      members := s.members.modifyListed e.guildId (·.strip r) } := by
  rw [deleteRole, found]

theorem role?_deleteRole (s : Store) (r : RoleId) : (s.deleteRole r).roles.get? r = none := by
  cases found : s.roles.get? r with
  | none => rw [deleteRole, found, found]
  | some e =>
    rw [deleteRole_eq found]
    exact (get?_take ..).trans (if_pos rfl)

-- The list of members is exact, so no member of the guild keeps the role.
theorem members_deleteRole (own : s.Ownership) {e : RoleEntry} {r : RoleId} (found : s.roles.get? r = some e)
    (id : MemberId) : (s.deleteRole r).members.get? id =
      if id.guild = e.guildId then (s.members.get? id).map (·.strip r) else s.members.get? id := by
  rw [deleteRole_eq found]
  simp only [get?_modifyListed]
  cases known : s.members.get? id with
  | none => simp
  | some m =>
    have key : m.id = id := own.members.key_eq known
    by_cases home : id.guild = e.guildId
    · have listed : s.members.isListed e.guildId id = true :=
        own.members.listed known (congrArg some ((congrArg MemberId.guild key).trans home))
      simp [listed, home]
    · have unlisted : s.members.isListed e.guildId id = false := by
        rw [Bool.eq_false_iff, ne_eq, isListed_iff]
        rintro ⟨u, -, rfl⟩
        exact home rfl
      simp [unlisted, home]

end GuildFeed.Store
