import GuildFeed.Proofs.Shelf.Listing
import GuildFeed.Proofs.Store.Reachable

namespace GuildFeed

instance : Std.TransCmp ChannelEntry.order :=
  inferInstanceAs (Std.TransCmp (compareLex (compareOn (fun c => c.position.toInt)) (compareOn ChannelEntry.id)))

instance : Std.TransCmp RoleEntry.order :=
  inferInstanceAs (Std.TransCmp (compareLex (compareOn (fun r => r.position.toInt)) (compareOn RoleEntry.id)))

theorem ChannelEntry.id_of_order {c d : ChannelEntry} (h : order c d = .eq) : c.id = d.id :=
  Std.LawfulEqCmp.eq_of_compare (compareLex_eq_eq.1 h).2

theorem RoleEntry.id_of_order {r q : RoleEntry} (h : order r q = .eq) : r.id = q.id :=
  Std.LawfulEqCmp.eq_of_compare (compareLex_eq_eq.1 h).2

theorem Shelf.Ownership.get?_of_mem_entities {κ ι α : Type} [Ord κ] [Std.TransOrd κ] [Std.LawfulEqOrd κ] [Ord ι]
    [Std.TransOrd ι] [Std.LawfulEqOrd ι] [Listed κ ι] [Entry α κ ι] {s : Shelf κ α} {cached : GuildId → Prop}
    (own : s.Ownership cached) {g : GuildId} {a : α} (mem : a ∈ s.entities g) : s.get? (Entry.key a) = some a := by
  obtain ⟨i, -, found⟩ := mem_entities.1 mem
  rw [own.key_eq found, found]

namespace Store

def isListed (s : Store) (g : GuildId) : EntityKey → Bool
  | .guild _ => false
  | .channel id => s.channels.isListed g id
  | .role id => s.roles.isListed g id
  | .emoji id => s.emojis.isListed g id
  | .member id => s.members.isListed g id
  | .presence id => s.presences.isListed g id
  | .voiceState id => s.voiceStates.isListed g id

namespace Ownership

variable {s : Store} {g : GuildId}

theorem key_eq (own : s.Ownership) {k : EntityKey} {e : Entity} (found : s.get? k = some e) : e.key = k := by
  cases k with
  | guild id =>
    obtain ⟨e, he, rfl⟩ := Option.map_eq_some_iff.1 found
    exact congrArg EntityKey.guild (own.guild_id he)
  | channel id =>
    obtain ⟨e, he, rfl⟩ := Option.map_eq_some_iff.1 found
    exact congrArg EntityKey.channel (own.channels.key_eq he)
  | role id =>
    obtain ⟨e, he, rfl⟩ := Option.map_eq_some_iff.1 found
    exact congrArg EntityKey.role (own.roles.key_eq he)
  | emoji id =>
    obtain ⟨e, he, rfl⟩ := Option.map_eq_some_iff.1 found
    exact congrArg EntityKey.emoji (own.emojis.key_eq he)
  | member id =>
    obtain ⟨e, he, rfl⟩ := Option.map_eq_some_iff.1 found
    exact congrArg EntityKey.member (own.members.key_eq he)
  | presence id =>
    obtain ⟨e, he, rfl⟩ := Option.map_eq_some_iff.1 found
    exact congrArg EntityKey.presence (own.presences.key_eq he)
  | voiceState id =>
    obtain ⟨e, he, rfl⟩ := Option.map_eq_some_iff.1 found
    exact congrArg EntityKey.voiceState (own.voiceStates.key_eq he)

theorem listed (own : s.Ownership) {k : EntityKey} {e : Entity} (found : s.get? k = some e)
    (owner : e.owner? = some g) : g ∈ s.guilds ∧ s.isListed g k = true := by
  cases k with
  | guild id =>
    obtain ⟨e, he, rfl⟩ := Option.map_eq_some_iff.1 found
    cases owner
  | channel id =>
    obtain ⟨e, he, rfl⟩ := Option.map_eq_some_iff.1 found
    exact ⟨own.channels.cached_owner he owner, own.channels.listed he owner⟩
  | role id =>
    obtain ⟨e, he, rfl⟩ := Option.map_eq_some_iff.1 found
    exact ⟨own.roles.cached_owner he owner, own.roles.listed he owner⟩
  | emoji id =>
    obtain ⟨e, he, rfl⟩ := Option.map_eq_some_iff.1 found
    exact ⟨own.emojis.cached_owner he owner, own.emojis.listed he owner⟩
  | member id =>
    obtain ⟨e, he, rfl⟩ := Option.map_eq_some_iff.1 found
    exact ⟨own.members.cached_owner he owner, own.members.listed he owner⟩
  | presence id =>
    obtain ⟨e, he, rfl⟩ := Option.map_eq_some_iff.1 found
    exact ⟨own.presences.cached_owner he owner, own.presences.listed he owner⟩
  | voiceState id =>
    obtain ⟨e, he, rfl⟩ := Option.map_eq_some_iff.1 found
    exact ⟨own.voiceStates.cached_owner he owner, own.voiceStates.listed he owner⟩

theorem mem_ids_members (own : s.Ownership) {u : UserId} :
    u ∈ s.members.ids g ↔ (s.members.get? ⟨g, u⟩).isSome = true := by
  rw [← Shelf.isListed_key, Option.isSome_iff_exists]
  constructor
  · intro listed
    obtain ⟨m, found, -⟩ := own.exact_members g _ listed
    exact ⟨m, found⟩
  · rintro ⟨m, found⟩
    have key : m.id = ⟨g, u⟩ := own.members.key_eq found
    exact own.members.listed found (congrArg (some ·.guild) key)

theorem mem_ids_presences (own : s.Ownership) {u : UserId} :
    u ∈ s.presences.ids g ↔ (s.presences.get? ⟨g, u⟩).isSome = true := by
  rw [← Shelf.isListed_key, Option.isSome_iff_exists]
  constructor
  · intro listed
    obtain ⟨p, found, -⟩ := own.exact_presences g _ listed
    exact ⟨p, found⟩
  · rintro ⟨p, found⟩
    have key : p.id = ⟨g, u⟩ := own.presences.key_eq found
    exact own.presences.listed found (congrArg (some ·.guild) key)

theorem ascending_channelsOf (own : s.Ownership) (g : GuildId) :
    Ascending ChannelEntry.order (s.channelsOf g) := by
  have byId : Ascending (compareOn ChannelEntry.id) (s.channels.entities g) :=
    Shelf.ascending_entities own.channels.key_eq
  exact byId.resort fun _ _ => ChannelEntry.id_of_order

theorem ascending_rolesOf (own : s.Ownership) (g : GuildId) :
    Ascending RoleEntry.order (s.rolesOf g) := by
  have byId : Ascending (compareOn RoleEntry.id) (s.roles.entities g) :=
    Shelf.ascending_entities own.roles.key_eq
  exact byId.resort fun _ _ => RoleEntry.id_of_order

theorem ascending_emojisOf (own : s.Ownership) (g : GuildId) :
    Ascending (compareOn EmojiEntry.id) (s.emojisOf g) :=
  Shelf.ascending_entities own.emojis.key_eq

theorem ascending_membersOf (own : s.Ownership) (g : GuildId) :
    Ascending (compareOn fun m => m.user.id) (s.membersOf g) :=
  Shelf.ascending_entities fun found => congrArg MemberId.user (own.members.key_eq found)

theorem ascending_presencesOf (own : s.Ownership) (g : GuildId) :
    Ascending (compareOn PresenceEntry.userId) (s.presencesOf g) :=
  Shelf.ascending_entities fun found => congrArg MemberId.user (own.presences.key_eq found)

theorem ascending_voiceStatesOf (own : s.Ownership) (g : GuildId) :
    Ascending (compareOn VoiceEntry.userId) (s.voiceStatesOf g) :=
  Shelf.ascending_entities fun found => congrArg MemberId.user (own.voiceStates.key_eq found)

theorem mem_channelsOf (own : s.Ownership) {c : ChannelEntry} (found : s.channels.get? c.id = some c)
    (owner : c.guildId = some g) : c ∈ s.channelsOf g := by
  rw [channelsOf, List.mem_mergeSort, Shelf.mem_entities]
  exact ⟨c.id, Shelf.isListed_key.1 (own.channels.listed found owner), found⟩

theorem mem_rolesOf (own : s.Ownership) {r : RoleEntry} (found : s.roles.get? r.id = some r)
    (owner : r.guildId = g) : r ∈ s.rolesOf g := by
  rw [rolesOf, List.mem_mergeSort, Shelf.mem_entities]
  exact ⟨r.id, Shelf.isListed_key.1 (own.roles.listed found (congrArg some owner)), found⟩

theorem mem_emojisOf (own : s.Ownership) {e : EmojiEntry} (found : s.emojis.get? e.id = some e)
    (owner : e.guildId = g) : e ∈ s.emojisOf g := by
  rw [emojisOf, Shelf.mem_entities]
  exact ⟨e.id, Shelf.isListed_key.1 (own.emojis.listed found (congrArg some owner)), found⟩

end Ownership

/-- Nothing is lost and nothing left over: lists are kept for the cached guilds alone, every entity
stands under its own key and on the list of its guild, and listings show it once. -/
structure Orderly (s : Store) : Prop where
  lists : ∀ g, (g ∈ s.channels.lists ↔ g ∈ s.guilds) ∧ (g ∈ s.roles.lists ↔ g ∈ s.guilds) ∧
    (g ∈ s.emojis.lists ↔ g ∈ s.guilds) ∧ (g ∈ s.members.lists ↔ g ∈ s.guilds) ∧
    (g ∈ s.presences.lists ↔ g ∈ s.guilds) ∧ (g ∈ s.voiceStates.lists ↔ g ∈ s.guilds)
  key_eq : ∀ k e, s.get? k = some e → e.key = k
  listed : ∀ k e g, s.get? k = some e → e.owner? = some g → g ∈ s.guilds ∧ s.isListed g k = true
  members : ∀ g u, u ∈ s.members.ids g ↔ (s.get? (.member ⟨g, u⟩)).isSome = true
  presences : ∀ g u, u ∈ s.presences.ids g ↔ (s.get? (.presence ⟨g, u⟩)).isSome = true
  gone : ∀ g, g ∉ s.guilds → ∀ k e, s.get? k = some e → e.owner? ≠ some g
  channelsOf : ∀ g, Ascending ChannelEntry.order (s.channelsOf g) ∧
    ∀ c, s.get? (.channel c.id) = some (.channel c) → c.guildId = some g → (s.channelsOf g).count c = 1
  rolesOf : ∀ g, Ascending RoleEntry.order (s.rolesOf g) ∧
    ∀ r, s.get? (.role r.id) = some (.role r) → r.guildId = g → (s.rolesOf g).count r = 1
  emojisOf : ∀ g, Ascending (compareOn EmojiEntry.id) (s.emojisOf g) ∧
    ∀ e, s.get? (.emoji e.id) = some (.emoji e) → e.guildId = g → (s.emojisOf g).count e = 1

theorem Reachable.orderly {s : Store} (reachable : s.Reachable) : s.Orderly := by
  have own := reachable.ownership
  exact
    { lists g := ⟨own.channels.mem_lists g, own.roles.mem_lists g, own.emojis.mem_lists g,
        own.members.mem_lists g, own.presences.mem_lists g, own.voiceStates.mem_lists g⟩
      key_eq _ _ := own.key_eq
      listed _ _ _ := own.listed
      members g u := by
        rw [own.mem_ids_members, get?, Option.isSome_map]
      presences g u := by
        rw [own.mem_ids_presences, get?, Option.isSome_map]
      gone g uncached k e found owner := uncached (own.listed found owner).1
      channelsOf g := by
        refine ⟨own.ascending_channelsOf g, fun c found owner => ?_⟩
        obtain ⟨_, found, ⟨⟩⟩ := Option.map_eq_some_iff.1 found
        exact (own.ascending_channelsOf g).count_eq_one (own.mem_channelsOf found owner)
      rolesOf g := by
        refine ⟨own.ascending_rolesOf g, fun r found owner => ?_⟩
        obtain ⟨_, found, ⟨⟩⟩ := Option.map_eq_some_iff.1 found
        exact (own.ascending_rolesOf g).count_eq_one (own.mem_rolesOf found owner)
      emojisOf g := by
        refine ⟨own.ascending_emojisOf g, fun e found owner => ?_⟩
        obtain ⟨_, found, ⟨⟩⟩ := Option.map_eq_some_iff.1 found
        exact (own.ascending_emojisOf g).count_eq_one (own.mem_emojisOf found owner) }

theorem orderly_handover : (run handover).Orderly ∧
    (run handover).channelsOf ⟨2⟩ = [.ofChannel (.text ⟨10⟩ (some ⟨2⟩)) none] :=
  ⟨(reachable_run handover).orderly, by decide +kernel⟩

end Store
end GuildFeed
