import GuildFeed.Proofs.Store.Clearing
import GuildFeed.Proofs.Store.Deletion

namespace GuildFeed

def Command.removed? : Command → Option GuildId
  | .remove (.guild g) => some g
  | .removeGuild g => some g
  | .dispatch (.guildDelete n) => some n.id
  | _ => none

namespace Store
open GuildFeed.Shelf

variable {s t : Store} {g : GuildId}

theorem mem_childrenOf_guild (own : s.Ownership) {k : EntityKey} :
    k ∈ s.childrenOf (.guild g) ↔ s.isListed g k = true ∧ (s.get? k).isSome = true := by
  cases k with
  | guild id => simp [childrenOf, isListed]
  | channel id =>
    have told := exists_mem_entities (s := s.channels) (g := g) (k := id) ChannelEntry.id own.channels.key_eq
    simpa [childrenOf, isListed, get?, channelsOf, Listed.key, Entry.key] using told
  | role id =>
    have told := exists_mem_entities (s := s.roles) (g := g) (k := id) RoleEntry.id own.roles.key_eq
    simpa [childrenOf, isListed, get?, rolesOf, Listed.key, Entry.key] using told
  | emoji id =>
    have told := exists_mem_entities (s := s.emojis) (g := g) (k := id) EmojiEntry.id own.emojis.key_eq
    simpa [childrenOf, isListed, get?, emojisOf, Listed.key, Entry.key] using told
  | member id =>
    have told : s.members.isListed g id = true ↔ ∃ u ∈ s.members.ids g, MemberId.mk g u = id := isListed_iff
    have stored (listed : s.members.isListed g id = true) : (s.members.get? id).isSome = true := by
      obtain ⟨m, found, -⟩ := own.exact_members g id listed
      rw [found]
      rfl
    simpa [childrenOf, isListed, get?, told] using fun u mem same => stored (told.2 ⟨u, mem, same⟩)
  | presence id =>
    have told := exists_mem_entities (s := s.presences) (g := g) (k := id) PresenceEntry.userId
      fun found => congrArg MemberId.user (own.presences.key_eq found)
    simpa [childrenOf, isListed, get?, presencesOf, Listed.key] using told
  | voiceState id =>
    have told := exists_mem_entities (s := s.voiceStates) (g := g) (k := id) VoiceEntry.userId
      fun found => congrArg MemberId.user (own.voiceStates.key_eq found)
    simpa [childrenOf, isListed, get?, voiceStatesOf, Listed.key] using told

theorem nodup_childrenOf_guild (own : s.Ownership) (g : GuildId) : (s.childrenOf (.guild g)).Nodup := by
  have channels : ((s.channelsOf g).map (EntityKey.channel ·.id)).Nodup := by
    have byId : Ascending (compareOn ChannelEntry.id) (s.channels.entities g) := ascending_entities own.channels.key_eq
    exact ((List.mergeSort_perm _ _).map _).nodup_iff.2 (byId.nodup_map fun _ _ => EntityKey.channel.inj)
  have roles : ((s.rolesOf g).map (EntityKey.role ·.id)).Nodup := by
    have byId : Ascending (compareOn RoleEntry.id) (s.roles.entities g) := ascending_entities own.roles.key_eq
    exact ((List.mergeSort_perm _ _).map _).nodup_iff.2 (byId.nodup_map fun _ _ => EntityKey.role.inj)
  have emojis : ((s.emojisOf g).map (EntityKey.emoji ·.id)).Nodup :=
    (own.ascending_emojisOf g).nodup_map fun _ _ => EntityKey.emoji.inj
  have members : ((s.members.ids g).toList.map fun u => EntityKey.member ⟨g, u⟩).Nodup := by
    have byId : Ascending (compareOn id) (s.members.ids g).toList := Std.ExtTreeSet.ordered_toList
    exact byId.nodup_map fun _ _ same => congrArg MemberId.user (EntityKey.member.inj same)
  have presences : ((s.presencesOf g).map fun p => EntityKey.presence ⟨g, p.userId⟩).Nodup :=
    (own.ascending_presencesOf g).nodup_map fun _ _ same => congrArg MemberId.user (EntityKey.presence.inj same)
  have voiceStates : ((s.voiceStatesOf g).map fun v => EntityKey.voiceState ⟨g, v.userId⟩).Nodup :=
    (own.ascending_voiceStatesOf g).nodup_map fun _ _ same => congrArg MemberId.user (EntityKey.voiceState.inj same)
  -- keys of different sorts differ
  simp [childrenOf, List.nodup_append, channels, roles, emojis, members, presences, voiceStates, or_imp, forall_and]

theorem get?_step_of_removed {x : Command} (removes : x.removed? = some g) (k : EntityKey) :
    (s.step x).get? k = if s.covers g k then none else s.get? k := by
  rw [← get?_withoutGuild]
  cases x with
  | remove key =>
    cases key with
    | guild h =>
      cases removes
      rfl
    | _ => cases removes
  | removeGuild h =>
    cases removes
    rfl
  | dispatch d =>
    cases d with
    | guildDelete n =>
      cases removes
      have deleted : (s.onGuildDelete n).1.get? k = (s.withoutGuild n.id).get? k := by
        simp only [onGuildDelete]
        split <;> cases k <;> rfl
      exact deleted
    | _ => cases removes
  | _ => cases removes

theorem get?_guild_step_of_removed {x : Command} (removes : x.removed? = some g) :
    (s.step x).get? (.guild g) = none := by
  simp [get?_step_of_removed removes, covers]

structure Bereaved (s : Store) (g : GuildId) (t : Store) : Prop where
  nodup : (s.childrenOf (.guild g)).Nodup
  mem_iff : ∀ k, k ∈ s.childrenOf (.guild g) ↔ k ≠ .guild g ∧ (s.get? k).isSome = true ∧ t.get? k = none
  guild : t.get? (.guild g) = none
  others : ∀ k, k ≠ .guild g → k ∉ s.childrenOf (.guild g) → t.get? k = s.get? k
  ownerless : ∀ k e, t.get? k = some e → e.owner? ≠ some g

theorem bereaved_step (own : s.Ownership) {x : Command} (removes : x.removed? = some g) : s.Bereaved g (s.step x) where
  nodup := nodup_childrenOf_guild own g
  mem_iff k := by
    rw [mem_childrenOf_guild own, get?_step_of_removed removes]
    by_cases guild : k = .guild g
    · simp [guild, isListed]
    · cases listed : s.isListed g k <;> simp [covers, guild, listed, Option.isSome_iff_ne_none]
  guild := get?_guild_step_of_removed removes
  others k other unlisted := by
    rw [get?_step_of_removed removes]
    rw [mem_childrenOf_guild own] at unlisted
    cases found : s.get? k with
    | none => rw [ite_self]
    | some e =>
      have absent : s.isListed g k = false := by
        rw [Bool.eq_false_iff]
        exact fun listed => unlisted ⟨listed, by rw [found]; rfl⟩
      simp [covers, other, absent]
  ownerless k e found owner := by
    obtain ⟨cached, -⟩ := (own.step x).listed found owner
    have unknown : (s.step x).guilds[g]? = none := Option.map_eq_none_iff.1 (get?_guild_step_of_removed removes)
    rw [Std.ExtTreeMap.mem_iff_isSome_getElem?, unknown] at cached
    cases cached

def LosesParent (s t : Store) (c : ChannelId) : Prop :=
  ∃ old new, s.channels.get? c = some old ∧ old.parentId.isSome = true ∧ t.channels.get? c = some new ∧ new.parentId = none

theorem losesParent_iff (own : s.Ownership) {p c : ChannelId} : s.LosesParent (s.deleteChannel p) c ↔ c ∈ s.orphans p := by
  constructor
  · rintro ⟨old, new, before, named, after, bare⟩
    rw [channels_deleteChannel] at after
    split at after
    · cases after
    · split at after
      · assumption
      · rw [before, Option.some.injEq] at after
        subst after
        rw [bare] at named
        cases named
  · intro mem
    obtain ⟨e, known, names⟩ := channel?_of_mem_orphans own mem
    refine ⟨e, { e with parentId := none }, known, by rw [names]; rfl, ?_, rfl⟩
    rw [channels_deleteChannel, if_neg (mem_orphans.1 mem).1, if_pos mem, known]
    rfl

/-- The children of a guild are told once each and are what goes with it, and the children of a
channel are the channels that lose their parent with it. -/
theorem Reachable.children (reachable : s.Reachable) :
    (∀ (g : GuildId) (x : Command), x.removed? = some g → s.Bereaved g (s.step x)) ∧
    ∀ (p : ChannelId) (k : EntityKey), k ∈ s.childrenOf (.channel p) ∧ k ≠ .channel p ↔
      ∃ c, k = .channel c ∧ s.LosesParent (s.remove (.channel p)).1 c := by
  have own := reachable.ownership
  refine ⟨fun g x removes => bereaved_step own removes, fun p k => ?_⟩
  have removed : (s.remove (.channel p)).1 = s.deleteChannel p := by simp [remove, without]
  simp only [removed, losesParent_iff own, mem_orphans, childrenOf, List.mem_map]
  constructor
  · rintro ⟨⟨e, shown, rfl⟩, other⟩
    exact ⟨e.id, rfl, fun same => other (congrArg EntityKey.channel same), e, shown, rfl⟩
  · rintro ⟨c, rfl, other, e, shown, rfl⟩
    exact ⟨⟨e, shown, rfl⟩, fun same => other (EntityKey.channel.inj same)⟩

def fostered : List Command :=
  handover ++
    [.dispatch (.channelCreate { Channel.text ⟨20⟩ (some ⟨2⟩) with kind := .guildCategory }),
      .dispatch (.channelCreate { Channel.text ⟨11⟩ (some ⟨2⟩) with parentId := some ⟨20⟩ })]

theorem children_fostered :
    let s := run fostered
    s.childrenOf (.guild ⟨1⟩) = [.channel ⟨10⟩] ∧ s.Bereaved ⟨1⟩ (s.step (.removeGuild ⟨1⟩)) ∧
    s.LosesParent (s.remove (.channel ⟨20⟩)).1 ⟨11⟩ := by
  intro s
  have reachable : s.Reachable := reachable_run fostered
  obtain ⟨guilds, channels⟩ := reachable.children
  refine ⟨by decide +kernel, guilds ⟨1⟩ (.removeGuild ⟨1⟩) rfl, ?_⟩
  let q := ChannelEntry.ofChannel { Channel.text ⟨20⟩ (some ⟨2⟩) with kind := .guildCategory } none
  let e := ChannelEntry.ofChannel { Channel.text ⟨11⟩ (some ⟨2⟩) with parentId := some ⟨20⟩ } none
  have category : s.channels.get? ⟨20⟩ = some q := by decide +kernel
  have listed : e ∈ s.channelsOf ⟨2⟩ := reachable.ownership.mem_channelsOf (by decide +kernel) rfl
  have shown : e ∈ s.categoryChannels ⟨20⟩ := mem_categoryChannels.2 ⟨q, ⟨2⟩, category, rfl, rfl, listed, rfl⟩
  obtain ⟨c, same, loses⟩ := (channels ⟨20⟩ (.channel ⟨11⟩)).1 ⟨List.mem_map_of_mem shown, nofun⟩
  cases same
  exact loses

end Store
end GuildFeed
