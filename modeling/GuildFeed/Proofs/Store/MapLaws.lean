import GuildFeed.Proofs.Store.Children
import GuildFeed.Proofs.Store.InPlace
import GuildFeed.Proofs.Store.Refusal
import GuildFeed.Proofs.Store.Repetition

namespace GuildFeed
namespace Shelf
open Entry

set_option linter.unusedSectionVars false

variable {κ ι α : Type} [Ord κ] [Std.TransOrd κ] [Std.LawfulEqOrd κ] [DecidableEq κ]
  [Ord ι] [Std.TransOrd ι] [Std.LawfulEqOrd ι] [Listed κ ι] [Entry α κ ι]
  {s : Shelf κ α} {cached : GuildId → Prop} {owner : Option GuildId} {k l : κ} {a : α} {g : GuildId}

theorem Ownership.cached_of_isListed (own : s.Ownership cached) (listed : s.isListed g k = true) : cached g := by
  obtain ⟨i, mem, -⟩ := isListed_iff.1 listed
  exact (own.mem_lists g).1 (mem_lists_of_mem_ids mem)

theorem get?_unlistMoved (s : Shelf κ α) (old new : Option GuildId) (k l : κ) :
    (Store.unlistMoved s old new k).get? l = s.get? l := by
  unfold Store.unlistMoved
  split
  · rfl
  · exact get?_unlist s old k l

theorem unlistMoved_of_yields (yields : s.Yields k owner) (t : Shelf κ α) :
    Store.unlistMoved t ((s.get? k).bind owner?) owner k = t := by
  unfold Store.unlistMoved
  split
  · rfl
  · next moved =>
    apply unlist_eq_self
    intro g was
    obtain ⟨b, found, owned⟩ := Option.bind_eq_some_iff.1 was
    exact absurd (was.trans (yields b g found owned).symm) moved

theorem Ownership.isListed_put_moved (own : s.Ownership cached) (hk : key a = k) (ho : owner? a = owner)
    (allowed : ∀ g, owner = some g → cached g) {old : Option GuildId} (was : (s.get? k).bind owner? = old) :
    (Store.unlistMoved (s.put owner k a) old owner k).isListed g l = true ↔
      if l = k then owner = some g ∨ s.isListed g l = true ∧ (s.get? l).bind owner? ≠ some g
      else s.isListed g l = true := by
  have put : (s.put owner k a).isListed g l = true ↔ s.isListed g l = true ∨ l = k ∧ owner = some g := by
    rw [isListed_put]
    constructor
    · rintro (listed | ⟨same, owned, -⟩)
      · exact .inl listed
      · exact .inr ⟨same.symm, owned⟩
    · rintro (listed | ⟨same, owned⟩)
      · exact .inl listed
      · have named : (Listed.id? g k).isSome = true := hk ▸ isSome_id? (ho.trans owned)
        exact .inr ⟨same.symm, owned, (own.mem_lists g).2 (allowed g owned), named⟩
  unfold Store.unlistMoved
  by_cases same : l = k
  · subst same
    rw [was]
    split
    · next stays =>
      rw [put, stays]
      by_cases owned : owner = some g <;> simp [owned]
    · next moved =>
      rw [isListed_unlist, put]
      by_cases left : old = some g
      · have other : owner ≠ some g := fun owned => moved (left.trans owned.symm)
        simp [left, other]
      · simp [left, or_comm]
  · split
    · simp [put, same]
    · simp [isListed_unlist, put, same, Ne.symm same]

theorem Ownership.isListed_put_home (own : s.Ownership cached) (hk : key a = k) (ho : owner? a = owner)
    (allowed : ∀ g, owner = some g → cached g) (yields : s.Yields k owner) :
    (s.put owner k a).isListed g l = true ↔
      if l = k then owner = some g ∨ s.isListed g l = true ∧ (s.get? l).bind owner? ≠ some g
      else s.isListed g l = true := by
  have moved := own.isListed_put_moved (g := g) (l := l) hk ho allowed rfl
  rwa [unlistMoved_of_yields yields] at moved

theorem isListed_discard : (s.discard ((s.get? k).bind owner?) k).isListed g l = true ↔
    s.isListed g l = true ∧ ¬ (l = k ∧ (s.get? k).bind owner? = some g) := by
  cases found : s.get? k with
  | none =>
    rw [discard_eq_self found]
    simp
  | some b =>
    rw [discard_of_get? found, isListed_take, Option.bind_some, and_comm (a := owner? b = some g), eq_comm (a := k)]

theorem discard_owner (homed : ∀ b, s.get? k = some b → owner? b = owner) :
    s.discard owner k = s.discard ((s.get? k).bind owner?) k := by
  cases found : s.get? k with
  | none => rw [discard_eq_self found, discard_eq_self found]
  | some b => rw [Option.bind_some, homed b found]

theorem isListed_foldl_modify (s : Shelf κ α) (ks : List κ) (f : α → α) (g : GuildId) (l : κ) :
    (ks.foldl (fun t k => t.modify k f) s).isListed g l = s.isListed g l := by
  induction ks generalizing s with
  | nil => rfl
  | cons k ks ih => exact (ih _).trans (isListed_modify s k l f g)

end Shelf

namespace Store
open GuildFeed.Shelf

variable {s t : Store} {e : Entity} {k : EntityKey}

def owner? (s : Store) (k : EntityKey) : Option GuildId := (s.get? k).bind Entity.owner?

theorem mem_guilds_iff {g : GuildId} : g ∈ s.guilds ↔ (s.get? (.guild g)).isSome = true := by
  rw [Std.ExtTreeMap.mem_iff_isSome_getElem?, get?, Option.isSome_map]
  rfl

theorem owner?_guild (s : Store) (g : GuildId) : s.owner? (.guild g) = none := by
  simp [owner?, get?, Option.bind_map, Function.comp_def, Entity.owner?]

theorem owner?_channel (s : Store) (id : ChannelId) :
    s.owner? (.channel id) = (s.channels.get? id).bind Entry.owner? := Option.bind_map

theorem owner?_role (s : Store) (id : RoleId) : s.owner? (.role id) = (s.roles.get? id).bind Entry.owner? :=
  Option.bind_map

theorem owner?_emoji (s : Store) (id : EmojiId) : s.owner? (.emoji id) = (s.emojis.get? id).bind Entry.owner? :=
  Option.bind_map

theorem owner?_member (s : Store) (id : MemberId) : s.owner? (.member id) = (s.members.get? id).bind Entry.owner? :=
  Option.bind_map

theorem owner?_presence (s : Store) (id : MemberId) :
    s.owner? (.presence id) = (s.presences.get? id).bind Entry.owner? := Option.bind_map

theorem owner?_voiceState (s : Store) (id : MemberId) :
    s.owner? (.voiceState id) = (s.voiceStates.get? id).bind Entry.owner? := Option.bind_map

theorem mem_guilds_of_isListed (own : s.Ownership) {g : GuildId} (listed : s.isListed g k = true) : g ∈ s.guilds := by
  cases k with
  | guild id => cases listed
  | channel id => exact own.channels.cached_of_isListed listed
  | role id => exact own.roles.cached_of_isListed listed
  | emoji id => exact own.emojis.cached_of_isListed listed
  | member id => exact own.members.cached_of_isListed listed
  | presence id => exact own.presences.cached_of_isListed listed
  | voiceState id => exact own.voiceStates.cached_of_isListed listed

/-! ## Putting an entity -/

theorem guilds_insert_guild (s : Store) (e : GuildEntry) : (s.insert (.guild e)).guilds = s.guilds.insert e.id e := by
  rw [insert]
  split <;> rfl

theorem get?_insert (s : Store) (e : Entity) (k : EntityKey) :
    (s.insert e).get? k = if k = e.key then some e else s.get? k := by
  cases e with
  | guild e =>
    cases k with
    | guild id =>
      simp only [get?, guild?, guilds_insert_guild, Std.ExtTreeMap.getElem?_insert, Std.LawfulEqCmp.compare_eq_iff_eq,
        Entity.key, EntityKey.guild.injEq, eq_comm (a := id)]
      split <;> rfl
    | _ =>
      rw [insert]
      split <;> rfl
  | channel e =>
    cases k with
    | channel id =>
      simp only [get?, insert, putChannel, get?_unlistMoved, get?_put, Entity.key, EntityKey.channel.injEq,
        eq_comm (a := id)]
      split <;> rfl
    | _ => rfl
  | role e =>
    cases k with
    | role id =>
      simp only [get?, insert, putRole, get?_unlistMoved, get?_put, Entity.key, EntityKey.role.injEq, eq_comm (a := id)]
      split <;> rfl
    | _ => rfl
  | emoji e =>
    cases k with
    | emoji id =>
      simp only [get?, insert, putEmoji, get?_unlistMoved, get?_put, Entity.key, EntityKey.emoji.injEq,
        eq_comm (a := id)]
      split <;> rfl
    | _ => rfl
  | member e =>
    cases k with
    | member id =>
      simp only [get?, insert, putMember, get?_put, Entity.key, EntityKey.member.injEq, eq_comm (a := id)]
      split <;> rfl
    | _ => rfl
  | presence e =>
    cases k with
    | presence id =>
      simp only [get?, insert, putPresence, get?_put, Entity.key, EntityKey.presence.injEq, eq_comm (a := id)]
      split <;> rfl
    | _ => rfl
  | voiceState e =>
    cases k with
    | voiceState id =>
      simp only [get?, insert, putVoiceEntry, get?_put, Entity.key, EntityKey.voiceState.injEq, eq_comm (a := id)]
      split <;> rfl
    | _ => rfl

theorem isListed_insert (own : s.Ownership) {e : Entity} (cached : ∀ g, e.owner? = some g → g ∈ s.guilds)
    (g : GuildId) (k : EntityKey) : (s.insert e).isListed g k = true ↔
      if k = e.key then e.owner? = some g ∨ s.isListed g k = true ∧ s.owner? k ≠ some g
      else s.isListed g k = true := by
  cases e with
  | guild e =>
    have same : (s.insert (.guild e)).isListed g k = s.isListed g k := by
      rw [insert]
      split
      · cases k <;> rfl
      · cases k with
        | guild id => rfl
        | _ => exact isListed_ensure ..
    cases k with
    | guild id => simp [isListed, Entity.owner?]
    | _ => rw [same, if_neg (fun other => by cases other)]
  | channel e =>
    cases k with
    | channel id =>
      have moved := own.channels.isListed_put_moved (a := e) (g := g) (l := id) rfl rfl cached rfl
      simp only [isListed, Entity.key, EntityKey.channel.injEq, owner?_channel]
      exact moved
    | _ => rfl
  | role e =>
    cases k with
    | role id =>
      have moved := own.roles.isListed_put_moved (a := e) (g := g) (l := id) rfl rfl cached Option.map_eq_bind.symm
      simp only [isListed, Entity.key, EntityKey.role.injEq, owner?_role]
      exact moved
    | _ => rfl
  | emoji e =>
    cases k with
    | emoji id =>
      have moved := own.emojis.isListed_put_moved (a := e) (g := g) (l := id) rfl rfl cached Option.map_eq_bind.symm
      simp only [isListed, Entity.key, EntityKey.emoji.injEq, owner?_emoji]
      exact moved
    | _ => rfl
  | member e =>
    cases k with
    | member id =>
      have put := own.members.isListed_put_home (a := e) (g := g) (l := id) rfl rfl cached (own.yields_member e.id)
      simp only [isListed, Entity.key, EntityKey.member.injEq, owner?_member]
      exact put
    | _ => rfl
  | presence e =>
    cases k with
    | presence id =>
      have put := own.presences.isListed_put_home (a := e) (g := g) (l := id) rfl rfl cached (own.yields_presence e.id)
      simp only [isListed, Entity.key, EntityKey.presence.injEq, owner?_presence]
      exact put
    | _ => rfl
  | voiceState e =>
    cases k with
    | voiceState id =>
      have home := own.yields_voiceState e.id
      have put := own.voiceStates.isListed_put_home (a := e) (g := g) (l := id) rfl rfl cached home
      simp only [isListed, Entity.key, EntityKey.voiceState.injEq, owner?_voiceState]
      exact put
    | _ => rfl

theorem mem_guilds_insert (s : Store) (e : Entity) (g : GuildId) :
    g ∈ (s.insert e).guilds ↔ g ∈ s.guilds ∨ e.key = .guild g := by
  rw [mem_guilds_iff, mem_guilds_iff, get?_insert]
  split
  · next same => simp [same]
  · next other => simp [Ne.symm other]

/-- One store is the other with an entity under its key. Its guild lists it, and the guild of what it
replaces no longer does if that is another one. A guild that is new has empty lists. -/
structure Gains (s : Store) (e : Entity) (t : Store) : Prop where
  get? : ∀ k, t.get? k = if k = e.key then some e else s.get? k
  isListed : ∀ g k, t.isListed g k = true ↔
    if k = e.key then e.owner? = some g ∨ s.isListed g k = true ∧ s.owner? k ≠ some g else s.isListed g k = true
  lists : ∀ g, (g ∈ t.channels.lists ↔ g ∈ s.channels.lists ∨ e.key = .guild g) ∧
    (g ∈ t.roles.lists ↔ g ∈ s.roles.lists ∨ e.key = .guild g) ∧
    (g ∈ t.emojis.lists ↔ g ∈ s.emojis.lists ∨ e.key = .guild g) ∧
    (g ∈ t.members.lists ↔ g ∈ s.members.lists ∨ e.key = .guild g) ∧
    (g ∈ t.presences.lists ↔ g ∈ s.presences.lists ∨ e.key = .guild g) ∧
    (g ∈ t.voiceStates.lists ↔ g ∈ s.voiceStates.lists ∨ e.key = .guild g)
  fresh : ∀ g, e.key = .guild g → s.get? (.guild g) = none → ∀ k, t.isListed g k = false
  rest : t.unavailable = s.unavailable ∧ t.currentUser = s.currentUser

theorem gains_insert (own : s.Ownership) (cached : ∀ g, e.owner? = some g → g ∈ s.guilds) : s.Gains e (s.insert e) where
  get? := get?_insert s e
  isListed := isListed_insert own cached
  lists g := by
    have after := own.insert cached
    have guilds := mem_guilds_insert s e g
    rw [after.channels.mem_lists, after.roles.mem_lists, after.emojis.mem_lists, after.members.mem_lists,
      after.presences.mem_lists, after.voiceStates.mem_lists, own.channels.mem_lists, own.roles.mem_lists,
      own.emojis.mem_lists, own.members.mem_lists, own.presences.mem_lists, own.voiceStates.mem_lists]
    exact ⟨guilds, guilds, guilds, guilds, guilds, guilds⟩
  fresh g put absent k := by
    have uncached : g ∉ s.guilds := by
      rw [mem_guilds_iff, absent]
      nofun
    have ownerless : e.owner? = none := by
      cases e with
      | guild e => rfl
      | _ => cases put
    rw [Bool.eq_false_iff, ne_eq, isListed_insert own cached, ownerless]
    split
    · exact fun listed => listed.elim nofun fun listed => uncached (mem_guilds_of_isListed own listed.1)
    · exact fun listed => uncached (mem_guilds_of_isListed own listed)
  rest := by
    cases e with
    | guild e =>
      rw [insert]
      split <;> exact ⟨rfl, rfl⟩
    | _ => exact ⟨rfl, rfl⟩

/-! ## Removing an entity -/

/-- What another key names once one is removed: nothing if it depends on a guild that goes, a channel
without its parent if that goes, and a member without a role of its guild that goes. -/
def spared (s : Store) : EntityKey → EntityKey → Option Entity
  | .guild g, l => if l ∈ s.childrenOf (.guild g) then none else s.get? l
  | .channel c, .channel d =>
    (s.channels.get? d).map fun e =>
      .channel (if .channel d ∈ s.childrenOf (.channel c) then { e with parentId := none } else e)
  | .role r, .member id =>
    (s.members.get? id).map fun m =>
      .member (if s.owner? (.role r) = some id.guild then m.strip r else m)
  | _, l => s.get? l

theorem mem_childrenOf_channel {c d : ChannelId} :
    .channel d ∈ s.childrenOf (.channel c) ↔ ∃ e ∈ s.categoryChannels c, e.id = d := by
  simp [childrenOf]

theorem isListed_deleteChannel (s : Store) (c : ChannelId) (g : GuildId) (d : ChannelId) :
    (s.deleteChannel c).channels.isListed g d = (s.channels.discard (s.owner? (.channel c)) c).isListed g d := by
  rw [deleteChannel, owner?_channel]
  cases found : s.channels.get? c with
  | none => rw [discard_eq_self found]
  | some e =>
    rw [discard_of_get? found]
    exact isListed_foldl_modify ..

theorem roles_deleteRole (s : Store) (r : RoleId) :
    (s.deleteRole r).roles = s.roles.discard (s.owner? (.role r)) r := by
  rw [deleteRole, owner?_role]
  cases found : s.roles.get? r with
  | none => rw [discard_eq_self found]
  | some e =>
    rw [discard_of_get? found]
    rfl

theorem emojis_deleteEmoji (s : Store) (id : EmojiId) :
    (s.deleteEmoji id).emojis = s.emojis.discard (s.owner? (.emoji id)) id := by
  rw [deleteEmoji, owner?_emoji]
  cases found : s.emojis.get? id with
  | none => rw [discard_eq_self found]
  | some e =>
    rw [discard_of_get? found]
    rfl

theorem members_deleteMember (own : s.Ownership) (id : MemberId) :
    (s.deleteMember id).members = s.members.discard (s.owner? (.member id)) id := by
  rw [owner?_member]
  exact discard_owner fun m found => congrArg (some ·.guild) (own.members.key_eq found)

theorem presences_deletePresence (own : s.Ownership) (id : MemberId) :
    (s.deletePresence id).presences = s.presences.discard (s.owner? (.presence id)) id := by
  rw [owner?_presence]
  exact discard_owner fun p found => congrArg (some ·.guild) (own.presences.key_eq found)

theorem voiceStates_deleteVoiceState (own : s.Ownership) (id : MemberId) :
    (s.deleteVoiceState id).voiceStates = s.voiceStates.discard (s.owner? (.voiceState id)) id := by
  rw [owner?_voiceState]
  exact discard_owner fun v found => congrArg (some ·.guild) (own.voiceStates.key_eq found)

theorem get?_without (own : s.Ownership) (k l : EntityKey) :
    (s.without k).get? l = if l = k then none else s.spared k l := by
  cases k with
  | guild g =>
    rw [without, get?_withoutGuild, spared, covers]
    have gone : l ∈ s.childrenOf (.guild g) ↔ s.isListed g l = true ∧ (s.get? l).isSome = true :=
      mem_childrenOf_guild own
    by_cases same : l = .guild g
    · simp [same]
    · cases listed : s.isListed g l with
      | false => simp [same, gone, listed]
      | true => cases found : s.get? l <;> simp [same, gone, listed, found]
  | channel c =>
    cases l with
    | channel d =>
      simp only [without, get?, channels_deleteChannel, mem_orphans, EntityKey.channel.injEq, spared,
        mem_childrenOf_channel]
      by_cases same : d = c
      · simp [same]
      · by_cases shown : ∃ e ∈ s.categoryChannels c, e.id = d
        · simp only [same, shown, if_false, if_true, not_false_eq_true, ne_eq, and_self, Option.map_map,
            Function.comp_def]
        · simp only [same, shown, if_false, and_false]
    | _ =>
      rw [without, rest_deleteChannel]
      rfl
  | role r =>
    cases l with
    | role q =>
      simp only [without, get?, roles_deleteRole, get?_discard, EntityKey.role.injEq, spared, eq_comm (a := q)]
      split <;> rfl
    | member id =>
      cases found : s.roles.get? r with
      | none =>
        have same : s.deleteRole r = s := by rw [deleteRole, found]
        simp [without, same, get?, spared, owner?_role, found]
      | some e =>
        have owner : s.owner? (.role r) = some e.guildId := by
          rw [owner?_role, found]
          rfl
        simp only [without, get?, members_deleteRole own found, spared, owner, Option.some.injEq,
          eq_comm (a := e.guildId)]
        by_cases home : id.guild = e.guildId
        · simp [home, Function.comp_def]
        · simp [home]
    | _ =>
      rw [without, rest_deleteRole]
      rfl
  | emoji id =>
    cases l with
    | emoji j =>
      simp only [without, emojis_deleteEmoji, get?, get?_discard, EntityKey.emoji.injEq, spared, eq_comm (a := j)]
      split <;> rfl
    | _ =>
      rw [without, rest_deleteEmoji]
      rfl
  | member id =>
    cases l with
    | member j =>
      simp only [without, deleteMember, get?, get?_discard, EntityKey.member.injEq, spared, eq_comm (a := j)]
      split <;> rfl
    | _ => rfl
  | presence id =>
    cases l with
    | presence j =>
      simp only [without, deletePresence, get?, get?_discard, EntityKey.presence.injEq, spared, eq_comm (a := j)]
      split <;> rfl
    | _ => rfl
  | voiceState id =>
    cases l with
    | voiceState j =>
      simp only [without, deleteVoiceState, get?, get?_discard, EntityKey.voiceState.injEq, spared, eq_comm (a := j)]
      split <;> rfl
    | _ => rfl

theorem isListed_without (own : s.Ownership) (k : EntityKey) (g : GuildId) (l : EntityKey) :
    (s.without k).isListed g l = true ↔ s.isListed g l = true ∧ k ≠ .guild g ∧ ¬ (l = k ∧ s.owner? k = some g) := by
  cases k with
  | guild h =>
    rw [without, isListed_withoutGuild, owner?_guild]
    by_cases same : h = g <;> simp [same]
  | channel c =>
    cases l with
    | channel d => simp [without, isListed, isListed_deleteChannel, owner?_channel, isListed_discard]
    | _ =>
      rw [without, rest_deleteChannel]
      simp [isListed]
  | role r =>
    cases l with
    | role q => simp [without, isListed, roles_deleteRole, owner?_role, isListed_discard]
    | member id =>
      have same : (s.deleteRole r).members.isListed g id = s.members.isListed g id := by
        unfold deleteRole
        split <;> rfl
      simp [without, isListed, same]
    | _ =>
      rw [without, rest_deleteRole]
      simp [isListed]
  | emoji id =>
    cases l with
    | emoji j => simp [without, isListed, emojis_deleteEmoji, owner?_emoji, isListed_discard]
    | _ =>
      rw [without, rest_deleteEmoji]
      simp [isListed]
  | member id =>
    cases l with
    | member j => simp [without, isListed, members_deleteMember own, owner?_member, isListed_discard]
    | _ => simp [without, isListed, deleteMember]
  | presence id =>
    cases l with
    | presence j => simp [without, isListed, presences_deletePresence own, owner?_presence, isListed_discard]
    | _ => simp [without, isListed, deletePresence]
  | voiceState id =>
    cases l with
    | voiceState j => simp [without, isListed, voiceStates_deleteVoiceState own, owner?_voiceState, isListed_discard]
    | _ => simp [without, isListed, deleteVoiceState]

theorem without_eq_self (own : s.Ownership) (absent : s.get? k = none) : s.without k = s := by
  cases k with
  | guild g =>
    refine withoutGuild_eq_self own ?_
    rw [mem_guilds_iff, absent]
    nofun
  | channel c =>
    have absent : s.channels.get? c = none := Option.map_eq_none_iff.1 absent
    rw [without, deleteChannel, absent]
  | role r =>
    have absent : s.roles.get? r = none := Option.map_eq_none_iff.1 absent
    rw [without, deleteRole, absent]
  | emoji id =>
    have absent : s.emojis.get? id = none := Option.map_eq_none_iff.1 absent
    rw [without, deleteEmoji, absent]
  | member id => rw [without, deleteMember, discard_eq_self (Option.map_eq_none_iff.1 absent)]
  | presence id => rw [without, deletePresence, discard_eq_self (Option.map_eq_none_iff.1 absent)]
  | voiceState id => rw [without, deleteVoiceState, discard_eq_self (Option.map_eq_none_iff.1 absent)]

/-- One store is the other without an entity. Other keys name what they are spared, and no list
changes but those of a guild that goes and that of the guild that owned the entity. -/
structure Loses (s : Store) (k : EntityKey) (t : Store) : Prop where
  gone : t.get? k = none
  others : ∀ l, l ≠ k → t.get? l = s.spared k l
  isListed : ∀ g l, t.isListed g l = true ↔ s.isListed g l = true ∧ k ≠ .guild g ∧ ¬ (l = k ∧ s.owner? k = some g)
  absent : s.get? k = none → t = s

theorem loses_without (own : s.Ownership) (k : EntityKey) : s.Loses k (s.without k) where
  gone := by rw [get?_without own, if_pos rfl]
  others l other := by rw [get?_without own, if_neg other]
  isListed := isListed_without own k
  absent := without_eq_self own

/-! ## Both -/

end Store
end GuildFeed
