import GuildFeed.Proofs.Store.Drain
import GuildFeed.Proofs.Store.Update
import GuildFeed.Store.InPlace

namespace GuildFeed.Store

/-- How a program should end and what it should leave, if nothing may change where it fails. -/
def Update.inPlace (s : Store) : Update → Except StoreError Event × Store
  | .ok (t, e) => (.ok e, t)
  | .error err => (.error err, s)

namespace InPlace

variable {α β : Type}

/-! ## Programs by their parts -/

theorem runs_reads (f : Store → α) (s : Store) : runs (reads f) s = (.ok (f s), s) := rfl

theorem runs_changes (f : Store → Store) (s : Store) : runs (changes f) s = (.ok (), f s) := rfl

theorem runs_takes (f : Store → α × Store) (s : Store) : runs (takes f) s = (.ok (f s).1, (f s).2) := rfl

theorem runs_bind (x : InPlace α) (f : α → InPlace β) (s : Store) :
    runs (x >>= f) s = match runs x s with
      | (.ok a, t) => runs (f a) t
      | (.error e, t) => (.error e, t) := by
  simp only [runs, ExceptT.run_bind, StateT.run_bind]
  cases StateT.run (ExceptT.run x) s with
  | mk r t => cases r <;> rfl

theorem runs_require (g : GuildId) (k : EntityKey) (s : Store) :
    runs (require g k) s = (s.require g k, s) := by
  simp only [require, runs_bind, runs_reads, Store.require]
  split <;> rfl

theorem inPlace_require (g : GuildId) (k : EntityKey) (s : Store) (f : Unit → Update) :
    Update.inPlace s (s.require g k >>= f) = match s.require g k with
      | .ok _ => Update.inPlace s (f ())
      | .error e => (.error e, s) := by
  cases s.require g k <;> rfl

theorem runs_require_bind {s : Store} {x : InPlace Event} {f : Unit → Update} (g : GuildId)
    (k : EntityKey) (h : runs x s = Update.inPlace s (f ())) :
    runs (require g k >>= fun _ => x) s = Update.inPlace s (s.require g k >>= f) := by
  rw [runs_bind, runs_require, inPlace_require]
  cases s.require g k with
  | error e => rfl
  | ok u => exact h

/-! ## Dispatches -/

theorem runs_guildCreate (s : Store) (g : Guild) :
    runs (guildCreate g) s = Update.inPlace s (.ok (s.onGuildCreate g)) := by
  unfold guildCreate onGuildCreate
  split <;> rfl

theorem runs_guildUpdate (s : Store) (u : GuildUpdate) :
    runs (guildUpdate u) s = Update.inPlace s (s.onGuildUpdate u) := by
  unfold guildUpdate onGuildUpdate
  rw [runs_bind, runs_reads]
  cases s.guild? u.id <;> rfl

theorem runs_channelCreate (s : Store) (c : Channel) :
    runs (channelCreate c) s = Update.inPlace s (s.onChannelCreate c) := by
  have owner : (ChannelEntry.ofChannel c none).guildId = c.guildId := rfl
  unfold channelCreate onChannelCreate
  simp only [owner]
  cases c.guildId with
  | none => rfl
  | some g => exact runs_require_bind g _ rfl

theorem runs_channelUpdate (s : Store) (u : ChannelUpdate) :
    runs (channelUpdate u) s = Update.inPlace s (s.onChannelUpdate u) := by
  unfold channelUpdate onChannelUpdate
  cases u.guildId with
  | none =>
    simp only [runs_bind, runs_reads]
    cases s.channels.get? u.id with
    | some old => rfl
    | none => cases ChannelEntry.ofUpdate? u <;> rfl
  | some g =>
    refine runs_require_bind g _ ?_
    rw [runs_bind, runs_reads]
    cases s.channels.get? u.id with
    | some old => rfl
    | none => cases ChannelEntry.ofUpdate? u <;> rfl

theorem runs_channelDelete (s : Store) (c : Channel) :
    runs (channelDelete c) s = Update.inPlace s (.ok (s.onChannelDelete c)) := rfl

theorem runs_roleDelete (s : Store) (r : RoleDelete) :
    runs (roleDelete r) s = Update.inPlace s (.ok (s.onRoleDelete r)) := by
  unfold roleDelete onRoleDelete
  rw [runs_bind, runs_reads]
  cases (s.roles.get? r.roleId).filter (·.guildId = r.guildId) <;> rfl

theorem runs_memberAdd (s : Store) (a : MemberAdd) :
    runs (memberAdd a) s = Update.inPlace s (s.onMemberAdd a) := by
  refine runs_require_bind a.guildId _ ?_
  simp only [runs_bind, runs_reads, runs_changes]
  split <;> rfl

theorem runs_memberUpdate (s : Store) (u : MemberUpdate) :
    runs (memberUpdate u) s = Update.inPlace s (s.onMemberUpdate u) := by
  refine runs_require_bind u.guildId _ ?_
  rw [runs_bind, runs_reads]
  cases s.members.get? _ <;> rfl

theorem runs_memberRemove (s : Store) (r : MemberRemove) :
    runs (memberRemove r) s = Update.inPlace s (.ok (s.onMemberRemove r)) := by
  unfold memberRemove onMemberRemove
  simp only [runs_bind, runs_reads, runs_changes]
  cases s.members.get? _ <;> rfl

theorem runs_presenceUpdate (s : Store) (u : PresenceUpdate) :
    runs (presenceUpdate u) s = Update.inPlace s (s.onPresenceUpdate u) := by
  unfold presenceUpdate onPresenceUpdate
  cases u.guildId with
  | none => rfl
  | some g => exact runs_require_bind g _ rfl

theorem runs_voiceStateUpdate (s : Store) (v : VoiceState) :
    runs (voiceStateUpdate v) s = Update.inPlace s (s.onVoiceStateUpdate v) := by
  unfold voiceStateUpdate onVoiceStateUpdate
  cases v.guildId with
  | none => rfl
  | some g => exact runs_require_bind g _ rfl

theorem runs_perform (s : Store) (d : Dispatch) :
    runs (perform d) s = Update.inPlace s (s.update d) := by
  cases d with
  | channelCreate c => exact runs_channelCreate s c
  | channelDelete c => exact runs_channelDelete s c
  | channelUpdate u => exact runs_channelUpdate s u
  | guildCreate g => exact runs_guildCreate s g
  | guildDelete n => rfl
  | emojisUpdate u => exact runs_require_bind u.guildId _ rfl
  | guildUpdate u => exact runs_guildUpdate s u
  | memberAdd a => exact runs_memberAdd s a
  | membersChunk c => exact runs_require_bind c.guildId _ rfl
  | memberRemove r => exact runs_memberRemove s r
  | memberUpdate u => exact runs_memberUpdate s u
  | presenceUpdate u => exact runs_presenceUpdate s u
  | ready r => rfl
  | roleCreate r => exact runs_require_bind r.guildId _ rfl
  | roleDelete r => exact runs_roleDelete s r
  | roleUpdate r => exact runs_require_bind r.guildId _ rfl
  | userUpdate u => rfl
  | voiceStateUpdate v => exact runs_voiceStateUpdate s v
  | unknown name payload => rfl

/-! ## Entities of any kind -/

theorem runs_require_of_cached {s : Store} {g : GuildId} (cached : g ∈ s.guilds) (k : EntityKey)
    (f : Unit → InPlace α) : runs (require g k >>= f) s = runs (f ()) s := by
  rw [runs_bind, runs_require, Store.require, if_pos (isCached_iff.2 cached)]

theorem runs_require_of_uncached {s : Store} {g : GuildId} (uncached : g ∉ s.guilds) (k : EntityKey)
    (f : Unit → InPlace α) : runs (require g k >>= f) s = (.error (.inconsistentReference k (.guild g)), s) := by
  rw [runs_bind, runs_require, Store.require, if_neg (mt isCached_iff.1 uncached)]

theorem runs_upsert {s : Store} {e : Entity} (cached : ∀ g, e.owner? = some g → g ∈ s.guilds) :
    runs (upsert e) s = (.ok (s.get? e.key), s.insert e) := by
  cases e with
  | guild e =>
    have known : s.isCached e.id = (s.guild? e.id).isSome := Std.ExtTreeMap.contains_eq_isSome_getElem?
    simp only [upsert, Store.insert, Entity.key, get?, known, runs_bind, runs_reads, runs_changes]
    cases s.guild? e.id <;> rfl
  | channel e =>
    simp only [upsert, Store.insert]
    cases owner : e.guildId with
    | none => rfl
    | some g => exact runs_require_of_cached (cached g owner) _ _
  | role e => exact runs_require_of_cached (cached _ rfl) _ _
  | emoji e => exact runs_require_of_cached (cached _ rfl) _ _
  | member e => exact runs_require_of_cached (cached _ rfl) _ _
  | presence e => exact runs_require_of_cached (cached _ rfl) _ _
  | voiceState e => exact runs_require_of_cached (cached _ rfl) _ _

theorem runs_upsert_of_uncached {s : Store} {e : Entity} {g : GuildId} (owner : e.owner? = some g)
    (uncached : g ∉ s.guilds) : runs (upsert e) s = (.error (.inconsistentReference e.key (.guild g)), s) := by
  cases e with
  | guild e => cases owner
  | channel e =>
    have owner : e.guildId = some g := owner
    simp only [upsert, owner]
    exact runs_require_of_uncached uncached _ _
  | _ =>
    cases owner
    exact runs_require_of_uncached uncached _ _

theorem runs_removeChannel (s : Store) (id : ChannelId) :
    runs (removeChannel id) s = (.ok (s.channels.get? id), s.deleteChannel id) := by
  simp only [removeChannel, runs_bind, runs_reads, runs_takes, Shelf.pop_eq, deleteChannel]
  cases found : s.channels.get? id with
  | none =>
    rw [Shelf.discard_eq_self found]
    rfl
  | some e =>
    have gone : (s.channels.take e.guildId id).get? id = none := by rw [Shelf.get?_take, if_pos rfl]
    have orphaned := Shelf.foldl_modify_filter gone ((s.categoryChannels id).map (·.id)) ({ · with parentId := none })
    rw [List.foldl_map] at orphaned
    simp only [orphans, orphaned, Shelf.discard_of_get? found]
    rfl

theorem runs_removeRole (s : Store) (g : GuildId) (id : RoleId) :
    runs (removeRole g id) s = match s.roles.get? id with
      | some r => if r.guildId = g then (.ok (some r), s.deleteRole id) else (.ok none, s)
      | none => (.ok none, s) := by
  simp only [removeRole, runs_bind, runs_reads]
  cases found : s.roles.get? id with
  | none => rfl
  | some r =>
    by_cases belongs : r.guildId = g
    · simp only [belongs, Option.any_some, decide_true, Bool.not_true, Bool.false_eq_true, if_false, if_true, runs_bind,
        runs_takes, Shelf.pop_const, found, Shelf.discard_of_get? found, deleteRole]
      rfl
    · simp only [belongs, Option.any_some, decide_false, Bool.not_false, if_true, if_false]
      rfl

theorem runs_remove {s : Store} (own : s.Ownership) (k : EntityKey) :
    runs (remove k) s = (.ok (s.get? k), s.without k) := by
  cases k with
  | guild g =>
    simp only [remove, runs_bind, runs_takes, drain_eq own, removeGuild]
    simp only [holdings?, Option.map_map]
    rfl
  | channel id =>
    rw [remove, runs_bind, runs_removeChannel]
    rfl
  | role id =>
    simp only [remove, runs_bind, runs_reads, get?, without, deleteRole]
    cases found : s.roles.get? id with
    | none => rfl
    | some r =>
      rw [runs_bind, runs_removeRole]
      simp only [found, if_true, deleteRole]
      rfl
  | emoji id =>
    simp only [remove, runs_bind, runs_takes, Shelf.pop_eq, get?, without, deleteEmoji]
    cases found : s.emojis.get? id with
    | none =>
      rw [Shelf.discard_eq_self found]
      rfl
    | some e =>
      rw [Shelf.discard_of_get? found]
      rfl
  | member id =>
    simp only [remove, runs_bind, runs_takes, Shelf.pop_const]
    rfl
  | presence id =>
    simp only [remove, runs_bind, runs_takes, Shelf.pop_const]
    rfl
  | voiceState id =>
    simp only [remove, runs_bind, runs_takes, Shelf.pop_const]
    rfl

end InPlace
end GuildFeed.Store
