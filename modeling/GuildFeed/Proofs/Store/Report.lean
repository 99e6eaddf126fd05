import GuildFeed.Proofs.Store.Drain
import GuildFeed.Proofs.Store.EmojiSet
import GuildFeed.Proofs.Store.Repetition

namespace GuildFeed.Store
open GuildFeed.Shelf

variable {s t : Store} {e : Event}

structure Parting (s : Store) (g : GuildId) (prior : Option Holdings) : Prop where
  isSome_eq : prior.isSome = s.isCached g
  drained : (s.drain g).2 = prior
  guild : ∀ h, prior = some h → s.guild? g = some h.guild
  channels : ∀ h, prior = some h → h.channels = s.channelsOf g
  roles : ∀ h, prior = some h → h.roles = s.rolesOf g
  emojis : ∀ h, prior = some h → h.emojis = s.emojisOf g
  members : ∀ h, prior = some h → h.members = s.membersOf g ∧
    h.members.map (·.user.id) = (s.members.ids g).toList
  presences : ∀ h, prior = some h → h.presences = s.presencesOf g ∧
    h.presences.map (·.userId) = (s.presences.ids g).toList
  voiceStates : ∀ h, prior = some h → h.voiceStates = s.voiceStatesOf g

/-- The report of an emoji set. Where an id comes twice, only the last of its emojis stays. -/
structure Exchange (s t : Store) (emojis added removed : List EmojiEntry)
    (changed : List (EmojiEntry × EmojiEntry)) : Prop where
  after : ∀ id ∈ emojis.map (·.id), t.emojis.get? id = last? EmojiEntry.id emojis id
  removed : ∀ e ∈ removed, s.emojis.get? e.id = some e ∧ t.emojis.get? e.id = none
  added : (emojis.map (·.id)).Nodup → ∀ e ∈ added,
    s.emojis.get? e.id = none ∧ t.emojis.get? e.id = some e
  changed : (emojis.map (·.id)).Nodup → ∀ p ∈ changed, p.1.id = p.2.id ∧ p.1 ≠ p.2 ∧
    s.emojis.get? p.1.id = some p.1 ∧ t.emojis.get? p.2.id = some p.2

/-- The event tells truly how a dispatch took the store from `s` to `t`. -/
inductive Reports (s t : Store) : Dispatch → Event → Prop
  | ready {r : Ready} (after : t.currentUser = some r.user)
      (gone : ∀ g ∈ r.listed, t.guild? g = none ∧ t.isUnavailable g = true) :
    Reports s t (.ready r) (.ready r.user r.listed r.sessionId)
  | userUpdate {u : User} {old : Option User} (before : s.currentUser = old)
      (after : t.currentUser = some u) :
    Reports s t (.userUpdate u) (.currentUserUpdated old u)
  | guildCreate {g : Guild} {new : GuildEntry} {recovered : Bool} (up : g.unavailable = false)
      (id : new.id = g.id) (before : s.isUnavailable g.id = recovered) (after : t.guild? g.id = some new) :
    Reports s t (.guildCreate g) (.guildAvailable new recovered)
  | outage {g : Guild} {prior : Option Holdings} (down : g.unavailable = true)
      (before : s.Parting g.id prior) (after : t.guild? g.id = none) :
    Reports s t (.guildCreate g) (.guildUnavailable g.id true prior)
  | guildDelete {n : GuildNotice} {prior : Option Holdings} (before : s.Parting n.id prior)
      (after : t.guild? n.id = none) :
    Reports s t (.guildDelete n) (.guildUnavailable n.id n.unavailable prior)
  | guildUpdate {u : GuildUpdate} {old new : GuildEntry} (before : s.guild? u.id = some old)
      (after : t.guild? u.id = some new) :
    Reports s t (.guildUpdate u) (.guildUpdated old new)
  | channelCreate {c : Channel} {new : ChannelEntry} (after : t.channels.get? c.id = some new) :
    Reports s t (.channelCreate c) (.channelCreated new)
  | channelUpdate {u : ChannelUpdate} {old : Option ChannelEntry} {new : ChannelEntry}
      (before : s.channels.get? u.id = old) (after : t.channels.get? u.id = some new) :
    Reports s t (.channelUpdate u) (.channelUpdated old new)
  | channelDelete {c : Channel} {guildId : Option GuildId} {old : Option ChannelEntry}
      {orphaned : List ChannelId} (before : s.channels.get? c.id = old)
      (after : t.channels.get? c.id = none) :
    Reports s t (.channelDelete c) (.channelDeleted c.id guildId old orphaned)
  | roleCreate {r : GuildRole} {new : RoleEntry} (after : t.roles.get? r.role.id = some new) :
    Reports s t (.roleCreate r) (.roleCreated new)
  | roleUpdate {r : GuildRole} {old : Option RoleEntry} {new : RoleEntry}
      (before : s.roles.get? r.role.id = old) (after : t.roles.get? r.role.id = some new) :
    Reports s t (.roleUpdate r) (.roleUpdated old new)
  | roleDelete {r : RoleDelete} {old : Option RoleEntry}
      (before : (s.roles.get? r.roleId).filter (·.guildId = r.guildId) = old)
      (after : ∀ role, t.roles.get? r.roleId = some role → role.guildId ≠ r.guildId) :
    Reports s t (.roleDelete r) (.roleDeleted r.guildId r.roleId old)
  | memberAdd {a : MemberAdd} {new : MemberEntry}
      (after : t.members.get? ⟨a.guildId, a.member.user.id⟩ = some new) :
    Reports s t (.memberAdd a) (.memberAdded new)
  | memberUpdate {u : MemberUpdate} {old : Option MemberEntry} {new : MemberEntry}
      (before : s.members.get? ⟨u.guildId, u.user.id⟩ = old)
      (after : t.members.get? ⟨u.guildId, u.user.id⟩ = some new) :
    Reports s t (.memberUpdate u) (.memberUpdated old new)
  | memberRemove {r : MemberRemove} {old : Option MemberEntry}
      (before : s.members.get? ⟨r.guildId, r.user.id⟩ = old)
      (after : t.members.get? ⟨r.guildId, r.user.id⟩ = none) :
    Reports s t (.memberRemove r) (.memberRemoved r.guildId r.user old)
  | membersChunk {c : MembersChunk} :
    Reports s t (.membersChunk c)
      (.membersChunk c.guildId c.members.length c.presences.length c.index c.count)
  | presenceUpdate {u : PresenceUpdate} {g : GuildId} {old : Option PresenceEntry} {new : PresenceEntry}
      (owner : u.guildId = some g) (before : s.presences.get? ⟨g, u.user.id⟩ = old)
      (after : t.presences.get? ⟨g, u.user.id⟩ = some new) :
    Reports s t (.presenceUpdate u) (.presenceUpdated g u.user.id old new)
  | emojisUpdate {u : EmojiSet} {added removed : List EmojiEntry} {changed : List (EmojiEntry × EmojiEntry)}
      (exchange : s.Exchange t (emojiEntries u.guildId u.emojis) added removed changed) :
    Reports s t (.emojisUpdate u)
      (.emojisUpdated u.guildId (emojiEntries u.guildId u.emojis) added removed changed)
  | voiceStateUpdate {v : VoiceState} {g : GuildId} {old new : Option VoiceEntry}
      (owner : v.guildId = some g) (before : s.voiceStates.get? ⟨g, v.userId⟩ = old)
      (after : t.voiceStates.get? ⟨g, v.userId⟩ = new) :
    Reports s t (.voiceStateUpdate v) (.voiceStateUpdated g v.userId old new)
  | unknown {name : String} {payload : Json} (after : t = s) :
    Reports s t (.unknown name payload) (.unknown name payload)

theorem guild?_withoutGuild (s : Store) (g : GuildId) : (s.withoutGuild g).guild? g = none :=
  Std.ExtTreeMap.getElem?_erase_self

theorem guild?_putSnapshot_self (own : s.Ownership) (g : Guild) :
    (s.putSnapshot g).guild? g.id = some (.ofGuild g) := by
  rw [putSnapshot_eq own]
  exact Std.ExtTreeMap.getElem?_insert_self

theorem parting_holdings? (own : s.Ownership) (g : GuildId) : s.Parting g (s.holdings? g) := by
  have drained : (s.drain g).2 = s.holdings? g := congrArg Prod.snd (drain_eq own g)
  have members : (s.membersOf g).map (·.user.id) = (s.members.ids g).toList :=
    map_entities (fun found => congrArg MemberId.user (own.members.key_eq found))
      fun _ => own.mem_ids_members.1
  have presences : (s.presencesOf g).map (·.userId) = (s.presences.ids g).toList :=
    map_entities (fun found => congrArg MemberId.user (own.presences.key_eq found))
      fun _ => own.mem_ids_presences.1
  cases found : s.guild? g with
  | none =>
    have uncached : s.isCached g = false := by
      rw [isCached, Std.ExtTreeMap.contains_eq_isSome_getElem?]
      exact congrArg Option.isSome found
    have nothing : s.holdings? g = none := by rw [holdings?, found, Option.map_none]
    rw [nothing] at drained ⊢
    constructor <;> simp [drained, uncached]
  | some guild =>
    have cached : s.isCached g = true := isCached_iff.2 (mem_guilds_of_guild? found)
    have all : s.holdings? g = some ⟨guild, s.channelsOf g, s.rolesOf g, s.emojisOf g, s.membersOf g,
        s.presencesOf g, s.voiceStatesOf g⟩ := by
      rw [holdings?, found, Option.map_some]
    rw [all] at drained ⊢
    constructor <;> simp [drained, cached, found, members, presences]

theorem reports_ready (s : Store) (r : Ready) : s.Reports (s.onReady r).1 (.ready r) (s.onReady r).2 := by
  refine .ready (currentUser_dropListed _ _) fun g mem => ?_
  obtain ⟨uncached, marked⟩ := gone_dropListed (s := s.setUser r.user) (.inr mem)
  exact ⟨Std.ExtTreeMap.getElem?_eq_none uncached, Std.ExtTreeSet.contains_iff_mem.2 marked⟩

theorem reports_guildCreate (own : s.Ownership) (g : Guild) :
    s.Reports (s.onGuildCreate g).1 (.guildCreate g) (s.onGuildCreate g).2 := by
  cases down : g.unavailable with
  | true =>
    simp only [onGuildCreate, down, if_true]
    exact .outage down (parting_holdings? own g.id) (guild?_withoutGuild s g.id)
  | false =>
    simp only [onGuildCreate, down, Bool.false_eq_true, if_false]
    exact .guildCreate down rfl rfl (guild?_putSnapshot_self own g)

theorem reports_guildDelete (own : s.Ownership) (n : GuildNotice) :
    s.Reports (s.onGuildDelete n).1 (.guildDelete n) (s.onGuildDelete n).2 := by
  refine .guildDelete (parting_holdings? own n.id) ?_
  simp only [onGuildDelete]
  split <;> exact guild?_withoutGuild s n.id

theorem reports_guildUpdate {u : GuildUpdate} (h : s.onGuildUpdate u = .ok (t, e)) :
    s.Reports t (.guildUpdate u) e := by
  obtain ⟨old, found, rfl, rfl⟩ := onGuildUpdate_ok.1 h
  exact .guildUpdate found Std.ExtTreeMap.getElem?_insert_self

theorem reports_channelUpdate {u : ChannelUpdate} (h : s.onChannelUpdate u = .ok (t, e)) :
    s.Reports t (.channelUpdate u) e := by
  rcases (onChannelUpdate_ok.1 h).2 with ⟨old, found, rfl, rfl⟩ | ⟨new, absent, first, rfl, rfl⟩
  · refine .channelUpdate found ?_
    rw [get?_modify, if_pos rfl, found, Option.map_some]
  · have id : new.id = u.id := by
      obtain ⟨_, -, rfl⟩ := Option.map_eq_some_iff.1 first
      rfl
    refine .channelUpdate absent ?_
    rw [← id]
    exact get?_put_self ..

theorem reports_roleDelete (s : Store) (r : RoleDelete) :
    s.Reports (s.onRoleDelete r).1 (.roleDelete r) (s.onRoleDelete r).2 := by
  unfold onRoleDelete
  cases known : (s.roles.get? r.roleId).filter (·.guildId = r.guildId) with
  | some old =>
    refine .roleDelete known fun role found => ?_
    rw [role?_deleteRole] at found
    cases found
  | none =>
    refine .roleDelete known fun role found owner => ?_
    rw [found, Option.filter_some] at known
    simp [owner] at known

theorem reports_memberAdd {a : MemberAdd} (h : s.onMemberAdd a = .ok (t, e)) :
    s.Reports t (.memberAdd a) e := by
  obtain ⟨-, rfl, rfl⟩ := onMemberAdd_ok.1 h
  refine .memberAdd ?_
  split
  · exact member?_cacheMember ..
  · rw [members_countJoin]
    exact member?_cacheMember ..

theorem reports_memberUpdate {u : MemberUpdate} (h : s.onMemberUpdate u = .ok (t, e)) :
    s.Reports t (.memberUpdate u) e := by
  rcases (onMemberUpdate_ok.1 h).2 with ⟨old, found, rfl, rfl⟩ | ⟨absent, rfl, rfl⟩
  · refine .memberUpdate found ?_
    rw [get?_modify, if_pos rfl, found, Option.map_some]
  · exact .memberUpdate absent (get?_put_self ..)

theorem reports_memberRemove (s : Store) (r : MemberRemove) :
    s.Reports (s.onMemberRemove r).1 (.memberRemove r) (s.onMemberRemove r).2 := by
  refine .memberRemove rfl ?_
  have gone : (((s.deletePresence ⟨r.guildId, r.user.id⟩).deleteMember ⟨r.guildId, r.user.id⟩).members).get?
      ⟨r.guildId, r.user.id⟩ = none := (get?_discard ..).trans (if_pos rfl)
  simp only [onMemberRemove]
  split
  · rw [members_countLeave]
    exact gone
  · exact gone

theorem reports_presenceUpdate (own : s.Ownership) {u : PresenceUpdate} (h : s.onPresenceUpdate u = .ok (t, e)) :
    s.Reports t (.presenceUpdate u) e := by
  obtain ⟨g, owner, -, rfl, rfl⟩ := onPresenceUpdate_ok.1 h
  have stored (p : PresenceEntry) : (s.putPresence p).presences.get? p.id = some p := get?_put_self ..
  have told := stored (merged g (s.presences.get? ⟨g, u.user.id⟩) u)
  rw [id_merged own] at told
  exact .presenceUpdate owner rfl told

theorem reports_voiceStateUpdate {v : VoiceState} (h : s.onVoiceStateUpdate v = .ok (t, e)) :
    s.Reports t (.voiceStateUpdate v) e := by
  obtain ⟨g, owner, -, rfl, rfl⟩ := onVoiceStateUpdate_ok.1 h
  refine .voiceStateUpdate owner rfl ?_
  unfold putVoiceState
  cases joined : VoiceEntry.ofVoiceState? v g with
  | none => exact (get?_take ..).trans (if_pos rfl)
  | some new =>
    have place : new.id = ⟨g, v.userId⟩ := by
      obtain ⟨_, -, rfl⟩ := Option.map_eq_some_iff.1 joined
      rfl
    rw [← place]
    exact get?_put_self ..

theorem exchange_onEmojisUpdate (own : s.Ownership) {u : EmojiSet} {added : List EmojiEntry}
    {changed : List (EmojiEntry × EmojiEntry)}
    (after : t.emojis = s.emojis.refill u.guildId EmojiEntry.id some (emojiEntries u.guildId u.emojis))
    (told : ((emojiEntries u.guildId u.emojis).map (·.id)).Nodup →
      added = ((emojiEntries u.guildId u.emojis).filter fun e => (s.emojis.get? e.id).isNone) ∧
      changed = (emojiEntries u.guildId u.emojis).filterMap fun e => change? e (s.emojis.get? e.id)) :
    s.Exchange t (emojiEntries u.guildId u.emojis) added (s.strayEmojis u) changed := by
  unfold strayEmojis
  generalize emojiEntries u.guildId u.emojis = es at after told ⊢
  have stays (distinct : (es.map (·.id)).Nodup) (e : EmojiEntry) (mem : e ∈ es) :
      t.emojis.get? e.id = some e := by
    rw [after, emoji?_refill, last?_of_nodup distinct mem, Option.some_or]
  refine ⟨fun id mem => ?_, fun e mem => ?_, fun distinct e mem => ?_, fun distinct p mem => ?_⟩
  · rw [after, emoji?_refill]
    cases found : last? EmojiEntry.id es id with
    | some e => rfl
    | none =>
      obtain ⟨e, mem, same⟩ := List.mem_map.1 mem
      exact absurd same (last?_eq_none.1 found e mem)
  · obtain ⟨mem, unnamed⟩ := List.mem_filter.1 mem
    obtain ⟨id, listed, found⟩ := mem_entities.1 mem
    have same : e.id = id := own.emojis.key_eq found
    subst same
    have absent : last? EmojiEntry.id es e.id = none :=
      last?_eq_none.2 fun f mem same => of_decide_eq_true unnamed (List.mem_map.2 ⟨f, mem, same⟩)
    have listed : s.emojis.isListed u.guildId e.id = true := isListed_key.2 listed
    refine ⟨found, ?_⟩
    rw [after, emoji?_refill, absent, listed]
    rfl
  · rw [(told distinct).1] at mem
    obtain ⟨mem, fresh⟩ := List.mem_filter.1 mem
    exact ⟨Option.isNone_iff_eq_none.1 fresh, stays distinct e mem⟩
  · rw [(told distinct).2] at mem
    obtain ⟨e, mem, change⟩ := List.mem_filterMap.1 mem
    obtain ⟨found, rfl, other⟩ := change?_eq_some.1 change
    have same : p.1.id = p.2.id := own.emojis.key_eq found
    exact ⟨same, other, same ▸ found, stays distinct p.2 mem⟩

theorem reports_emojisUpdate (own : s.Ownership) {u : EmojiSet} (h : s.onEmojisUpdate u = .ok (t, e)) :
    s.Reports t (.emojisUpdate u) e := by
  obtain ⟨-, stored⟩ := onEmojisUpdate_ok.1 ⟨e, h⟩
  obtain ⟨added, changed, rfl, told⟩ := onEmojisUpdate_tells h
  exact .emojisUpdate (exchange_onEmojisUpdate own (congrArg Store.emojis stored) told)

theorem reports_update (own : s.Ownership) {d : Dispatch} (h : s.update d = .ok (t, e)) : s.Reports t d e := by
  cases d with
  | ready r =>
    obtain ⟨⟩ := h
    exact reports_ready s r
  | userUpdate u =>
    obtain ⟨⟩ := h
    exact .userUpdate rfl rfl
  | guildCreate g =>
    have told := reports_guildCreate own g
    rw [Except.ok.inj h] at told
    exact told
  | guildDelete n =>
    have told := reports_guildDelete own n
    rw [Except.ok.inj h] at told
    exact told
  | guildUpdate u => exact reports_guildUpdate h
  | channelCreate c =>
    obtain ⟨-, rfl, rfl⟩ := onChannelCreate_ok.1 h
    exact .channelCreate (get?_put_self ..)
  | channelUpdate u => exact reports_channelUpdate h
  | channelDelete c =>
    obtain ⟨⟩ := h
    exact .channelDelete rfl (channel?_deleteChannel s c.id)
  | roleCreate r =>
    obtain ⟨-, rfl, rfl⟩ := onRoleCreate_ok.1 h
    exact .roleCreate (get?_put_self ..)
  | roleUpdate r =>
    obtain ⟨-, rfl, rfl⟩ := onRoleUpdate_ok.1 h
    exact .roleUpdate rfl (get?_put_self ..)
  | roleDelete r =>
    have told := reports_roleDelete s r
    rw [Except.ok.inj h] at told
    exact told
  | memberAdd a => exact reports_memberAdd h
  | memberUpdate u => exact reports_memberUpdate h
  | memberRemove r =>
    have told := reports_memberRemove s r
    rw [Except.ok.inj h] at told
    exact told
  | membersChunk c =>
    obtain ⟨-, -, rfl⟩ := onMembersChunk_ok.1 h
    exact .membersChunk
  | presenceUpdate u => exact reports_presenceUpdate own h
  | emojisUpdate u => exact reports_emojisUpdate own h
  | voiceStateUpdate v => exact reports_voiceStateUpdate h
  | unknown name payload =>
    obtain ⟨⟩ := h
    exact .unknown rfl

/-- Whatever dispatch is accepted, its event tells truly what it did. -/
theorem Reachable.reports (reachable : s.Reachable) {d : Dispatch} (accepted : s.update d = .ok (t, e)) :
    s.Reports t d e :=
  reports_update reachable.ownership accepted

theorem reports_handover :
    let s := run handover
    let left := s.onGuildDelete ⟨⟨1⟩, false⟩
    s.Reports left.1 (.guildDelete ⟨⟨1⟩, false⟩) left.2 ∧
      (s.holdings? ⟨1⟩).map (·.channels) = some [.ofChannel (.text ⟨10⟩ (some ⟨2⟩)) none] :=
  ⟨(reachable_run handover).reports rfl, by decide +kernel⟩

end GuildFeed.Store
