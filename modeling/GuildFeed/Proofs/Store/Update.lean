import GuildFeed.Proofs.Store.Snapshot
import GuildFeed.Store.Update

namespace GuildFeed.Store
open GuildFeed.Shelf

variable {s t : Store} {e : Event}

theorem require_bind_ok {β : Type} {g : GuildId} {k : EntityKey} {f : Unit → Except StoreError β} {b : β} :
    (s.require g k >>= f) = .ok b ↔ g ∈ s.guilds ∧ f () = .ok b := by
  rw [← isCached_iff, require]
  cases s.isCached g <;> simp [bind, Except.bind]

theorem pure_ok {β : Type} {a b : β} : (pure a : Except StoreError β) = .ok b ↔ b = a :=
  ⟨fun h => (Except.ok.inj h).symm, fun h => h ▸ rfl⟩

theorem rest_countJoin (s : Store) (g : GuildId) : s.countJoin g =
    { s with guilds := (s.countJoin g).guilds, memberGauge := (s.countJoin g).memberGauge } := by
  unfold countJoin
  split <;> rfl

theorem rest_countLeave (s : Store) (g : GuildId) : s.countLeave g =
    { s with guilds := (s.countLeave g).guilds, memberGauge := (s.countLeave g).memberGauge } := by
  unfold countLeave
  split
  · rfl
  · split <;> rfl

theorem rest_cacheMember (s : Store) (m : MemberEntry) :
    s.cacheMember m = { s with members := (s.cacheMember m).members } := by
  unfold cacheMember
  split <;> rfl

theorem rest_putVoiceState (s : Store) (g : GuildId) (v : VoiceState) :
    s.putVoiceState g v = { s with voiceStates := (s.putVoiceState g v).voiceStates } := by
  unfold putVoiceState
  split <;> rfl

theorem rest_deleteChannel (s : Store) (c : ChannelId) :
    s.deleteChannel c = { s with channels := (s.deleteChannel c).channels } := by
  unfold deleteChannel
  split <;> rfl

theorem rest_deleteRole (s : Store) (r : RoleId) :
    s.deleteRole r = { s with roles := (s.deleteRole r).roles, members := (s.deleteRole r).members } := by
  unfold deleteRole
  split <;> rfl

theorem rest_deleteEmoji (s : Store) (id : EmojiId) :
    s.deleteEmoji id = { s with emojis := (s.deleteEmoji id).emojis } := by
  unfold deleteEmoji
  split <;> rfl

theorem view_membersChunk {γ : Type} (view : Store → γ) (members : ∀ s m, view (s.cacheMember m) = view s)
    (presences : ∀ s g u, view (s.mergePresence g u) = view s) (c : MembersChunk) (s : Store) :
    view (c.presences.foldl (·.mergePresence c.guildId ·) (s.putMembers c.guildId c.members)) = view s := by
  have kept {β : Type} {f : Store → β → Store} (step : ∀ s b, view (f s b) = view s) (bs : List β) (s : Store) :
      view (bs.foldl f s) = view s := by
    induction bs generalizing s with
    | nil => rfl
    | cons b bs ih => exact (ih (f s b)).trans (step s b)
  rw [kept (fun s u => presences s c.guildId u)]
  exact kept (fun s m => members s (.ofMember m c.guildId)) c.members s

theorem update_guildCreate (s : Store) {g : Guild} (available : g.unavailable = false) :
    s.update (.guildCreate g) = .ok (s.putSnapshot g, .guildAvailable (.ofGuild g) (s.isUnavailable g.id)) := by
  simp [update, onGuildCreate, available]

theorem onGuildUpdate_ok {u : GuildUpdate} : s.onGuildUpdate u = .ok (t, e) ↔
    ∃ old, s.guild? u.id = some old ∧ t = { s with guilds := s.guilds.insert u.id (old.merge u) } ∧
      e = .guildUpdated old (old.merge u) := by
  unfold onGuildUpdate
  cases s.guild? u.id <;> simp [eq_comm]

theorem onChannelCreate_ok {c : Channel} : s.onChannelCreate c = .ok (t, e) ↔
    (∀ g, c.guildId = some g → g ∈ s.guilds) ∧ t = s.putChannel (.ofChannel c none) ∧
      e = .channelCreated (.ofChannel c none) := by
  have owner : (ChannelEntry.ofChannel c none).guildId = c.guildId := rfl
  unfold onChannelCreate
  simp only [owner]
  cases c.guildId with
  | none => simp [pure_ok]
  | some g =>
    simp only [require_bind_ok, pure_ok, Prod.mk.injEq, Option.some.injEq]
    simp

theorem onChannelUpdate_ok {u : ChannelUpdate} : s.onChannelUpdate u = .ok (t, e) ↔
    (∀ g, u.guildId = some g → g ∈ s.guilds) ∧
      ((∃ old, s.channels.get? u.id = some old ∧
          t = { s with channels := s.channels.modify u.id (·.merge u) } ∧
          e = .channelUpdated (some old) (old.merge u)) ∨
        ∃ new, s.channels.get? u.id = none ∧ ChannelEntry.ofUpdate? u = some new ∧
          t = s.putChannel new ∧ e = .channelUpdated none new) := by
  unfold onChannelUpdate
  cases u.guildId with
  | none =>
    cases s.channels.get? u.id with
    | some old => simp [pure_ok]
    | none => cases ChannelEntry.ofUpdate? u <;> simp [pure_ok, throw, throwThe, MonadExceptOf.throw]
  | some g =>
    simp only [require_bind_ok]
    cases s.channels.get? u.id with
    | some old => simp [pure_ok]
    | none => cases ChannelEntry.ofUpdate? u <;> simp [pure_ok, throw, throwThe, MonadExceptOf.throw]

theorem onRoleCreate_ok {r : GuildRole} : s.onRoleCreate r = .ok (t, e) ↔
    r.guildId ∈ s.guilds ∧ t = s.putRole (.ofRole r.role r.guildId) ∧
      e = .roleCreated (.ofRole r.role r.guildId) := by
  simp only [onRoleCreate, require_bind_ok, pure_ok, Prod.mk.injEq]

theorem onRoleUpdate_ok {r : GuildRole} : s.onRoleUpdate r = .ok (t, e) ↔
    r.guildId ∈ s.guilds ∧ t = s.putRole (.ofRole r.role r.guildId) ∧
      e = .roleUpdated (s.roles.get? r.role.id) (.ofRole r.role r.guildId) := by
  simp only [onRoleUpdate, require_bind_ok, pure_ok, Prod.mk.injEq]

theorem fst_replaceEmojis_cons (shelf : Shelf EmojiId EmojiEntry) (e : EmojiEntry) (es : List EmojiEntry) :
    (replaceEmojis shelf (e :: es)).1 =
      (replaceEmojis { shelf with table := shelf.table.insert e.id e } es).1 := by
  rw [replaceEmojis]
  cases shelf.get? e.id <;> rfl

theorem get?_replaceEmojis (shelf : Shelf EmojiId EmojiEntry) (es : List EmojiEntry) (id : EmojiId) :
    (replaceEmojis shelf es).1.get? id = (last? EmojiEntry.id es id).or (shelf.get? id) := by
  induction es generalizing shelf with
  | nil => rfl
  | cons e es ih =>
    have inserted : ({ shelf with table := shelf.table.insert e.id e } : Shelf EmojiId EmojiEntry).get? id =
        (if e.id = id then some e else none).or (shelf.get? id) := by
      change (shelf.table.insert e.id e)[id]? = _
      rw [Std.ExtTreeMap.getElem?_insert]
      simp only [Std.LawfulEqCmp.compare_eq_iff_eq]
      split <;> rfl
    rw [fst_replaceEmojis_cons, ih, inserted, last?_cons, Option.or_assoc]

theorem lists_replaceEmojis (shelf : Shelf EmojiId EmojiEntry) (es : List EmojiEntry) :
    (replaceEmojis shelf es).1.lists = shelf.lists := by
  induction es generalizing shelf with
  | nil => rfl
  | cons e es ih => rw [fst_replaceEmojis_cons, ih]

-- The set drops what is stale first and the snapshot last, with the same result.
theorem replaceEmojis_retain (shelf : Shelf EmojiId EmojiEntry) (g : GuildId) (es : List EmojiEntry) :
    (replaceEmojis (shelf.retain g (.ofList (es.map (·.id)))) es).1 =
      shelf.refill g EmojiEntry.id some es := by
  have keep : kept EmojiEntry.id some es = .ofList (es.map (·.id)) := by simp [kept]
  rw [← keep]
  apply ext_get?
  · intro id
    have decides : deciding? g EmojiEntry.id es id = last? EmojiEntry.id es id := rfl
    rw [get?_replaceEmojis, get?_retain, get?_refill, decides]
    cases found : last? EmojiEntry.id es id with
    | some e => rfl
    | none =>
      have unnamed : names (kept EmojiEntry.id some es) g id = false := by
        rw [Bool.eq_false_iff, ne_eq, names_kept]
        rintro ⟨e, mem, -, same⟩
        exact last?_eq_none.1 found e mem same
      simp [unnamed]
  · intro h
    rw [lists_replaceEmojis, lists_refill]
    simp [retain, Std.ExtTreeMap.getElem?_insert]

theorem onEmojisUpdate_ok {u : EmojiSet} : (∃ e, s.onEmojisUpdate u = .ok (t, e)) ↔
    u.guildId ∈ s.guilds ∧ t = { s with
      emojis := s.emojis.refill u.guildId EmojiEntry.id some (emojiEntries u.guildId u.emojis) } := by
  rw [← replaceEmojis_retain]
  simp only [onEmojisUpdate, require_bind_ok, pure_ok, Prod.mk.injEq]
  simp

theorem onMemberAdd_ok {a : MemberAdd} : s.onMemberAdd a = .ok (t, e) ↔
    a.guildId ∈ s.guilds ∧ e = .memberAdded (.ofMember a.member a.guildId) ∧
      t = if (s.members.get? ⟨a.guildId, a.member.user.id⟩).isSome then s.cacheMember (.ofMember a.member a.guildId)
        else (s.cacheMember (.ofMember a.member a.guildId)).countJoin a.guildId := by
  have id : (MemberEntry.ofMember a.member a.guildId).id = ⟨a.guildId, a.member.user.id⟩ := rfl
  simp only [onMemberAdd, require_bind_ok, pure_ok, Prod.mk.injEq, id]
  rw [and_comm (a := t = _)]

theorem onMemberUpdate_ok {u : MemberUpdate} : s.onMemberUpdate u = .ok (t, e) ↔
    u.guildId ∈ s.guilds ∧
      ((∃ old, s.members.get? ⟨u.guildId, u.user.id⟩ = some old ∧
          t = { s with members := s.members.modify ⟨u.guildId, u.user.id⟩ (·.merge u) } ∧
          e = .memberUpdated (some old) (old.merge u)) ∨
        s.members.get? ⟨u.guildId, u.user.id⟩ = none ∧ t = s.putMember (.ofUpdate u) ∧
          e = .memberUpdated none (.ofUpdate u)) := by
  simp only [onMemberUpdate, require_bind_ok]
  cases s.members.get? ⟨u.guildId, u.user.id⟩ with
  | some old => simp [pure_ok]
  | none => simp [pure_ok]

theorem onMembersChunk_ok {c : MembersChunk} : s.onMembersChunk c = .ok (t, e) ↔
    c.guildId ∈ s.guilds ∧
      t = c.presences.foldl (·.mergePresence c.guildId ·) (s.putMembers c.guildId c.members) ∧
      e = .membersChunk c.guildId c.members.length c.presences.length c.index c.count := by
  simp only [onMembersChunk, require_bind_ok, pure_ok, Prod.mk.injEq]

theorem onPresenceUpdate_ok {u : PresenceUpdate} : s.onPresenceUpdate u = .ok (t, e) ↔
    ∃ g, u.guildId = some g ∧ g ∈ s.guilds ∧ t = s.mergePresence g u ∧
      e = .presenceUpdated g u.user.id (s.presences.get? ⟨g, u.user.id⟩)
        (((s.presences.get? ⟨g, u.user.id⟩).getD (.start g u.user.id)).merge u) := by
  unfold onPresenceUpdate
  cases u.guildId with
  | none => simp
  | some g =>
    simp only [require_bind_ok, pure_ok, Prod.mk.injEq]
    simp [mergePresence]

theorem onVoiceStateUpdate_ok {v : VoiceState} : s.onVoiceStateUpdate v = .ok (t, e) ↔
    ∃ g, v.guildId = some g ∧ g ∈ s.guilds ∧ t = s.putVoiceState g v ∧
      e = .voiceStateUpdated g v.userId (s.voiceStates.get? ⟨g, v.userId⟩) (VoiceEntry.ofVoiceState? v g) := by
  unfold onVoiceStateUpdate
  cases v.guildId with
  | none => simp
  | some g =>
    simp only [require_bind_ok, pure_ok, Prod.mk.injEq]
    simp

theorem upsert_ok {x : Entity} {old : Option Entity} : s.upsert x = .ok (t, old) ↔
    (∀ g, x.owner? = some g → g ∈ s.guilds) ∧ t = s.insert x ∧ old = s.get? x.key := by
  unfold upsert
  cases x.owner? with
  | none => simp [pure_ok]
  | some g =>
    simp only [require_bind_ok, pure_ok, Prod.mk.injEq, Option.some.injEq]
    simp

end GuildFeed.Store
