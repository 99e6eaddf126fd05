import GuildFeed.Proofs.Shelf.Listing
import GuildFeed.Proofs.Store.Scope
import GuildFeed.Proofs.Store.Snapshot

namespace GuildFeed.Store.Local

variable {scope : EntityKey → Prop} {g : GuildId}

theorem setUser (u : User) : Local scope (·.setUser u) where
  tidy _ tidy := { tidy with }
  agree _ _ _ same := { same with }
  frame s _ := { Agree.refl (¬ scope ·) s with }

theorem table (f : Std.ExtTreeMap GuildId GuildEntry → Std.ExtTreeMap GuildId GuildEntry) (entry : Option GuildEntry)
    (hg : scope (.guild g)) (sets : ∀ guilds (h : GuildId), (f guilds)[h]? = if g = h then entry else guilds[h]?)
    (n m : Store → Int) :
    Local scope fun s => { s with guilds := f s.guilds, guildGauge := n s, memberGauge := m s } where
  tidy _ tidy := { tidy with }
  agree s t _ same := by
    refine { same with guild := fun h hh => ?_ }
    have known : s.guilds[h]? = t.guilds[h]? := same.guild h hh
    simp only [guild?, sets, known]
  frame s _ := by
    refine { Agree.refl (¬ scope ·) s with guild := fun h hh => ?_ }
    have other : g ≠ h := by
      rintro rfl
      exact hh hg
    simp only [guild?, sets, other, if_false]

theorem enter (hg : scope (.guild g)) (entry : GuildEntry) (n m : Store → Int) :
    Local scope fun s => { s with guilds := s.guilds.insert g entry, guildGauge := n s, memberGauge := m s } :=
  table (·.insert g entry) (some entry) hg (fun guilds h => by simp [Std.ExtTreeMap.getElem?_insert]) n m

theorem leave (hg : scope (.guild g)) (n m : Store → Int) :
    Local scope fun s => { s with guilds := s.guilds.erase g, guildGauge := n s, memberGauge := m s } :=
  table (·.erase g) none hg (fun guilds h => by simp [Std.ExtTreeMap.getElem?_erase]) n m

theorem setGuild {entry : GuildEntry} (hg : scope (.guild entry.id)) : Local scope (·.setGuild entry) :=
  enter hg entry _ _

theorem openLists (hg : scope (.guild g)) : Local scope (·.openLists g) :=
  (channels (.ensure hg)).comp <| (roles (.ensure hg)).comp <| (emojis (.ensure hg)).comp <|
    (members (.ensure hg)).comp <| (presences (.ensure hg)).comp (voiceStates (.ensure hg))

theorem putGuild {entry : GuildEntry} (hg : scope (.guild entry.id)) : Local scope (·.putGuild entry) :=
  (setGuild hg).comp (openLists hg)

theorem withoutGuild (hg : scope (.guild g)) : Local scope (·.withoutGuild g) :=
  (leave hg (fun s => s.guildGauge - if s.isCached g then 1 else 0) fun s => s.memberGauge - s.memberCount g).comp <|
    (channels (.close hg)).comp <| (roles (.close hg)).comp <| (emojis (.close hg)).comp <|
      (members (.close hg)).comp <| (presences (.close hg)).comp (voiceStates (.close hg))

theorem marks (f : Std.ExtTreeSet GuildId → Std.ExtTreeSet GuildId) (down : Bool) (hg : scope (.guild g))
    (sets : ∀ guilds (h : GuildId), (f guilds).contains h = if g = h then down else guilds.contains h) :
    Local scope fun s => { s with unavailable := f s.unavailable } where
  tidy _ tidy := { tidy with }
  agree s t _ same := by
    refine { same with unavailable := fun h hh => ?_ }
    have marked : s.unavailable.contains h = t.unavailable.contains h := same.unavailable h hh
    simp only [isUnavailable, sets, marked]
  frame s _ := by
    refine { Agree.refl (¬ scope ·) s with unavailable := fun h hh => ?_ }
    have other : g ≠ h := by
      rintro rfl
      exact hh hg
    simp only [isUnavailable, sets, other, if_false]

theorem mark (hg : scope (.guild g)) : Local scope (·.mark g) :=
  marks (·.insert g) true hg fun guilds h => by by_cases same : g = h <;> simp [Std.ExtTreeSet.contains_insert, same]

theorem unmark (hg : scope (.guild g)) : Local scope (·.unmark g) :=
  marks (·.erase g) false hg fun guilds h => by by_cases same : g = h <;> simp [Std.ExtTreeSet.contains_erase, same]

theorem countJoin (hg : scope (.guild g)) : Local scope (·.countJoin g) := by
  refine depend (reads_guild? hg) fun s _ => ?_
  cases s.guild? g with
  | none => exact ⟨_, id, fun t same => by rw [Store.countJoin, same]⟩
  | some e =>
    have count := enter hg { e with memberCount := e.memberCount + 1 } (·.guildGauge) (·.memberGauge + 1)
    exact ⟨_, count, fun t same => by rw [Store.countJoin, same]⟩

theorem countLeave (hg : scope (.guild g)) : Local scope (·.countLeave g) := by
  refine depend (reads_guild? hg) fun s _ => ?_
  cases s.guild? g with
  | none => exact ⟨_, id, fun t same => by rw [Store.countLeave, same]⟩
  | some e =>
    by_cases none : e.memberCount = 0
    · refine ⟨_, id, fun t same => ?_⟩
      simp only [Store.countLeave, same, none, if_true]
    · have count := enter hg { e with memberCount := e.memberCount - 1 } (·.guildGauge) (·.memberGauge - 1)
      refine ⟨_, count, fun t same => ?_⟩
      simp only [Store.countLeave, same, none, if_false]

theorem dropListed {gs : List GuildId} (hg : ∀ g ∈ gs, scope (.guild g)) : Local scope (·.dropListed gs) :=
  foldl fun g mem => (withoutGuild (hg g mem)).comp (mark (hg g mem))

theorem owns (hg : scope (.guild g)) : ∀ h, some g = some h → scope (.guild h) := by
  rintro h ⟨⟩
  exact hg

theorem putChannel {c : ChannelEntry} (hc : scope (.channel c.id)) (ho : ∀ g, c.guildId = some g → scope (.guild g)) :
    Local scope (·.putChannel c) :=
  channels (.put hc ho ⟨hc, ho⟩)

theorem putRole {r : RoleEntry} (hr : scope (.role r.id)) (hg : scope (.guild r.guildId)) : Local scope (·.putRole r) :=
  roles (.put hr (owns hg) ⟨hr, owns hg⟩)

theorem putEmoji {e : EmojiEntry} (he : scope (.emoji e.id)) (hg : scope (.guild e.guildId)) :
    Local scope (·.putEmoji e) :=
  emojis (.put he (owns hg) ⟨he, owns hg⟩)

theorem putMember {m : MemberEntry} (hg : scope (.guild m.guildId)) : Local scope (·.putMember m) :=
  members (.put hg (owns hg) ⟨hg, owns hg⟩)

theorem cacheMember {m : MemberEntry} (hg : scope (.guild m.guildId)) : Local scope (·.cacheMember m) := by
  have reads : Reads scope (·.members.get? m.id) := reads_member hg
  refine depend reads fun s _ => ?_
  by_cases cached : s.members.get? m.id = some m
  · exact ⟨_, id, fun t same => if_pos (same.trans cached)⟩
  · exact ⟨_, putMember hg, fun t same => if_neg (same ▸ cached)⟩

theorem putPresence {p : PresenceEntry} (hg : scope (.guild p.guildId)) : Local scope (·.putPresence p) :=
  presences (.put hg (owns hg) ⟨hg, owns hg⟩)

theorem mergePresence (hg : scope (.guild g)) (u : PresenceUpdate) : Local scope (·.mergePresence g u) := by
  have reads : Reads scope (·.presences.get? ⟨g, u.user.id⟩) := reads_presence hg
  refine depend reads fun s tidy => ?_
  have owner : scope (.guild (((s.presences.get? ⟨g, u.user.id⟩).getD (.start g u.user.id)).merge u).guildId) := by
    cases found : s.presences.get? ⟨g, u.user.id⟩ with
    | none => exact hg
    | some old => exact (tidy.presences.entry _ old hg found).owner _ rfl
  exact ⟨_, putPresence owner, fun t same => by rw [Store.mergePresence, same]⟩

theorem putVoiceEntry {v : VoiceEntry} (hg : scope (.guild v.guildId)) : Local scope (·.putVoiceEntry v) :=
  voiceStates (.put hg (owns hg) ⟨hg, owns hg⟩)

theorem putVoiceState (hg : scope (.guild g)) (v : VoiceState) : Local scope (·.putVoiceState g v) := by
  cases present : v.channelId with
  | none =>
    simp only [Store.putVoiceState, VoiceEntry.ofVoiceState?, present, Option.map_none]
    exact voiceStates (.take hg (owns hg))
  | some c =>
    simp only [Store.putVoiceState, VoiceEntry.ofVoiceState?, present, Option.map_some]
    exact putVoiceEntry hg

theorem orphan_mem {s : Store} (tidy : s.Tidy scope) {c o : ChannelId} (hc : scope (.channel c))
    (mem : o ∈ s.orphans c) : scope (.channel o) := by
  simp only [orphans, categoryChannels] at mem
  cases found : s.channels.get? c with
  | none => simp [found] at mem
  | some category =>
    simp only [found] at mem
    split at mem
    · next g _ owner =>
      have hg : scope (.guild g) := (tidy.channels.entry c category hc found).owner g owner
      obtain ⟨child, listed, rfl⟩ := List.mem_map.1 (List.mem_filter.1 mem).1
      have entity := List.mem_mergeSort.1 (List.mem_filter.1 listed).1
      obtain ⟨i, named, stored⟩ := Shelf.mem_entities.1 entity
      have key := tidy.channels.listed g i hg (Shelf.isListed_key.2 named)
      exact (tidy.channels.entry i child key stored).key
    · simp at mem

theorem deleteChannel {c : ChannelId} (hc : scope (.channel c)) : Local scope (·.deleteChannel c) := by
  refine depend ((reads_channel hc).pair (reads_orphans hc)) fun s tidy => ?_
  cases found : s.channels.get? c with
  | none =>
    refine ⟨_, id, fun t same => ?_⟩
    rw [Store.deleteChannel, (Prod.mk.inj same).1]
  | some e =>
    have inside := tidy.channels.entry c e hc found
    have orphaned (o : ChannelId) (mem : o ∈ s.orphans c) :
        Shelf.Local (fun g => scope (.guild g)) (fun c => scope (.channel c))
          (Shelf.modify (α := ChannelEntry) · o ({ · with parentId := none })) :=
      .modify (orphan_mem tidy hc mem) fun _ inside => ⟨inside.key, inside.owner⟩
    refine ⟨_, channels (Shelf.Local.comp (.take hc inside.owner) (.foldl orphaned)), fun t same => ?_⟩
    obtain ⟨known, orphans⟩ := Prod.mk.inj same
    simp only [Store.deleteChannel, known, orphans]
    rfl

theorem deleteRole {r : RoleId} (hr : scope (.role r)) : Local scope (·.deleteRole r) := by
  refine depend (reads_role hr) fun s tidy => ?_
  cases found : s.roles.get? r with
  | none => exact ⟨_, id, fun t same => by rw [Store.deleteRole, same]⟩
  | some e =>
    have inside := tidy.roles.entry r e hr found
    have hg : scope (.guild e.guildId) := inside.owner _ rfl
    have strip : Shelf.Local (fun g => scope (.guild g)) (fun id => scope (.guild id.guild))
        (Shelf.modifyListed (α := MemberEntry) · e.guildId (·.strip r)) :=
      .modifyListed hg fun _ inside => ⟨inside.key, inside.owner⟩
    exact ⟨_, (roles (.take hr (owns hg))).comp (members strip), fun t same => by rw [Store.deleteRole, same]⟩

theorem deleteMember {id : MemberId} (hg : scope (.guild id.guild)) : Local scope (·.deleteMember id) :=
  members (.discard hg (owns hg))

theorem deletePresence {id : MemberId} (hg : scope (.guild id.guild)) : Local scope (·.deletePresence id) :=
  presences (.discard hg (owns hg))

theorem putChannels {cs : List Channel} (hg : scope (.guild g)) (hc : ∀ c ∈ cs, scope (.channel c.id)) :
    Local scope (·.putChannels g cs) :=
  foldl fun c mem => putChannel (hc c mem) (owns hg)

theorem putRoles {rs : List Role} (hg : scope (.guild g)) (hr : ∀ r ∈ rs, scope (.role r.id)) :
    Local scope (·.putRoles g rs) :=
  foldl fun r mem => putRole (hr r mem) hg

theorem putEmojis {es : List Emoji} (hg : scope (.guild g)) (he : ∀ e ∈ emojiEntries g es, scope (.emoji e.id)) :
    Local scope (·.putEmojis (emojiEntries g es)) :=
  foldl fun e mem => putEmoji (he e mem) ((mem_emojiEntries mem).symm ▸ hg)

theorem putMembers (hg : scope (.guild g)) (ms : List Member) : Local scope (·.putMembers g ms) :=
  foldl fun _ _ => cacheMember hg

theorem putPresences (hg : scope (.guild g)) (us : List PresenceUpdate) : Local scope (·.putPresences g us) :=
  foldl fun _ _ => putPresence hg

theorem putVoiceStates (hg : scope (.guild g)) (vs : List VoiceState) : Local scope (·.putVoiceStates g vs) :=
  foldl fun v _ => putVoiceState hg v

theorem retainListed {snapshot : Guild} (hg : scope (.guild snapshot.id))
    (hc : ∀ c ∈ snapshot.channels, scope (.channel c.id)) (hr : ∀ r ∈ snapshot.roles, scope (.role r.id))
    (he : ∀ e ∈ emojiEntries snapshot.id snapshot.emojis, scope (.emoji e.id)) :
    Local scope (·.retainListed snapshot) := by
  have users (is : List UserId) (id : MemberId) (named : Shelf.names (.ofList is) snapshot.id id = true) :
      scope (.guild id.guild) := by
    obtain ⟨i, -, rfl⟩ := Shelf.names_ofList.1 named
    exact hg
  refine (channels (.retain hg ?_)).comp <| (roles (.retain hg ?_)).comp <| (emojis (.retain hg ?_)).comp <|
    (members (.retain hg (users _))).comp <| (presences (.retain hg (users _))).comp <|
    voiceStates (.retain hg (users _))
  · intro c named
    obtain ⟨_, mem, rfl⟩ := Shelf.names_ofList.1 named
    obtain ⟨c, sent, rfl⟩ := List.mem_map.1 mem
    exact hc c sent
  · intro r named
    obtain ⟨_, mem, rfl⟩ := Shelf.names_ofList.1 named
    obtain ⟨r, sent, rfl⟩ := List.mem_map.1 mem
    exact hr r sent
  · intro e named
    obtain ⟨_, mem, rfl⟩ := Shelf.names_ofList.1 named
    obtain ⟨e, sent, rfl⟩ := List.mem_map.1 mem
    exact he e sent

theorem putSnapshot {snapshot : Guild} (hg : scope (.guild snapshot.id))
    (hc : ∀ c ∈ snapshot.channels, scope (.channel c.id)) (hr : ∀ r ∈ snapshot.roles, scope (.role r.id))
    (he : ∀ e ∈ emojiEntries snapshot.id snapshot.emojis, scope (.emoji e.id)) :
    Local scope (·.putSnapshot snapshot) :=
  (unmark hg).comp <| (putGuild hg).comp <| (putChannels hg hc).comp <| (putRoles hg hr).comp <|
    (putEmojis hg he).comp <| (putMembers hg _).comp <| (putPresences hg _).comp <|
    (putVoiceStates hg _).comp (retainListed hg hc hr he)

end GuildFeed.Store.Local
