import GuildFeed.Proofs.Shelf.Refill
import GuildFeed.Proofs.Store.Ownership
import GuildFeed.Store.Snapshot

namespace GuildFeed.Store
open GuildFeed.Shelf

variable {s : Store}

theorem mem_emojiEntries {g : GuildId} {es : List Emoji} {e : EmojiEntry} (h : e ∈ emojiEntries g es) :
    e.guildId = g := by
  obtain ⟨x, -, hx⟩ := List.mem_filterMap.1 h
  obtain ⟨id, -, rfl⟩ := Option.map_eq_some_iff.1 hx
  rfl

theorem cacheMember_eq {cached : GuildId → Prop} (own : s.members.Ownership cached) (m : MemberEntry) :
    s.cacheMember m = s.putMember m := by
  unfold cacheMember
  split
  · next found =>
    have same : s.members.put (some m.guildId) m.id m = s.members :=
      put_eq_self found fun g owner => own.listed found owner
    rw [putMember, same]
  · rfl

theorem putChannels_eq (s : Store) (g : GuildId) (cs : List Channel) :
    s.putChannels g cs = { s with
      channels := cs.foldl (assign g Channel.id fun c => some (.ofChannel c (some g))) s.channels } := by
  induction cs generalizing s with
  | nil => rfl
  | cons c cs ih => exact ih (s.putChannel (.ofChannel c (some g)))

theorem putRoles_eq (s : Store) (g : GuildId) (rs : List Role) :
    s.putRoles g rs = { s with
      roles := rs.foldl (assign g Role.id fun r => some (.ofRole r g)) s.roles } := by
  induction rs generalizing s with
  | nil => rfl
  | cons r rs ih => exact ih (s.putRole (.ofRole r g))

theorem putEmojis_eq (s : Store) {g : GuildId} {es : List EmojiEntry} (fits : ∀ e ∈ es, e.guildId = g) :
    s.putEmojis es = { s with emojis := es.foldl (assign g EmojiEntry.id some) s.emojis } := by
  induction es generalizing s with
  | nil => rfl
  | cons e es ih =>
    have same := fits e List.mem_cons_self
    subst same
    exact ih (s.putEmoji e) fun f hf => fits f (List.mem_cons_of_mem e hf)

theorem putMembers_eq {cached : GuildId → Prop} (own : s.members.Ownership cached) {g : GuildId}
    (hg : cached g) (ms : List Member) :
    s.putMembers g ms = { s with
      members := ms.foldl (assign g (·.user.id) fun m => some (.ofMember m g)) s.members } := by
  induction ms generalizing s with
  | nil => rfl
  | cons m ms ih =>
    rw [putMembers, List.foldl_cons, cacheMember_eq own]
    exact ih (own.put rfl rfl (by rintro _ ⟨⟩; exact hg))

theorem putPresences_eq (s : Store) (g : GuildId) (us : List PresenceUpdate) :
    s.putPresences g us = { s with
      presences := us.foldl (assign g (·.user.id) fun u => some ((PresenceEntry.start g u.user.id).merge u))
        s.presences } := by
  induction us generalizing s with
  | nil => rfl
  | cons u us ih => exact ih (s.putPresence ((PresenceEntry.start g u.user.id).merge u))

theorem putVoiceState_eq (s : Store) (g : GuildId) (v : VoiceState) :
    s.putVoiceState g v =
      { s with voiceStates := assign g VoiceState.userId (VoiceEntry.ofVoiceState? · g) s.voiceStates v } := by
  unfold putVoiceState assign
  cases h : VoiceEntry.ofVoiceState? v g with
  | none =>
    simp only [h]
    rfl
  | some e =>
    obtain ⟨c, hc, rfl⟩ := Option.map_eq_some_iff.1 h
    simp only [VoiceEntry.ofVoiceState?, hc, Option.map_some]
    rfl

theorem putVoiceStates_eq (s : Store) (g : GuildId) (vs : List VoiceState) :
    s.putVoiceStates g vs = { s with
      voiceStates := vs.foldl (assign g VoiceState.userId (VoiceEntry.ofVoiceState? · g)) s.voiceStates } := by
  induction vs generalizing s with
  | nil => rfl
  | cons v vs ih =>
    rw [putVoiceStates, List.foldl_cons, putVoiceState_eq]
    exact ih _

theorem kept_voiceStates (g : GuildId) (vs : List VoiceState) :
    kept VoiceState.userId (VoiceEntry.ofVoiceState? · g) vs =
      .ofList ((vs.filter (·.channelId.isSome)).map (·.userId)) := by
  simp [kept, VoiceEntry.ofVoiceState?]

theorem putSnapshot_eq (own : s.Ownership) (g : Guild) :
    s.putSnapshot g = { (s.unmark g.id).setGuild (.ofGuild g) with
      channels := s.channels.refill g.id Channel.id (fun c => some (.ofChannel c (some g.id))) g.channels
      roles := s.roles.refill g.id Role.id (fun r => some (.ofRole r g.id)) g.roles
      emojis := s.emojis.refill g.id EmojiEntry.id some (emojiEntries g.id g.emojis)
      members := s.members.refill g.id (·.user.id) (fun m => some (.ofMember m g.id)) g.members
      presences := s.presences.refill g.id (·.user.id)
        (fun u => some ((PresenceEntry.start g.id u.user.id).merge u)) g.presences
      voiceStates := s.voiceStates.refill g.id VoiceState.userId (VoiceEntry.ofVoiceState? · g.id)
        g.voiceStates } := by
  have own' := (own.unmark g.id).putGuild (.ofGuild g)
  unfold putSnapshot
  simp only [putChannels_eq, putRoles_eq, putEmojis_eq _ fun e => mem_emojiEntries]
  rw [putMembers_eq]
  · simp only [putPresences_eq, putVoiceStates_eq, retainListed, refill, kept_voiceStates]
    simp only [kept, Option.isSome_some, List.filter_true]
    rfl
  · exact own'.members
  · exact Ownership.mem_guilds_insert g.id |>.2 (.inl rfl)

theorem fits_channels (g : GuildId) (cs : List Channel) :
    Fits g Channel.id (fun c => some (ChannelEntry.ofChannel c (some g))) cs := by
  rintro c - _ ⟨⟩
  exact ⟨rfl, rfl⟩

theorem fits_roles (g : GuildId) (rs : List Role) :
    Fits g Role.id (fun r => some (RoleEntry.ofRole r g)) rs := by
  rintro r - _ ⟨⟩
  exact ⟨rfl, rfl⟩

theorem fits_emojis (g : GuildId) (es : List Emoji) : Fits g EmojiEntry.id some (emojiEntries g es) := by
  rintro e mem _ ⟨⟩
  exact ⟨rfl, congrArg some (mem_emojiEntries mem)⟩

theorem fits_members (g : GuildId) (ms : List Member) :
    Fits g (·.user.id) (fun m => some (MemberEntry.ofMember m g)) ms := by
  rintro m - _ ⟨⟩
  exact ⟨rfl, rfl⟩

theorem fits_presences (g : GuildId) (us : List PresenceUpdate) :
    Fits g (·.user.id) (fun u => some ((PresenceEntry.start g u.user.id).merge u)) us := by
  rintro u - _ ⟨⟩
  exact ⟨rfl, rfl⟩

theorem fits_voiceStates (g : GuildId) (vs : List VoiceState) :
    Fits g VoiceState.userId (VoiceEntry.ofVoiceState? · g) vs := by
  rintro v - e h
  obtain ⟨c, -, rfl⟩ := Option.map_eq_some_iff.1 h
  exact ⟨rfl, rfl⟩

theorem Ownership.putSnapshot (own : s.Ownership) (g : Guild) : (s.putSnapshot g).Ownership := by
  rw [putSnapshot_eq own]
  exact
    { guild_id := (own.unmark g.id).guild_id_insert
      channels := (own.channels.refill (fits_channels _ _)).congr mem_guilds_insert
      roles := (own.roles.refill (fits_roles _ _)).congr mem_guilds_insert
      emojis := (own.emojis.refill (fits_emojis _ _)).congr mem_guilds_insert
      members := (own.members.refill (fits_members _ _)).congr mem_guilds_insert
      presences := (own.presences.refill (fits_presences _ _)).congr mem_guilds_insert
      voiceStates := (own.voiceStates.refill (fits_voiceStates _ _)).congr mem_guilds_insert
      exact_members := own.exact_members.refill (fits_members _ _) (steady_of_isSome fun _ _ => rfl)
        fun m _ => own.yields_member ⟨g.id, m.user.id⟩
      exact_presences := own.exact_presences.refill (fits_presences _ _) (steady_of_isSome fun _ _ => rfl)
        fun u _ => own.yields_presence ⟨g.id, u.user.id⟩ }

theorem setGuild_withoutGuild (s : Store) (e : GuildEntry) :
    ((s.withoutGuild e.id).setGuild e).guilds = (s.setGuild e).guilds ∧
      ((s.withoutGuild e.id).setGuild e).guildGauge = (s.setGuild e).guildGauge ∧
      ((s.withoutGuild e.id).setGuild e).memberGauge = (s.setGuild e).memberGauge := by
  have forgotten : (s.withoutGuild e.id).guild? e.id = none := by simp [guild?, withoutGuild]
  have uncached : (s.withoutGuild e.id).isCached e.id = false := by simp [isCached, withoutGuild]
  have guilds : (s.guilds.erase e.id).insert e.id e = s.guilds.insert e.id e :=
    Std.ExtTreeMap.ext_getElem? fun h => by
      simp only [Std.ExtTreeMap.getElem?_insert, Std.ExtTreeMap.getElem?_erase]
      split <;> rfl
  refine ⟨guilds, ?_, ?_⟩
  · simp only [setGuild, uncached]
    simp only [withoutGuild]
    split <;> simp
  · simp only [setGuild, memberCount, forgotten]
    simp only [withoutGuild, memberCount, Option.map_none, Option.getD_none]
    omega

theorem putSnapshot_withoutGuild (own : s.Ownership) (g : Guild) :
    (s.withoutGuild g.id).putSnapshot g = s.putSnapshot g := by
  obtain ⟨guilds, guildGauge, memberGauge⟩ := setGuild_withoutGuild (s.unmark g.id) (.ofGuild g)
  rw [putSnapshot_eq own, putSnapshot_eq (own.withoutGuild g.id)]
  simp only [withoutGuild, refill_close, mk.injEq, true_and]
  exact ⟨guilds, rfl, rfl, guildGauge, memberGauge⟩

end GuildFeed.Store
