import GuildFeed.Proofs.Store.Update

namespace GuildFeed

def Dispatch.needs? : Dispatch → Option (GuildId × EntityKey)
  | channelCreate c => c.guildId.map (·, .channel c.id)
  | channelUpdate u => u.guildId.map (·, .channel u.id)
  | roleCreate r | roleUpdate r => some (r.guildId, .role r.role.id)
  | memberAdd a => some (a.guildId, .member ⟨a.guildId, a.member.user.id⟩)
  | memberUpdate u => some (u.guildId, .member ⟨u.guildId, u.user.id⟩)
  | membersChunk c => some (c.guildId, .guild c.guildId)
  | presenceUpdate u => u.guildId.map fun g => (g, .presence ⟨g, u.user.id⟩)
  | emojisUpdate u => some (u.guildId, .guild u.guildId)
  | voiceStateUpdate v => v.guildId.map fun g => (g, .voiceState ⟨g, v.userId⟩)
  | guildUpdate u => some (u.id, .guild u.id)
  | _ => none

namespace Store

inductive Refuses (s : Store) : Dispatch → StoreError → Prop
  | presence {u : PresenceUpdate} (homeless : u.guildId = none) :
    Refuses s (.presenceUpdate u) (.missingGuildId "PRESENCE_UPDATE")
  | voiceState {v : VoiceState} (homeless : v.guildId = none) :
    Refuses s (.voiceStateUpdate v) (.missingGuildId "VOICE_STATE_UPDATE")
  | guild {d : Dispatch} {g : GuildId} {k : EntityKey} (needs : d.needs? = some (g, k))
      (uncached : g ∉ s.guilds) : Refuses s d (.inconsistentReference k (.guild g))
  | channel {u : ChannelUpdate} (placed : ∀ g, u.guildId = some g → g ∈ s.guilds)
      (unseen : s.channels.get? u.id = none) (untyped : u.kind.value? = none) :
    Refuses s (.channelUpdate u) (.inconsistentReference (.channel u.id) (.channel u.id))

variable {s : Store} {d : Dispatch} {err : StoreError}

theorem require_bind_error {β : Type} {g : GuildId} {k : EntityKey} {f : Unit → Except StoreError β} :
    (s.require g k >>= f) = .error err ↔
      g ∉ s.guilds ∧ err = .inconsistentReference k (.guild g) ∨ g ∈ s.guilds ∧ f () = .error err := by
  rw [← isCached_iff, require]
  cases s.isCached g <;> simp [bind, Except.bind, eq_comm]

theorem update_of_needs {g : GuildId} {k : EntityKey} (needs : d.needs? = some (g, k))
    (uncached : g ∉ s.guilds) : s.update d = .error (.inconsistentReference k (.guild g)) := by
  have refused {β : Type} (f : Unit → Except StoreError β) :
      (s.require g k >>= f) = .error (.inconsistentReference k (.guild g)) :=
    require_bind_error.2 (.inl ⟨uncached, rfl⟩)
  cases d with
  | channelCreate c =>
    obtain ⟨_, placed, ⟨⟩⟩ := Option.map_eq_some_iff.1 needs
    have owner : (ChannelEntry.ofChannel c none).guildId = some g := placed
    simp only [update, onChannelCreate, owner]
    exact refused _
  | channelUpdate u =>
    obtain ⟨_, placed, ⟨⟩⟩ := Option.map_eq_some_iff.1 needs
    simp only [update, onChannelUpdate, placed]
    exact refused _
  | guildUpdate u =>
    cases needs
    have unknown : s.guild? u.id = none := by simpa [guild?] using uncached
    simp only [update, onGuildUpdate, unknown]
  | emojisUpdate u =>
    cases needs
    exact refused _
  | memberAdd a =>
    cases needs
    exact refused _
  | membersChunk c =>
    cases needs
    exact refused _
  | memberUpdate u =>
    cases needs
    exact refused _
  | presenceUpdate u =>
    obtain ⟨_, placed, ⟨⟩⟩ := Option.map_eq_some_iff.1 needs
    simp only [update, onPresenceUpdate, placed]
    exact refused _
  | roleCreate r =>
    cases needs
    exact refused _
  | roleUpdate r =>
    cases needs
    exact refused _
  | voiceStateUpdate v =>
    obtain ⟨_, placed, ⟨⟩⟩ := Option.map_eq_some_iff.1 needs
    simp only [update, onVoiceStateUpdate, placed]
    exact refused _
  | _ => cases needs

theorem Refuses.update (refuses : s.Refuses d err) : s.update d = .error err := by
  cases refuses with
  | presence homeless => simp only [Store.update, onPresenceUpdate, homeless]
  | voiceState homeless => simp only [Store.update, onVoiceStateUpdate, homeless]
  | guild needs uncached => exact update_of_needs needs uncached
  | @channel u placed unseen untyped =>
    have first : ChannelEntry.ofUpdate? u = none := Option.map_eq_none_iff.2 untyped
    simp only [Store.update, onChannelUpdate, unseen, first]
    cases home : u.guildId with
    | none => rfl
    | some g => exact require_bind_error.2 (.inr ⟨placed g home, rfl⟩)

theorem Refuses.of_update {err' : StoreError} (refuses : s.Refuses d err')
    (h : s.update d = .error err) : s.Refuses d err := by
  have same := refuses.update
  rw [h] at same
  cases same
  exact refuses

theorem refuses_of_require {β : Type} {g : GuildId} {k : EntityKey} {b : β}
    (needs : d.needs? = some (g, k)) (h : (s.require g k >>= fun _ => pure b) = .error err) :
    s.Refuses d err := by
  rcases require_bind_error.1 h with ⟨uncached, rfl⟩ | ⟨-, accepted⟩
  · exact .guild needs uncached
  · cases accepted

theorem refuses_channelCreate {c : Channel} (h : s.update (.channelCreate c) = .error err) :
    s.Refuses (.channelCreate c) err := by
  by_cases placed : ∀ g, c.guildId = some g → g ∈ s.guilds
  · have accepted : s.update (.channelCreate c) = .ok (_, _) := onChannelCreate_ok.2 ⟨placed, rfl, rfl⟩
    cases h.symm.trans accepted
  · simp only [not_forall] at placed
    obtain ⟨g, home, uncached⟩ := placed
    have needs : (Dispatch.channelCreate c).needs? = some (g, .channel c.id) := by
      simp [Dispatch.needs?, home]
    exact (Refuses.guild needs uncached).of_update h

theorem refuses_channelUpdate {u : ChannelUpdate} (h : s.update (.channelUpdate u) = .error err) :
    s.Refuses (.channelUpdate u) err := by
  by_cases placed : ∀ g, u.guildId = some g → g ∈ s.guilds
  · cases seen : s.channels.get? u.id with
    | some old =>
      have accepted : s.update (.channelUpdate u) = .ok (_, _) :=
        onChannelUpdate_ok.2 ⟨placed, .inl ⟨old, seen, rfl, rfl⟩⟩
      cases h.symm.trans accepted
    | none =>
      cases first : ChannelEntry.ofUpdate? u with
      | some new =>
        have accepted : s.update (.channelUpdate u) = .ok (_, _) :=
          onChannelUpdate_ok.2 ⟨placed, .inr ⟨new, seen, first, rfl, rfl⟩⟩
        cases h.symm.trans accepted
      | none => exact (Refuses.channel placed seen (Option.map_eq_none_iff.1 first)).of_update h
  · simp only [not_forall] at placed
    obtain ⟨g, home, uncached⟩ := placed
    have needs : (Dispatch.channelUpdate u).needs? = some (g, .channel u.id) := by
      simp [Dispatch.needs?, home]
    exact (Refuses.guild needs uncached).of_update h

theorem refuses_guildUpdate {u : GuildUpdate} (h : s.update (.guildUpdate u) = .error err) :
    s.Refuses (.guildUpdate u) err := by
  cases known : s.guild? u.id with
  | none =>
    have uncached : u.id ∉ s.guilds := by simpa [guild?] using known
    exact (Refuses.guild (d := .guildUpdate u) rfl uncached).of_update h
  | some old =>
    have accepted : s.update (.guildUpdate u) = .ok (_, _) := onGuildUpdate_ok.2 ⟨old, known, rfl, rfl⟩
    cases h.symm.trans accepted

theorem refuses_memberUpdate {u : MemberUpdate} (h : s.update (.memberUpdate u) = .error err) :
    s.Refuses (.memberUpdate u) err := by
  rcases require_bind_error.1 h with ⟨uncached, rfl⟩ | ⟨-, h⟩
  · exact .guild rfl uncached
  · cases known : s.members.get? ⟨u.guildId, u.user.id⟩ with
    | some old =>
      rw [known] at h
      cases h
    | none =>
      rw [known] at h
      cases h

theorem refuses_presenceUpdate {u : PresenceUpdate} (h : s.update (.presenceUpdate u) = .error err) :
    s.Refuses (.presenceUpdate u) err := by
  cases home : u.guildId with
  | none => exact (Refuses.presence home).of_update h
  | some g =>
    simp only [update, onPresenceUpdate, home] at h
    exact refuses_of_require (by simp [Dispatch.needs?, home]) h

theorem refuses_voiceStateUpdate {v : VoiceState} (h : s.update (.voiceStateUpdate v) = .error err) :
    s.Refuses (.voiceStateUpdate v) err := by
  cases home : v.guildId with
  | none => exact (Refuses.voiceState home).of_update h
  | some g =>
    simp only [update, onVoiceStateUpdate, home] at h
    exact refuses_of_require (by simp [Dispatch.needs?, home]) h

theorem refuses_of_update (h : s.update d = .error err) : s.Refuses d err := by
  cases d with
  | channelCreate c => exact refuses_channelCreate h
  | channelUpdate u => exact refuses_channelUpdate h
  | guildUpdate u => exact refuses_guildUpdate h
  | emojisUpdate u => exact refuses_of_require rfl h
  | memberAdd a => exact refuses_of_require rfl h
  | membersChunk c => exact refuses_of_require rfl h
  | memberUpdate u => exact refuses_memberUpdate h
  | presenceUpdate u => exact refuses_presenceUpdate h
  | roleCreate r => exact refuses_of_require rfl h
  | roleUpdate r => exact refuses_of_require rfl h
  | voiceStateUpdate v => exact refuses_voiceStateUpdate h
  | _ => cases h

theorem update_error_iff : s.update d = .error err ↔ s.Refuses d err :=
  ⟨refuses_of_update, Refuses.update⟩

end Store
end GuildFeed
