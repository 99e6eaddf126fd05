import GuildFeed.Proofs.Shelf.Scope
import GuildFeed.Store.Update

namespace GuildFeed.Store

structure Agree (scope : EntityKey → Prop) (s t : Store) : Prop where
  guild : ∀ g, scope (.guild g) → s.guild? g = t.guild? g
  unavailable : ∀ g, scope (.guild g) → s.isUnavailable g = t.isUnavailable g
  channels : s.channels.Agree (fun g => scope (.guild g)) (fun c => scope (.channel c)) t.channels
  roles : s.roles.Agree (fun g => scope (.guild g)) (fun r => scope (.role r)) t.roles
  emojis : s.emojis.Agree (fun g => scope (.guild g)) (fun e => scope (.emoji e)) t.emojis
  members : s.members.Agree (fun g => scope (.guild g)) (fun id => scope (.guild id.guild)) t.members
  presences : s.presences.Agree (fun g => scope (.guild g)) (fun id => scope (.guild id.guild)) t.presences
  voiceStates :
    s.voiceStates.Agree (fun g => scope (.guild g)) (fun id => scope (.guild id.guild)) t.voiceStates

structure Tidy (scope : EntityKey → Prop) (s : Store) : Prop where
  channels : s.channels.Tidy (fun g => scope (.guild g)) fun c => scope (.channel c)
  roles : s.roles.Tidy (fun g => scope (.guild g)) fun r => scope (.role r)
  emojis : s.emojis.Tidy (fun g => scope (.guild g)) fun e => scope (.emoji e)
  members : s.members.Tidy (fun g => scope (.guild g)) fun id => scope (.guild id.guild)
  presences : s.presences.Tidy (fun g => scope (.guild g)) fun id => scope (.guild id.guild)
  voiceStates : s.voiceStates.Tidy (fun g => scope (.guild g)) fun id => scope (.guild id.guild)

structure Local (scope : EntityKey → Prop) (f : Store → Store) : Prop where
  tidy : ∀ s, s.Tidy scope → (f s).Tidy scope
  agree : ∀ s t, s.Tidy scope → s.Agree scope t → (f s).Agree scope (f t)
  frame : ∀ s, s.Tidy scope → (f s).Agree (¬ scope ·) s

def Reads {α : Type} (scope : EntityKey → Prop) (r : Store → α) : Prop :=
  ∀ s t : Store, s.Tidy scope → s.Agree scope t → r s = r t

variable {α β : Type} {scope : EntityKey → Prop} {s t u : Store} {g : GuildId}

namespace Agree

theorem refl (scope : EntityKey → Prop) (s : Store) : s.Agree scope s :=
  ⟨fun _ _ => rfl, fun _ _ => rfl, .refl _, .refl _, .refl _, .refl _, .refl _, .refl _⟩

theorem symm (same : s.Agree scope t) : t.Agree scope s where
  guild g hg := (same.guild g hg).symm
  unavailable g hg := (same.unavailable g hg).symm
  channels := same.channels.symm
  roles := same.roles.symm
  emojis := same.emojis.symm
  members := same.members.symm
  presences := same.presences.symm
  voiceStates := same.voiceStates.symm

theorem trans (st : s.Agree scope t) (tu : t.Agree scope u) : s.Agree scope u where
  guild g hg := (st.guild g hg).trans (tu.guild g hg)
  unavailable g hg := (st.unavailable g hg).trans (tu.unavailable g hg)
  channels := st.channels.trans tu.channels
  roles := st.roles.trans tu.roles
  emojis := st.emojis.trans tu.emojis
  members := st.members.trans tu.members
  presences := st.presences.trans tu.presences
  voiceStates := st.voiceStates.trans tu.voiceStates

theorem mono {scope' : EntityKey → Prop} (same : s.Agree scope t) (within : ∀ k, scope' k → scope k) :
    s.Agree scope' t where
  guild g hg := same.guild g (within _ hg)
  unavailable g hg := same.unavailable g (within _ hg)
  channels := same.channels.mono (fun _ => within _) fun _ => within _
  roles := same.roles.mono (fun _ => within _) fun _ => within _
  emojis := same.emojis.mono (fun _ => within _) fun _ => within _
  members := same.members.mono (fun _ => within _) fun _ => within _
  presences := same.presences.mono (fun _ => within _) fun _ => within _
  voiceStates := same.voiceStates.mono (fun _ => within _) fun _ => within _

end Agree

theorem Tidy.congr (tidy : s.Tidy scope) (same : s.Agree scope t) : t.Tidy scope where
  channels := tidy.channels.congr same.channels
  roles := tidy.roles.congr same.roles
  emojis := tidy.emojis.congr same.emojis
  members := tidy.members.congr same.members
  presences := tidy.presences.congr same.presences
  voiceStates := tidy.voiceStates.congr same.voiceStates

theorem tidy_empty : Store.empty.Tidy scope :=
  ⟨Shelf.tidy_empty, Shelf.tidy_empty, Shelf.tidy_empty, Shelf.tidy_empty, Shelf.tidy_empty, Shelf.tidy_empty⟩

theorem reads_guild? (hg : scope (.guild g)) : Reads scope (·.guild? g) := fun _ _ _ same => same.guild g hg

theorem reads_isCached (hg : scope (.guild g)) : Reads scope (·.isCached g) := fun s t _ same => by
  have known := same.guild g hg
  rw [guild?, guild?] at known
  show s.guilds.contains g = t.guilds.contains g
  rw [Std.ExtTreeMap.contains_eq_isSome_getElem?, Std.ExtTreeMap.contains_eq_isSome_getElem?, known]

theorem reads_channelsOf (hg : scope (.guild g)) : Reads scope (·.channelsOf g) := fun s t tidy same => by
  simp only [channelsOf]
  rw [same.channels.entities tidy.channels hg]

theorem reads_rolesOf (hg : scope (.guild g)) : Reads scope (·.rolesOf g) := fun s t tidy same => by
  simp only [rolesOf]
  rw [same.roles.entities tidy.roles hg]

theorem reads_holdings? (hg : scope (.guild g)) : Reads scope (·.holdings? g) := fun s t tidy same => by
  have channels := reads_channelsOf hg s t tidy same
  have roles := reads_rolesOf hg s t tidy same
  have emojis := same.emojis.entities tidy.emojis hg
  have members := same.members.entities tidy.members hg
  have presences := same.presences.entities tidy.presences hg
  have voiceStates := same.voiceStates.entities tidy.voiceStates hg
  simp only at channels roles
  simp only [holdings?, emojisOf, membersOf, presencesOf, voiceStatesOf]
  rw [same.guild g hg, channels, roles, emojis, members, presences, voiceStates]

theorem reads_orphans {c : ChannelId} (hc : scope (.channel c)) : Reads scope (·.orphans c) := fun s t tidy same => by
  have cached := same.channels.get? c hc
  simp only [orphans, categoryChannels]
  rw [cached]
  cases found : t.channels.get? c with
  | none => rfl
  | some e =>
    rw [found] at cached
    cases owner : e.guildId with
    | none => simp [owner]
    | some g =>
      have hg : scope (.guild g) := (tidy.channels.entry c e hc cached).owner g owner
      have listed := reads_channelsOf hg s t tidy same
      simp only at listed
      cases category : e.kind.isCategory with
      | false => simp only [owner, category]
      | true => simp only [owner, category, listed]

theorem reads_isUnavailable (hg : scope (.guild g)) : Reads scope (·.isUnavailable g) :=
  fun _ _ _ same => same.unavailable g hg

theorem reads_channel {c : ChannelId} (hc : scope (.channel c)) : Reads scope (·.channels.get? c) :=
  fun _ _ _ same => same.channels.get? c hc

theorem reads_role {r : RoleId} (hr : scope (.role r)) : Reads scope (·.roles.get? r) :=
  fun _ _ _ same => same.roles.get? r hr

theorem reads_member {id : MemberId} (hg : scope (.guild id.guild)) : Reads scope (·.members.get? id) :=
  fun _ _ _ same => same.members.get? id hg

theorem reads_presence {id : MemberId} (hg : scope (.guild id.guild)) : Reads scope (·.presences.get? id) :=
  fun _ _ _ same => same.presences.get? id hg

theorem reads_voiceState {id : MemberId} (hg : scope (.guild id.guild)) : Reads scope (·.voiceStates.get? id) :=
  fun _ _ _ same => same.voiceStates.get? id hg

theorem reads_emojisOf (hg : scope (.guild g)) : Reads scope (·.emojisOf g) := fun _ _ tidy same =>
  same.emojis.entities tidy.emojis hg

theorem Reads.map {r : Store → α} (reads : Reads scope r) (f : α → β) : Reads scope fun s => f (r s) :=
  fun s t tidy same => congrArg f (reads s t tidy same)

theorem Reads.pair {r : Store → α} {r' : Store → β} (hr : Reads scope r) (hr' : Reads scope r') :
    Reads scope fun s => (r s, r' s) :=
  fun s t tidy same => Prod.ext (hr s t tidy same) (hr' s t tidy same)

namespace Local

theorem id : Local scope fun s => s :=
  ⟨fun _ tidy => tidy, fun _ _ _ same => same, fun s _ => .refl _ s⟩

theorem comp {f h : Store → Store} (hf : Local scope f) (hh : Local scope h) : Local scope fun s => h (f s) where
  tidy s tidy := hh.tidy _ (hf.tidy s tidy)
  agree s t tidy same := hh.agree _ _ (hf.tidy s tidy) (hf.agree s t tidy same)
  frame s tidy := (hh.frame _ (hf.tidy s tidy)).trans (hf.frame s tidy)

theorem foldl {f : Store → β → Store} {items : List β} (each : ∀ b ∈ items, Local scope (f · b)) :
    Local scope (items.foldl f) := by
  induction items with
  | nil => exact id
  | cons b items ih =>
    exact (each b List.mem_cons_self).comp (ih fun c mem => each c (List.mem_cons_of_mem b mem))

theorem depend {r : Store → α} {f : Store → Store} (reads : Reads scope r)
    (each : ∀ s : Store, s.Tidy scope → ∃ h, Local scope h ∧ ∀ t, r t = r s → f t = h t) : Local scope f where
  tidy s tidy := by
    obtain ⟨h, done, does⟩ := each s tidy
    rw [does s rfl]
    exact done.tidy s tidy
  agree s t tidy same := by
    obtain ⟨h, done, does⟩ := each s tidy
    rw [does s rfl, does t (reads s t tidy same).symm]
    exact done.agree s t tidy same
  frame s tidy := by
    obtain ⟨h, done, does⟩ := each s tidy
    rw [does s rfl]
    exact done.frame s tidy

section
variable {P : EntityKey → Prop}

theorem channels {f : Shelf ChannelId ChannelEntry → Shelf ChannelId ChannelEntry}
    (h : Shelf.Local (fun g => P (.guild g)) (fun c => P (.channel c)) f) :
    Local P fun s => { s with channels := f s.channels } where
  tidy _ tidy := { tidy with channels := h.tidy _ tidy.channels }
  agree _ _ tidy same := { same with channels := h.agree _ _ tidy.channels same.channels }
  frame s tidy := { Agree.refl (¬ P ·) s with channels := h.frame _ tidy.channels }

theorem roles {f : Shelf RoleId RoleEntry → Shelf RoleId RoleEntry}
    (h : Shelf.Local (fun g => P (.guild g)) (fun r => P (.role r)) f) :
    Local P fun s => { s with roles := f s.roles } where
  tidy _ tidy := { tidy with roles := h.tidy _ tidy.roles }
  agree _ _ tidy same := { same with roles := h.agree _ _ tidy.roles same.roles }
  frame s tidy := { Agree.refl (¬ P ·) s with roles := h.frame _ tidy.roles }

theorem emojis {f : Shelf EmojiId EmojiEntry → Shelf EmojiId EmojiEntry}
    (h : Shelf.Local (fun g => P (.guild g)) (fun e => P (.emoji e)) f) :
    Local P fun s => { s with emojis := f s.emojis } where
  tidy _ tidy := { tidy with emojis := h.tidy _ tidy.emojis }
  agree _ _ tidy same := { same with emojis := h.agree _ _ tidy.emojis same.emojis }
  frame s tidy := { Agree.refl (¬ P ·) s with emojis := h.frame _ tidy.emojis }

theorem members {f : Shelf MemberId MemberEntry → Shelf MemberId MemberEntry}
    (h : Shelf.Local (fun g => P (.guild g)) (fun id => P (.guild id.guild)) f) :
    Local P fun s => { s with members := f s.members } where
  tidy _ tidy := { tidy with members := h.tidy _ tidy.members }
  agree _ _ tidy same := { same with members := h.agree _ _ tidy.members same.members }
  frame s tidy := { Agree.refl (¬ P ·) s with members := h.frame _ tidy.members }

theorem presences {f : Shelf MemberId PresenceEntry → Shelf MemberId PresenceEntry}
    (h : Shelf.Local (fun g => P (.guild g)) (fun id => P (.guild id.guild)) f) :
    Local P fun s => { s with presences := f s.presences } where
  tidy _ tidy := { tidy with presences := h.tidy _ tidy.presences }
  agree _ _ tidy same := { same with presences := h.agree _ _ tidy.presences same.presences }
  frame s tidy := { Agree.refl (¬ P ·) s with presences := h.frame _ tidy.presences }

theorem voiceStates {f : Shelf MemberId VoiceEntry → Shelf MemberId VoiceEntry}
    (h : Shelf.Local (fun g => P (.guild g)) (fun id => P (.guild id.guild)) f) :
    Local P fun s => { s with voiceStates := f s.voiceStates } where
  tidy _ tidy := { tidy with voiceStates := h.tidy _ tidy.voiceStates }
  agree _ _ tidy same := { same with voiceStates := h.agree _ _ tidy.voiceStates same.voiceStates }
  frame s tidy := { Agree.refl (¬ P ·) s with voiceStates := h.frame _ tidy.voiceStates }

end

end Local
end GuildFeed.Store
