import GuildFeed.Proofs.Store.Listing

namespace GuildFeed

/-! ## What a snapshot tells -/

namespace Guild
section
variable {α β ι : Type} [DecidableEq ι]

/-- What the items of a snapshot stand for, in order. Of two items with one id the later counts. -/
def listing (cmp : α → α → Ordering) (id : β → ι) (val : β → Option α) (items : List β) : List α :=
  ((latest id items).filterMap val).mergeSort fun a b => (cmp a b).isLE

variable {cmp : α → α → Ordering} {id : β → ι} {val : β → Option α} {items : List β}

theorem mem_listing {a : α} :
    a ∈ listing cmp id val items ↔ ∃ b ∈ latest id items, val b = some a := by
  rw [listing, List.mem_mergeSort, List.mem_filterMap]

theorem eq_listing [Std.TransCmp cmp] {name : α → ι} {l : List α} (ascending : Ascending cmp l)
    (tells : ∀ a b, cmp a b = .eq → name a = name b) (named : ∀ b a, val b = some a → name a = id b)
    (same : ∀ a, a ∈ l ↔ ∃ b ∈ latest id items, val b = some a) : l = listing cmp id val items := by
  apply ascending.ext
  · apply Ascending.mergeSort
    refine List.Pairwise.filterMap val ?_ (pairwise_latest items)
    intro b c other a ha d hd eq
    exact other (((named b a ha).symm.trans (tells a d eq)).trans (named c d hd))
  · intro a
    rw [same, mem_listing]

theorem eq_listing_compareOn [Ord ι] [Std.TransOrd ι] [Std.LawfulEqOrd ι] {name : α → ι} {l : List α}
    (ascending : Ascending (compareOn name) l) (named : ∀ b a, val b = some a → name a = id b)
    (same : ∀ a, a ∈ l ↔ ∃ b ∈ latest id items, val b = some a) :
    l = listing (compareOn name) id val items := by
  have tells (a b : α) (eq : compare (name a) (name b) = .eq) : name a = name b :=
    Std.LawfulEqCmp.eq_of_compare eq
  exact eq_listing ascending tells named same

end

def heldChannel (g : Guild) (c : Channel) : ChannelEntry where
  id := c.id
  guildId := some g.id
  kind := c.kind
  name := c.name
  position :=
    match c.position with
    | some position => position
    | none => 0
  parentId := c.parentId
  topic := c.topic
  nsfw := c.nsfw

def heldRole (g : Guild) (r : Role) : RoleEntry where
  id := r.id
  guildId := g.id
  name := r.name
  position := r.position
  permissions := r.permissions
  color := r.color
  hoist := r.hoist
  managed := r.managed
  mentionable := r.mentionable

def heldEmoji? (g : Guild) (e : Emoji) : Option EmojiEntry :=
  match e.id with
  | some id =>
    some {
      id
      guildId := g.id
      name := e.name
      roles := e.roles
      animated := e.animated
      managed := e.managed
      requireColons := e.requireColons
      available := e.available }
  | none => none

def heldMember (g : Guild) (m : Member) : MemberEntry where
  guildId := g.id
  user := m.user
  nick := m.nick
  roles := m.roles
  joinedAt := m.joinedAt
  deaf := m.deaf
  mute := m.mute

def heldPresence (g : Guild) (u : PresenceUpdate) : PresenceEntry where
  guildId := g.id
  userId := u.user.id
  presence :=
    { status :=
        match u.status with
        | .value status => status
        | _ => .invisible
      activity :=
        match u.activity with
        | .value activity => some activity
        | _ => none }

def heldVoiceState? (g : Guild) (v : VoiceState) : Option VoiceEntry :=
  match v.channelId with
  | some channelId =>
    some {
      guildId := g.id
      userId := v.userId
      channelId
      sessionId := v.sessionId
      deaf := v.deaf
      mute := v.mute
      selfDeaf := v.selfDeaf
      selfMute := v.selfMute
      suppress := v.suppress }
  | none => none

def holdings (g : Guild) : Holdings where
  guild :=
    { id := g.id
      name := g.name
      ownerId := g.ownerId
      icon := g.icon
      description := g.description
      memberCount :=
        match g.memberCount with
        | some count => count.toNat
        | none => g.members.length }
  channels := listing ChannelEntry.order Channel.id (fun c => some (g.heldChannel c)) g.channels
  roles := listing RoleEntry.order Role.id (fun r => some (g.heldRole r)) g.roles
  emojis := listing (compareOn EmojiEntry.id) EmojiEntry.id some (g.emojis.filterMap g.heldEmoji?)
  members := listing (compareOn (·.user.id)) (·.user.id) (fun m => some (g.heldMember m)) g.members
  presences := listing (compareOn PresenceEntry.userId) (·.user.id) (fun u => some (g.heldPresence u)) g.presences
  voiceStates := listing (compareOn VoiceEntry.userId) VoiceState.userId g.heldVoiceState? g.voiceStates

theorem ofGuild_eq (g : Guild) : GuildEntry.ofGuild g = g.holdings.guild := by
  rw [holdings, GuildEntry.ofGuild]
  cases g.memberCount <;> rfl

theorem ofChannel_eq (g : Guild) (c : Channel) : ChannelEntry.ofChannel c (some g.id) = g.heldChannel c := by
  rw [heldChannel, ChannelEntry.ofChannel]
  cases c.position <;> rfl

theorem ofRole_eq (g : Guild) (r : Role) : RoleEntry.ofRole r g.id = g.heldRole r := rfl

theorem ofEmoji?_eq (g : Guild) (e : Emoji) : EmojiEntry.ofEmoji? e g.id = g.heldEmoji? e := by
  rw [heldEmoji?, EmojiEntry.ofEmoji?]
  cases e.id <;> rfl

theorem ofMember_eq (g : Guild) (m : Member) : MemberEntry.ofMember m g.id = g.heldMember m := rfl

theorem merge_start_eq (g : Guild) (u : PresenceUpdate) :
    (PresenceEntry.start g.id u.user.id).merge u = g.heldPresence u := by
  rw [heldPresence, PresenceEntry.merge, Presence.merge]
  cases u.status <;> cases u.activity <;> rfl

theorem ofVoiceState?_eq (g : Guild) (v : VoiceState) : VoiceEntry.ofVoiceState? v g.id = g.heldVoiceState? v := by
  rw [heldVoiceState?, VoiceEntry.ofVoiceState?]
  cases v.channelId <;> rfl

theorem emojiEntries_eq (g : Guild) : Store.emojiEntries g.id g.emojis = g.emojis.filterMap g.heldEmoji? := by
  simp only [Store.emojiEntries, ofEmoji?_eq]

theorem id_of_heldVoiceState? {g : Guild} {v : VoiceState} {e : VoiceEntry} (h : g.heldVoiceState? v = some e) :
    e.id = ⟨g.id, v.userId⟩ := by
  unfold heldVoiceState? at h
  split at h
  · obtain rfl := Option.some.inj h
    rfl
  · cases h

end Guild

structure Holdings.BelongTo (h : Holdings) (g : GuildId) : Prop where
  channels : ∀ c ∈ h.channels, c.guildId = some g
  roles : ∀ r ∈ h.roles, r.guildId = g
  emojis : ∀ e ∈ h.emojis, e.guildId = g
  members : ∀ m ∈ h.members, m.guildId = g
  presences : ∀ p ∈ h.presences, p.guildId = g
  voiceStates : ∀ v ∈ h.voiceStates, v.guildId = g

theorem Guild.belongTo_holdings (g : Guild) : g.holdings.BelongTo g.id where
  channels c mem := by
    obtain ⟨_, -, ⟨⟩⟩ := mem_listing.1 mem
    rfl
  roles r mem := by
    obtain ⟨_, -, ⟨⟩⟩ := mem_listing.1 mem
    rfl
  emojis e mem := by
    obtain ⟨_, mem, ⟨⟩⟩ := mem_listing.1 mem
    rw [← emojiEntries_eq] at mem
    exact Store.mem_emojiEntries (mem_of_mem_latest mem)
  members m mem := by
    obtain ⟨_, -, ⟨⟩⟩ := mem_listing.1 mem
    rfl
  presences p mem := by
    obtain ⟨_, -, ⟨⟩⟩ := mem_listing.1 mem
    rfl
  voiceStates v mem := by
    obtain ⟨_, -, stands⟩ := mem_listing.1 mem
    exact congrArg MemberId.guild (id_of_heldVoiceState? stands)

namespace Store

variable {s : Store}

/-! ## The store after a snapshot -/

namespace Ownership

variable (own : s.Ownership) (g : Guild)
include own

theorem putSnapshot_eq_refill : s.putSnapshot g = { (s.unmark g.id).setGuild g.holdings.guild with
    channels := s.channels.refill g.id Channel.id (fun c => some (g.heldChannel c)) g.channels
    roles := s.roles.refill g.id Role.id (fun r => some (g.heldRole r)) g.roles
    emojis := s.emojis.refill g.id EmojiEntry.id some (g.emojis.filterMap g.heldEmoji?)
    members := s.members.refill g.id (·.user.id) (fun m => some (g.heldMember m)) g.members
    presences := s.presences.refill g.id (·.user.id) (fun u => some (g.heldPresence u)) g.presences
    voiceStates := s.voiceStates.refill g.id VoiceState.userId g.heldVoiceState? g.voiceStates } := by
  rw [putSnapshot_eq own]
  simp only [Guild.ofGuild_eq, Guild.ofChannel_eq, Guild.ofRole_eq, Guild.ofMember_eq, Guild.merge_start_eq,
    Guild.ofVoiceState?_eq, Guild.emojiEntries_eq]

theorem channelsOf_putSnapshot : (s.putSnapshot g).channelsOf g.id = g.holdings.channels := by
  have ascending := (own.putSnapshot g).ascending_channelsOf g.id
  refine Guild.eq_listing ascending (fun _ _ => ChannelEntry.id_of_order) ?_ fun c => ?_
  · rintro b _ ⟨⟩
    rfl
  · rw [channelsOf, List.mem_mergeSort, own.putSnapshot_eq_refill]
    exact Shelf.mem_entities_refill

theorem rolesOf_putSnapshot : (s.putSnapshot g).rolesOf g.id = g.holdings.roles := by
  have ascending := (own.putSnapshot g).ascending_rolesOf g.id
  refine Guild.eq_listing ascending (fun _ _ => RoleEntry.id_of_order) ?_ fun r => ?_
  · rintro b _ ⟨⟩
    rfl
  · rw [rolesOf, List.mem_mergeSort, own.putSnapshot_eq_refill]
    exact Shelf.mem_entities_refill

theorem emojisOf_putSnapshot : (s.putSnapshot g).emojisOf g.id = g.holdings.emojis := by
  have ascending := (own.putSnapshot g).ascending_emojisOf g.id
  refine Guild.eq_listing_compareOn ascending ?_ fun e => ?_
  · rintro b _ ⟨⟩
    rfl
  · rw [emojisOf, own.putSnapshot_eq_refill]
    exact Shelf.mem_entities_refill

theorem membersOf_putSnapshot : (s.putSnapshot g).membersOf g.id = g.holdings.members := by
  have ascending := (own.putSnapshot g).ascending_membersOf g.id
  refine Guild.eq_listing_compareOn ascending ?_ fun m => ?_
  · rintro b _ ⟨⟩
    rfl
  · rw [membersOf, own.putSnapshot_eq_refill]
    exact Shelf.mem_entities_refill

theorem presencesOf_putSnapshot : (s.putSnapshot g).presencesOf g.id = g.holdings.presences := by
  have ascending := (own.putSnapshot g).ascending_presencesOf g.id
  refine Guild.eq_listing_compareOn ascending ?_ fun p => ?_
  · rintro b _ ⟨⟩
    rfl
  · rw [presencesOf, own.putSnapshot_eq_refill]
    exact Shelf.mem_entities_refill

theorem voiceStatesOf_putSnapshot : (s.putSnapshot g).voiceStatesOf g.id = g.holdings.voiceStates := by
  have ascending := (own.putSnapshot g).ascending_voiceStatesOf g.id
  refine Guild.eq_listing_compareOn ascending ?_ fun v => ?_
  · exact fun b v stands => congrArg MemberId.user (Guild.id_of_heldVoiceState? stands)
  · rw [voiceStatesOf, own.putSnapshot_eq_refill]
    exact Shelf.mem_entities_refill

theorem guild?_putSnapshot : (s.putSnapshot g).guild? g.id = some g.holdings.guild := by
  rw [own.putSnapshot_eq_refill]
  exact Std.ExtTreeMap.getElem?_insert_self

theorem holdings?_putSnapshot : (s.putSnapshot g).holdings? g.id = some g.holdings := by
  rw [holdings?, own.guild?_putSnapshot, own.channelsOf_putSnapshot, own.rolesOf_putSnapshot,
    own.emojisOf_putSnapshot, own.membersOf_putSnapshot, own.presencesOf_putSnapshot,
    own.voiceStatesOf_putSnapshot]
  rfl

theorem member?_putSnapshot (u : UserId) :
    (s.putSnapshot g).members.get? ⟨g.id, u⟩ = (last? (·.user.id) g.members u).map g.heldMember := by
  rw [own.putSnapshot_eq_refill]
  refine (Shelf.get?_refill_key fun m found => ?_).trans Option.map_eq_bind.symm
  exact own.members.listed found (congrArg (some ·.guild) (own.members.key_eq found))

theorem presence?_putSnapshot (u : UserId) :
    (s.putSnapshot g).presences.get? ⟨g.id, u⟩ = (last? (·.user.id) g.presences u).map g.heldPresence := by
  rw [own.putSnapshot_eq_refill]
  refine (Shelf.get?_refill_key fun p found => ?_).trans Option.map_eq_bind.symm
  exact own.presences.listed found (congrArg (some ·.guild) (own.presences.key_eq found))

theorem voiceState?_putSnapshot (u : UserId) :
    (s.putSnapshot g).voiceStates.get? ⟨g.id, u⟩ = (last? VoiceState.userId g.voiceStates u).bind g.heldVoiceState? := by
  rw [own.putSnapshot_eq_refill]
  refine Shelf.get?_refill_key fun v found => ?_
  exact own.voiceStates.listed found (congrArg (some ·.guild) (own.voiceStates.key_eq found))

theorem ids_members_putSnapshot :
    (s.putSnapshot g).members.ids g.id = .ofList (g.members.map (·.user.id)) := by
  rw [putSnapshot_eq own]
  refine (Shelf.ids_refill s.members g.id).trans ?_
  simp [Shelf.kept]

end Ownership

structure Mirrors (s : Store) (g : Guild) : Prop where
  holdings : s.holdings? g.id = some g.holdings
  belong : g.holdings.BelongTo g.id
  memberCount : s.memberCount g.id = g.holdings.guild.memberCount
  members : s.members.ids g.id = .ofList (g.members.map (·.user.id))
  member : ∀ u, s.members.get? ⟨g.id, u⟩ = (last? (·.user.id) g.members u).map g.heldMember
  presence : ∀ u, s.presences.get? ⟨g.id, u⟩ = (last? (·.user.id) g.presences u).map g.heldPresence
  voiceState : ∀ u, s.voiceStates.get? ⟨g.id, u⟩ = (last? VoiceState.userId g.voiceStates u).bind g.heldVoiceState?
  available : s.isUnavailable g.id = false

theorem Ownership.mirrors_putSnapshot (own : s.Ownership) (g : Guild) : (s.putSnapshot g).Mirrors g where
  holdings := own.holdings?_putSnapshot g
  belong := g.belongTo_holdings
  memberCount := by rw [Store.memberCount, own.guild?_putSnapshot]; rfl
  members := own.ids_members_putSnapshot g
  member := own.member?_putSnapshot g
  presence := own.presence?_putSnapshot g
  voiceState := own.voiceState?_putSnapshot g
  available := by
    rw [putSnapshot_eq own]
    simp [isUnavailable, setGuild, Store.unmark]

structure Alike (s t : Store) (g : GuildId) : Prop where
  holdings : s.holdings? g = t.holdings? g
  memberCount : s.memberCount g = t.memberCount g
  members : s.members.ids g = t.members.ids g
  member : ∀ u, s.members.get? ⟨g, u⟩ = t.members.get? ⟨g, u⟩
  presence : ∀ u, s.presences.get? ⟨g, u⟩ = t.presences.get? ⟨g, u⟩
  voiceState : ∀ u, s.voiceStates.get? ⟨g, u⟩ = t.voiceStates.get? ⟨g, u⟩
  available : s.isUnavailable g = t.isUnavailable g

theorem Mirrors.alike {t : Store} {g : Guild} (hs : s.Mirrors g) (ht : t.Mirrors g) : s.Alike t g.id where
  holdings := hs.holdings.trans ht.holdings.symm
  memberCount := hs.memberCount.trans ht.memberCount.symm
  members := hs.members.trans ht.members.symm
  member u := (hs.member u).trans (ht.member u).symm
  presence u := (hs.presence u).trans (ht.presence u).symm
  voiceState u := (hs.voiceState u).trans (ht.voiceState u).symm
  available := hs.available.trans ht.available.symm

/-! ## Reachable stores -/

/-- It makes no difference whether the guild is removed before its snapshot comes. -/
theorem Reachable.rebuild (reachable : s.Reachable) {g : Guild} (available : g.unavailable = false) :
    s.update (.guildCreate g) = .ok (s.putSnapshot g, .guildAvailable (.ofGuild g) (s.isUnavailable g.id)) ∧
      (s.removeGuild g.id).1.update (.guildCreate g) = s.update (.guildCreate g) := by
  have same : (s.withoutGuild g.id).putSnapshot g = s.putSnapshot g :=
    putSnapshot_withoutGuild reachable.ownership g
  refine ⟨update_guildCreate s available, ?_⟩
  rw [update_guildCreate _ available, update_guildCreate _ available, removeGuild, same]
  rfl

def crowded : List Command :=
  [.dispatch (.guildCreate { Guild.bare ⟨1⟩ with
    channels := [.text ⟨10⟩ none, .text ⟨12⟩ none]
    emojis := [.bare (some ⟨33⟩) "c"]
    members := [.bare ⟨100⟩, .bare ⟨102⟩]
    presences := [⟨⟨⟨100⟩⟩, none, .value .online, .absent⟩, ⟨⟨⟨102⟩⟩, none, .value .idle, .absent⟩]
    voiceStates := [⟨none, some ⟨10⟩, ⟨100⟩, "a", false, false, false, false, false⟩] })]

/-- A snapshot of the guild in which ids come twice, an emoji has no id, and the user has left voice. -/
def repetitive : Guild :=
  { Guild.bare ⟨1⟩ with
    channels := [.text ⟨11⟩ none, { Channel.text ⟨10⟩ none with position := some 2 },
      { Channel.text ⟨11⟩ none with nsfw := true }]
    roles := [.bare ⟨20⟩, { Role.bare ⟨20⟩ with name := "mod" }]
    emojis := [.bare (some ⟨31⟩) "a", .bare none "grin", .bare (some ⟨31⟩) "b", .bare (some ⟨30⟩) "z"]
    members := [.bare ⟨100⟩, { Member.bare ⟨100⟩ with nick := some "n" }]
    presences := [⟨⟨⟨100⟩⟩, none, .value .idle, .absent⟩, ⟨⟨⟨100⟩⟩, none, .absent, .null⟩]
    voiceStates := [⟨none, some ⟨10⟩, ⟨100⟩, "b", false, false, false, false, false⟩,
      ⟨none, some ⟨10⟩, ⟨101⟩, "c", false, true, false, false, false⟩,
      ⟨none, none, ⟨100⟩, "b", false, false, false, false, false⟩] }

theorem rebuild_repetitive :
    (run crowded).update (.guildCreate repetitive) =
        .ok ((run crowded).putSnapshot repetitive, .guildAvailable (.ofGuild repetitive) false) ∧
      ((run crowded).removeGuild ⟨1⟩).1.update (.guildCreate repetitive) =
        (run crowded).update (.guildCreate repetitive) :=
  (reachable_run crowded).rebuild (g := repetitive) rfl

/-- After a snapshot its guild is as the snapshot tells, whatever came before. -/
theorem Reachable.mirrors (reachable : s.Reachable) {g : Guild} (available : g.unavailable = false) :
    ∃ t e, s.update (.guildCreate g) = .ok (t, e) ∧ t.Mirrors g ∧
      ∀ (s' t' : Store) (e' : Event), s'.Reachable → s'.update (.guildCreate g) = .ok (t', e') →
        t'.Alike t g.id := by
  have healed := reachable.ownership.mirrors_putSnapshot g
  refine ⟨_, _, update_guildCreate s available, healed, ?_⟩
  intro s' t' e' reachable' accepted
  rw [update_guildCreate s' available] at accepted
  obtain ⟨rfl, -⟩ := Prod.mk.inj (Except.ok.inj accepted)
  exact (reachable'.ownership.mirrors_putSnapshot g).alike healed

theorem mirrors_repetitive :
    ∃ t e, (run crowded).update (.guildCreate repetitive) = .ok (t, e) ∧ t.Mirrors repetitive ∧
      t.holdings? ⟨1⟩ = some
        { guild := ⟨⟨1⟩, "", ⟨1⟩, none, none, 2⟩
          channels := [⟨⟨11⟩, some ⟨1⟩, .guildText, none, 0, none, none, true⟩,
            ⟨⟨10⟩, some ⟨1⟩, .guildText, none, 2, none, none, false⟩]
          roles := [⟨⟨20⟩, ⟨1⟩, "mod", 0, .empty, 0, false, false, false⟩]
          emojis := [⟨⟨30⟩, ⟨1⟩, some "z", [], false, false, false, true⟩,
            ⟨⟨31⟩, ⟨1⟩, some "b", [], false, false, false, true⟩]
          members := [⟨⟨1⟩, ⟨⟨100⟩, "", none, none, false⟩, some "n", [], none, false, false⟩]
          presences := [⟨⟨1⟩, ⟨100⟩, ⟨.invisible, none⟩⟩]
          voiceStates := [⟨⟨1⟩, ⟨101⟩, ⟨10⟩, "c", false, true, false, false, false⟩] } ∧
      (run crowded).voiceStates.get? ⟨⟨1⟩, ⟨100⟩⟩ ≠ none ∧ t.voiceStates.get? ⟨⟨1⟩, ⟨100⟩⟩ = none ∧
      ∃ t' e', (run handover).update (.guildCreate repetitive) = .ok (t', e') ∧ t'.Alike t ⟨1⟩ := by
  obtain ⟨t, e, accepted, mirrors, alike⟩ := (reachable_run crowded).mirrors (g := repetitive) rfl
  obtain ⟨t', e', accepted', -, -⟩ := (reachable_run handover).mirrors (g := repetitive) rfl
  refine ⟨t, e, accepted, mirrors, ?_, ?_, ?_, t', e', accepted', ?_⟩
  · refine mirrors.holdings.trans (congrArg some ?_)
    rw [Guild.holdings, Holdings.mk.injEq]
    refine ⟨rfl, ?_, ?_, ?_, ?_, ?_, ?_⟩ <;> apply Ascending.mergeSort_eq <;> decide +kernel
  · decide +kernel
  · exact (mirrors.voiceState ⟨100⟩).trans (by decide +kernel)
  · exact alike _ t' e' (reachable_run handover) accepted'

end Store
end GuildFeed
