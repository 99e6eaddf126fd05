import GuildFeed.Store.Entity
import GuildFeed.Store.Shelf

/-!
# The store

Everything known about the guilds: a table of guilds, six shelves of what belongs to them, the
guilds that are marked unavailable and the current user, with two gauges that count guilds and
members as they come and go.

Listings are ordered: channels and roles by position and then by id, all else by id.
-/

namespace GuildFeed

structure Store where
  guilds : Std.ExtTreeMap GuildId GuildEntry
  channels : Shelf ChannelId ChannelEntry
  roles : Shelf RoleId RoleEntry
  emojis : Shelf EmojiId EmojiEntry
  members : Shelf MemberId MemberEntry
  presences : Shelf MemberId PresenceEntry
  voiceStates : Shelf MemberId VoiceEntry
  unavailable : Std.ExtTreeSet GuildId
  currentUser : Option User
  guildGauge : Int
  memberGauge : Int
  deriving DecidableEq

structure Holdings where
  guild : GuildEntry
  channels : List ChannelEntry
  roles : List RoleEntry
  emojis : List EmojiEntry
  members : List MemberEntry
  presences : List PresenceEntry
  voiceStates : List VoiceEntry
  deriving DecidableEq

namespace Store

def empty : Store where
  guilds := ∅
  channels := .empty
  roles := .empty
  emojis := .empty
  members := .empty
  presences := .empty
  voiceStates := .empty
  unavailable := ∅
  currentUser := none
  guildGauge := 0
  memberGauge := 0

/-! ## Reading -/

def guild? (s : Store) (g : GuildId) : Option GuildEntry := s.guilds[g]?

def isCached (s : Store) (g : GuildId) : Bool := s.guilds.contains g

def isUnavailable (s : Store) (g : GuildId) : Bool := s.unavailable.contains g

def memberCount (s : Store) (g : GuildId) : Nat := ((s.guild? g).map (·.memberCount)).getD 0

def channelsOf (s : Store) (g : GuildId) : List ChannelEntry :=
  (s.channels.entities g).mergeSort fun a b => (ChannelEntry.order a b).isLE

def rolesOf (s : Store) (g : GuildId) : List RoleEntry :=
  (s.roles.entities g).mergeSort fun a b => (RoleEntry.order a b).isLE

def emojisOf (s : Store) (g : GuildId) : List EmojiEntry := s.emojis.entities g

def membersOf (s : Store) (g : GuildId) : List MemberEntry := s.members.entities g

def presencesOf (s : Store) (g : GuildId) : List PresenceEntry := s.presences.entities g

def voiceStatesOf (s : Store) (g : GuildId) : List VoiceEntry := s.voiceStates.entities g

/-- The category that a channel sits under. A parent that is missing or no category does not
count. -/
def parentOf? (s : Store) (c : ChannelId) : Option ChannelEntry := do
  let channel ← s.channels.get? c
  let parent ← s.channels.get? (← channel.parentId)
  if parent.kind.isCategory then some parent else none

def categoryChannels (s : Store) (c : ChannelId) : List ChannelEntry :=
  match s.channels.get? c with
  | none => []
  | some category =>
    match category.kind.isCategory, category.guildId with
    | true, some g => (s.channelsOf g).filter (·.parentId = some c)
    | _, _ => []

def get? (s : Store) : EntityKey → Option Entity
  | .guild id => (s.guild? id).map .guild
  | .channel id => (s.channels.get? id).map .channel
  | .role id => (s.roles.get? id).map .role
  | .emoji id => (s.emojis.get? id).map .emoji
  | .member id => (s.members.get? id).map .member
  | .presence id => (s.presences.get? id).map .presence
  | .voiceState id => (s.voiceStates.get? id).map .voiceState

def childrenOf (s : Store) : EntityKey → List EntityKey
  | .guild g =>
    (s.channelsOf g).map (.channel ·.id) ++ (s.rolesOf g).map (.role ·.id)
      ++ (s.emojisOf g).map (.emoji ·.id) ++ (s.members.ids g).toList.map (.member ⟨g, ·⟩)
      ++ (s.presencesOf g).map (.presence ⟨g, ·.userId⟩)
      ++ (s.voiceStatesOf g).map (.voiceState ⟨g, ·.userId⟩)
  | .channel c => (s.categoryChannels c).map (.channel ·.id)
  | _ => []

def holdings? (s : Store) (g : GuildId) : Option Holdings :=
  (s.guild? g).map fun guild =>
    { guild
      channels := s.channelsOf g
      roles := s.rolesOf g
      emojis := s.emojisOf g
      members := s.membersOf g
      presences := s.presencesOf g
      voiceStates := s.voiceStatesOf g }

def require (s : Store) (g : GuildId) (entity : EntityKey) : Except StoreError Unit :=
  if s.isCached g then .ok () else .error (.inconsistentReference entity (.guild g))

/-! ## Guilds -/

def setGuild (s : Store) (e : GuildEntry) : Store :=
  let fresh : Int := if s.isCached e.id then 0 else 1
  { s with
    guilds := s.guilds.insert e.id e
    guildGauge := s.guildGauge + fresh
    memberGauge := s.memberGauge + (e.memberCount - s.memberCount e.id) }

def openLists (s : Store) (g : GuildId) : Store :=
  { s with
    channels := s.channels.ensure g
    roles := s.roles.ensure g
    emojis := s.emojis.ensure g
    members := s.members.ensure g
    presences := s.presences.ensure g
    voiceStates := s.voiceStates.ensure g }

def putGuild (s : Store) (e : GuildEntry) : Store := (s.setGuild e).openLists e.id

def withoutGuild (s : Store) (g : GuildId) : Store :=
  let known : Int := if s.isCached g then 1 else 0
  { s with
    guilds := s.guilds.erase g
    channels := s.channels.close g
    roles := s.roles.close g
    emojis := s.emojis.close g
    members := s.members.close g
    presences := s.presences.close g
    voiceStates := s.voiceStates.close g
    guildGauge := s.guildGauge - known
    memberGauge := s.memberGauge - s.memberCount g }

def mark (s : Store) (g : GuildId) : Store := { s with unavailable := s.unavailable.insert g }

def unmark (s : Store) (g : GuildId) : Store := { s with unavailable := s.unavailable.erase g }

def setUser (s : Store) (u : User) : Store := { s with currentUser := some u }

def countJoin (s : Store) (g : GuildId) : Store :=
  match s.guild? g with
  | none => s
  | some e =>
    { s with
      guilds := s.guilds.insert g { e with memberCount := e.memberCount + 1 }
      memberGauge := s.memberGauge + 1 }

def countLeave (s : Store) (g : GuildId) : Store :=
  match s.guild? g with
  | none => s
  | some e =>
    if e.memberCount = 0 then s
    else
      { s with
        guilds := s.guilds.insert g { e with memberCount := e.memberCount - 1 }
        memberGauge := s.memberGauge - 1 }

/-! ## What belongs to guilds -/

def putChannel (s : Store) (c : ChannelEntry) : Store :=
  { s with channels := s.channels.put c.guildId c.id c }

def putRole (s : Store) (r : RoleEntry) : Store :=
  { s with roles := s.roles.put (some r.guildId) r.id r }

def putEmoji (s : Store) (e : EmojiEntry) : Store :=
  { s with emojis := s.emojis.put (some e.guildId) e.id e }

def putMember (s : Store) (m : MemberEntry) : Store :=
  { s with members := s.members.put (some m.guildId) m.id m }

def cacheMember (s : Store) (m : MemberEntry) : Store :=
  if s.members.get? m.id = some m then s else s.putMember m

def putPresence (s : Store) (p : PresenceEntry) : Store :=
  { s with presences := s.presences.put (some p.guildId) p.id p }

def putVoiceEntry (s : Store) (v : VoiceEntry) : Store :=
  { s with voiceStates := s.voiceStates.put (some v.guildId) v.id v }

def putVoiceState (s : Store) (g : GuildId) (v : VoiceState) : Store :=
  match VoiceEntry.ofVoiceState? v g with
  | some e => s.putVoiceEntry e
  | none => { s with voiceStates := s.voiceStates.take (some g) ⟨g, v.userId⟩ }

def mergePresence (s : Store) (g : GuildId) (u : PresenceUpdate) : Store :=
  let old := s.presences.get? ⟨g, u.user.id⟩
  s.putPresence ((old.getD (.start g u.user.id)).merge u)

def orphans (s : Store) (c : ChannelId) : List ChannelId :=
  ((s.categoryChannels c).map (·.id)).filter (· ≠ c)

def deleteChannel (s : Store) (c : ChannelId) : Store :=
  match s.channels.get? c with
  | none => s
  | some e =>
    { s with
      channels := (s.orphans c).foldl (fun shelf o => shelf.modify o ({ · with parentId := none }))
        (s.channels.take e.guildId c) }

def deleteRole (s : Store) (r : RoleId) : Store :=
  match s.roles.get? r with
  | none => s
  | some e =>
    { s with
      roles := s.roles.take (some e.guildId) r
      members := s.members.modifyListed e.guildId (·.strip r) }

def deleteEmoji (s : Store) (id : EmojiId) : Store :=
  match s.emojis.get? id with
  | none => s
  | some e => { s with emojis := s.emojis.take (some e.guildId) id }

def deleteMember (s : Store) (id : MemberId) : Store :=
  { s with members := s.members.discard (some id.guild) id }

def deletePresence (s : Store) (id : MemberId) : Store :=
  { s with presences := s.presences.discard (some id.guild) id }

def deleteVoiceState (s : Store) (id : MemberId) : Store :=
  { s with voiceStates := s.voiceStates.discard (some id.guild) id }

/-! ## Entities of any kind -/

def unlistMoved {κ ι α : Type} [Ord κ] [Std.TransOrd κ] [Std.LawfulEqOrd κ] [Ord ι]
    [Std.TransOrd ι] [Std.LawfulEqOrd ι] [Listed κ ι] (shelf : Shelf κ α)
    (old new : Option GuildId) (k : κ) : Shelf κ α :=
  if old = new then shelf else shelf.unlist old k

def insert (s : Store) : Entity → Store
  | .guild e => if s.isCached e.id then s.setGuild e else s.putGuild e
  | .channel e =>
    let old := (s.channels.get? e.id).bind (·.guildId)
    let s := s.putChannel e
    { s with channels := unlistMoved s.channels old e.guildId e.id }
  | .role e =>
    let old := (s.roles.get? e.id).map (·.guildId)
    let s := s.putRole e
    { s with roles := unlistMoved s.roles old (some e.guildId) e.id }
  | .emoji e =>
    let old := (s.emojis.get? e.id).map (·.guildId)
    let s := s.putEmoji e
    { s with emojis := unlistMoved s.emojis old (some e.guildId) e.id }
  | .member e => s.putMember e
  | .presence e => s.putPresence e
  | .voiceState e => s.putVoiceEntry e

def upsert (s : Store) (e : Entity) : Except StoreError (Store × Option Entity) := do
  match e.owner? with
  | some g => s.require g e.key
  | none => pure ()
  pure (s.insert e, s.get? e.key)

def without (s : Store) : EntityKey → Store
  | .guild g => s.withoutGuild g
  | .channel id => s.deleteChannel id
  | .role id => s.deleteRole id
  | .emoji id => s.deleteEmoji id
  | .member id => s.deleteMember id
  | .presence id => s.deletePresence id
  | .voiceState id => s.deleteVoiceState id

def remove (s : Store) (k : EntityKey) : Store × Option Entity := (s.without k, s.get? k)

def removeGuild (s : Store) (g : GuildId) : Store × Option Holdings :=
  (s.withoutGuild g, s.holdings? g)

def clear (_ : Store) : Store := empty

end Store
end GuildFeed
