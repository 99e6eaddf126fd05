import GuildFeed.Store.Basic

namespace GuildFeed.Store

def putChannels (s : Store) (g : GuildId) (cs : List Channel) : Store :=
  cs.foldl (fun s c => s.putChannel (.ofChannel c (some g))) s

def putRoles (s : Store) (g : GuildId) (rs : List Role) : Store :=
  rs.foldl (fun s r => s.putRole (.ofRole r g)) s

def putEmojis (s : Store) (es : List EmojiEntry) : Store :=
  es.foldl (fun s e => s.putEmoji e) s

def putMembers (s : Store) (g : GuildId) (ms : List Member) : Store :=
  ms.foldl (fun s m => s.cacheMember (.ofMember m g)) s

/-- Presences of a snapshot do not build on what was known before. -/
def putPresences (s : Store) (g : GuildId) (us : List PresenceUpdate) : Store :=
  us.foldl (fun s u => s.putPresence ((PresenceEntry.start g u.user.id).merge u)) s

def putVoiceStates (s : Store) (g : GuildId) (vs : List VoiceState) : Store :=
  vs.foldl (fun s v => s.putVoiceState g v) s

def emojiEntries (g : GuildId) (es : List Emoji) : List EmojiEntry :=
  es.filterMap (EmojiEntry.ofEmoji? · g)

def retainListed (s : Store) (g : Guild) : Store :=
  { s with
    channels := s.channels.retain g.id (.ofList (g.channels.map (·.id)))
    roles := s.roles.retain g.id (.ofList (g.roles.map (·.id)))
    emojis := s.emojis.retain g.id (.ofList ((emojiEntries g.id g.emojis).map (·.id)))
    members := s.members.retain g.id (.ofList (g.members.map (·.user.id)))
    presences := s.presences.retain g.id (.ofList (g.presences.map (·.user.id)))
    voiceStates := s.voiceStates.retain g.id
      (.ofList ((g.voiceStates.filter (·.channelId.isSome)).map (·.userId))) }

def putSnapshot (s : Store) (g : Guild) : Store :=
  let s := (s.unmark g.id).putGuild (.ofGuild g)
  let s := s.putChannels g.id g.channels
  let s := s.putRoles g.id g.roles
  let s := s.putEmojis (emojiEntries g.id g.emojis)
  let s := s.putMembers g.id g.members
  let s := s.putPresences g.id g.presences
  let s := s.putVoiceStates g.id g.voiceStates
  s.retainListed g

end GuildFeed.Store
