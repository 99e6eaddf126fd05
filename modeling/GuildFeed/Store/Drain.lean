import GuildFeed.Store.Basic

namespace GuildFeed

namespace Shelf

variable {κ ι α : Type} [Ord κ] [Std.TransOrd κ] [Std.LawfulEqOrd κ]
  [Ord ι] [Std.TransOrd ι] [Std.LawfulEqOrd ι] [Listed κ ι]

def drainKeys (table : Std.ExtTreeMap κ α) : List κ → List α × Std.ExtTreeMap κ α
  | [] => ([], table)
  | k :: ks =>
    let (drained, rest) := drainKeys (table.erase k) ks
    match table[k]? with
    | some a => (a :: drained, rest)
    | none => (drained, rest)

def drain (s : Shelf κ α) (g : GuildId) : List α × Shelf κ α :=
  let (drained, table) := drainKeys s.table ((s.ids g).toList.map (Listed.key g))
  (drained, ⟨table, s.lists.erase g⟩)

end Shelf

namespace Store

/-- Takes out a guild with all that it lists. The shelves are drained even when the guild is not
cached; the gauges count only one that is. -/
def drain (s : Store) (g : GuildId) : Store × Option Holdings :=
  let (cs, channels) := s.channels.drain g
  let (rs, roles) := s.roles.drain g
  let (es, emojis) := s.emojis.drain g
  let (ms, members) := s.members.drain g
  let (ps, presences) := s.presences.drain g
  let (vs, voiceStates) := s.voiceStates.drain g
  let rest :=
    { s with guilds := s.guilds.erase g, channels, roles, emojis, members, presences, voiceStates }
  match s.guild? g with
  | none => (rest, none)
  | some guild =>
    ({ rest with
        guildGauge := s.guildGauge - 1
        memberGauge := s.memberGauge - guild.memberCount },
      some {
        guild
        channels := cs.mergeSort fun a b => (ChannelEntry.order a b).isLE
        roles := rs.mergeSort fun a b => (RoleEntry.order a b).isLE
        emojis := es.mergeSort fun a b => (compareOn EmojiEntry.id a b).isLE
        members := ms
        presences := ps
        voiceStates := vs })

end Store
end GuildFeed
