import GuildFeed.Decoding
import GuildFeed.Proofs.Record.Records
import GuildFeed.Proofs.Record.Writing

namespace GuildFeed.Dispatch

theorem decode_name (kind : Kind) (payload : Json) :
    decode kind.name payload = (kind.read payload).mapError (.payload kind.name payload) := by
  rw [decode, Kind.ofName?_name]

/-- Decoding undoes every rendering, the dispatch's own among them. -/
theorem decode_rendering {d : Dispatch} {kind : Kind} (known : d.kind? = some kind) (proper : d.Proper) :
    (∀ payload, d.rendering payload → decode kind.name payload = .ok d) ∧
      d.rendering d.render ∧ decode kind.name d.render = .ok d := by
  have undone : ∀ payload, d.rendering payload → decode kind.name payload = .ok d := by
    intro payload renders
    rw [decode_name, Kind.read_eq known proper renders]
    rfl
  exact ⟨undone, d.rendering_render, undone d.render d.rendering_render⟩

def chessClub : Guild where
  id := ⟨41⟩
  name := ""
  ownerId := ⟨7⟩
  icon := none
  description := some "chess"
  memberCount := none
  unavailable := false
  channels := [⟨⟨5⟩, .unknown 9, none, some "board", some (-1), none, none, true⟩]
  roles := [⟨⟨41⟩, "", ⟨0x8000000000000001⟩, 0, 0, false, false, false⟩]
  emojis := [⟨none, some "knight", [⟨41⟩], false, false, false, true⟩]
  members := [⟨⟨⟨7⟩, "amy", none, none, false⟩, none, [], none, false, true⟩]
  presences := [⟨⟨⟨7⟩⟩, none, .value .invisible, .value (.plain .competing "chess")⟩]
  voiceStates := []

def chessClubPayload : Json :=
  .object
    [("channels", .array [.object
        [("guild_id", .null), ("id", .string "+005"), ("name", .string "board"), ("nsfw", .bool true),
          ("position", .integer (-1)), ("rate_limit", .integer 3), ("type", .integer 9)]]),
      ("description", .string "chess"),
      ("emojis", .array [.object
        [("id", .null), ("name", .string "knight"), ("roles", .array [.string "41"])]]),
      ("icon", .null),
      ("id", .string "0041"),
      ("large", .bool false),
      ("members", .array [.object
        [("mute", .bool true), ("user", .object [("id", .integer 7), ("username", .string "amy")])]]),
      ("owner_id", .integer 7),
      ("presences", .array [.object
        [("game", .object [("name", .string "chess"), ("type", .integer 5)]), ("status", .string "offline"),
          ("user", .object [("id", .string "7"), ("username", .null)])]]),
      ("roles", .array [.object
        [("id", .integer 41), ("permissions", .string "9223372036854775809")]]),
      ("voice_states", .array [])]

theorem decode_rendering_chessClub :
    (guildCreate chessClub).kind? = some .guildCreate ∧ (guildCreate chessClub).Proper ∧
      (guildCreate chessClub).rendering chessClubPayload ∧
      decode "GUILD_CREATE" chessClubPayload = .ok (.guildCreate chessClub) := by
  have known : (guildCreate chessClub).kind? = some .guildCreate := rfl
  have proper : (guildCreate chessClub).Proper := by
    simp [Proper, chessClub, ChannelKind.Proper, ChannelKind.number]
  have numeral (s : String) (w : UInt64) (reads : Text.word? s.toList = some w) :
      Rendering.word w (.string s) := .numeral (Text.word?_eq_some_iff.1 reads)
  have renders : (guildCreate chessClub).rendering chessClubPayload := .fields
    { id := ⟨_, rfl, numeral "0041" 41 (by decide)⟩
      name := .omitted rfl
      ownerId := ⟨_, rfl, .number⟩
      icon := .null rfl
      description := .given ⟨_, rfl, rfl⟩
      memberCount := .omitted rfl
      unavailable := .omitted rfl
      channels := .given ⟨_, rfl, .items (.cons (.fields
        { id := ⟨_, rfl, numeral "+005" 5 (by decide)⟩
          kind := ⟨_, rfl, rfl⟩
          guildId := .null rfl
          name := .given ⟨_, rfl, rfl⟩
          position := .given ⟨_, rfl, rfl⟩
          parentId := .omitted rfl
          topic := .omitted rfl
          nsfw := .given ⟨_, rfl, rfl⟩ }) .nil)⟩
      roles := .given ⟨_, rfl, .items (.cons (.fields
        { id := ⟨_, rfl, .number⟩
          name := .omitted rfl
          permissions := .given ⟨_, rfl, numeral "9223372036854775809" 0x8000000000000001 (by decide)⟩
          position := .omitted rfl
          color := .omitted rfl
          hoist := .omitted rfl
          managed := .omitted rfl
          mentionable := .omitted rfl }) .nil)⟩
      emojis := .given ⟨_, rfl, .items (.cons (.fields
        { id := .null rfl
          name := .given ⟨_, rfl, rfl⟩
          roles := .given ⟨_, rfl, .items (.cons (numeral "41" 41 (by decide)) .nil)⟩
          animated := .omitted rfl
          managed := .omitted rfl
          requireColons := .omitted rfl
          available := .omitted rfl }) .nil)⟩
      members := .given ⟨_, rfl, .items (.cons (.fields
        { user := ⟨_, rfl, .fields
            { id := ⟨_, rfl, .number⟩
              username := .given ⟨_, rfl, rfl⟩
              discriminator := .omitted rfl
              avatar := .omitted rfl
              bot := .omitted rfl }⟩
          nick := .omitted rfl
          roles := .omitted rfl
          joinedAt := .omitted rfl
          deaf := .omitted rfl
          mute := .given ⟨_, rfl, rfl⟩ }) .nil)⟩
      presences := .given ⟨_, rfl, .items (.cons (.fields
        { user := ⟨_, rfl, .fields ⟨⟨_, rfl, numeral "7" 7 (by decide)⟩⟩⟩
          guildId := .omitted rfl
          status := .value ⟨_, rfl, .offline⟩
          activity := .inr ⟨.value ⟨_, rfl, .fields
            { name := ⟨_, rfl, rfl⟩
              kind := ⟨_, rfl, rfl⟩
              url := .omitted rfl
              span := .omitted rfl
              state := .omitted rfl }⟩, rfl⟩ }) .nil)⟩
      voiceStates := .given ⟨_, rfl, .items .nil⟩ }
  exact ⟨known, proper, renders, (decode_rendering known proper).1 chessClubPayload renders⟩

end GuildFeed.Dispatch
