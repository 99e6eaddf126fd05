import GuildFeed.Proofs.Store.EmojiOwners

namespace GuildFeed

/-! ## Sets by id -/

namespace EmojiEntry

def putAll (m : Std.ExtTreeMap EmojiId EmojiEntry) (es : List EmojiEntry) : Std.ExtTreeMap EmojiId EmojiEntry :=
  es.foldl (fun m e => m.insert e.id e) m

def dropAll (m : Std.ExtTreeMap EmojiId EmojiEntry) (es : List EmojiEntry) : Std.ExtTreeMap EmojiId EmojiEntry :=
  es.foldl (fun m e => m.erase e.id) m

def byId (es : List EmojiEntry) : Std.ExtTreeMap EmojiId EmojiEntry := putAll ∅ es

def follow (m : Std.ExtTreeMap EmojiId EmojiEntry) (added removed : List EmojiEntry)
    (changed : List (EmojiEntry × EmojiEntry)) : Std.ExtTreeMap EmojiId EmojiEntry :=
  putAll (putAll (dropAll m removed) (changed.map (·.2))) added

variable {m : Std.ExtTreeMap EmojiId EmojiEntry} {es : List EmojiEntry} {id : EmojiId}

theorem getElem?_putAll : (putAll m es)[id]? = (last? EmojiEntry.id es id).or m[id]? := by
  induction es using List.reverseRecOn with
  | nil => rfl
  | append_singleton es e ih =>
    have last : (putAll m (es ++ [e]))[id]? = if e.id = id then some e else (putAll m es)[id]? := by
      simp [putAll, Std.ExtTreeMap.getElem?_insert]
    rw [last, ih, last?_concat]
    split <;> rfl

theorem getElem?_dropAll : (dropAll m es)[id]? = if id ∈ es.map (·.id) then none else m[id]? := by
  induction es using List.reverseRecOn with
  | nil => rfl
  | append_singleton es e ih =>
    have last : (dropAll m (es ++ [e]))[id]? = if e.id = id then none else (dropAll m es)[id]? := by
      simp [dropAll, Std.ExtTreeMap.getElem?_erase]
    rw [last, ih, List.map_append, List.map_singleton]
    by_cases same : e.id = id
    · simp [same]
    · simp only [if_neg same, List.mem_append, List.mem_singleton, Ne.symm same, or_false]

theorem getElem?_byId : (byId es)[id]? = last? EmojiEntry.id es id := by
  rw [byId, getElem?_putAll, Std.ExtTreeMap.getElem?_empty, Option.or_none]

theorem mem_ids_iff : id ∈ es.map (·.id) ↔ (last? EmojiEntry.id es id).isSome = true := by
  rw [Option.isSome_iff_ne_none, ne_eq, last?_eq_none]
  simp

theorem last?_eq_of_nodup (distinct : (es.map (·.id)).Nodup) {named : Option EmojiEntry}
    (same : ∀ e, e ∈ es ∧ e.id = id ↔ named = some e) : last? EmojiEntry.id es id = named := by
  ext e
  rw [← same]
  constructor
  · exact last?_eq_some
  · rintro ⟨mem, rfl⟩
    exact Store.last?_of_nodup distinct mem

end EmojiEntry

open EmojiEntry

/-- The difference of two sets of emojis, of which the new one is told in an order of its own. -/
structure EmojiDifference (old new emojis added removed : List EmojiEntry)
    (changed : List (EmojiEntry × EmojiEntry)) : Prop where
  nodup_old : (old.map (·.id)).Nodup
  nodup_new : (new.map (·.id)).Nodup
  perm : emojis.Perm new
  removed_eq : removed = old.filter fun e => e.id ∉ new.map (·.id)
  added_eq : added = emojis.filter fun e => e.id ∉ old.map (·.id)
  mem_changed : ∀ p, p ∈ changed ↔ p.1 ∈ old ∧ p.2 ∈ new ∧ p.1.id = p.2.id ∧ p.1 ≠ p.2
  changed_sublist : (changed.map (·.2)).Sublist emojis

namespace EmojiDifference

variable {old new emojis added removed : List EmojiEntry} {changed : List (EmojiEntry × EmojiEntry)} {id : EmojiId}

def ids (old new added removed : List EmojiEntry) (changed : List (EmojiEntry × EmojiEntry)) : List EmojiId :=
  removed.map (·.id) ++ added.map (·.id) ++ changed.map (·.1.id) ++ (old.filter (· ∈ new)).map (·.id)

variable (d : EmojiDifference old new emojis added removed changed)
include d

theorem nodup_emojis : (emojis.map (·.id)).Nodup := (d.perm.map _).nodup_iff.2 d.nodup_new

theorem nodup_removed : (removed.map (·.id)).Nodup := by
  rw [d.removed_eq]
  exact d.nodup_old.sublist (List.filter_sublist.map _)

theorem nodup_added : (added.map (·.id)).Nodup := by
  rw [d.added_eq]
  exact d.nodup_emojis.sublist (List.filter_sublist.map _)

theorem nodup_changed : ((changed.map (·.2)).map (·.id)).Nodup :=
  d.nodup_emojis.sublist (d.changed_sublist.map _)

theorem nodup_kept : ((old.filter (· ∈ new)).map (·.id)).Nodup := d.nodup_old.sublist (List.filter_sublist.map _)

theorem ids_changed : changed.map (·.1.id) = (changed.map (·.2)).map (·.id) := by
  rw [List.map_map]
  exact List.map_congr_left fun p mem => ((d.mem_changed p).1 mem).2.2.1

theorem last?_removed : last? EmojiEntry.id removed id =
    if last? EmojiEntry.id new id = none then last? EmojiEntry.id old id else none := by
  refine last?_eq_of_nodup d.nodup_removed fun e => ?_
  simp only [d.removed_eq, List.mem_filter, decide_eq_true_eq, mem_ids_iff, Option.not_isSome_iff_eq_none]
  constructor
  · rintro ⟨⟨mem, gone⟩, rfl⟩
    rw [if_pos gone, Store.last?_of_nodup d.nodup_old mem]
  · intro named
    split at named
    · next gone =>
      obtain ⟨mem, rfl⟩ := last?_eq_some named
      exact ⟨⟨mem, gone⟩, rfl⟩
    · cases named

theorem last?_added : last? EmojiEntry.id added id =
    if last? EmojiEntry.id old id = none then last? EmojiEntry.id new id else none := by
  refine last?_eq_of_nodup d.nodup_added fun e => ?_
  simp only [d.added_eq, List.mem_filter, d.perm.mem_iff, decide_eq_true_eq, mem_ids_iff, Option.not_isSome_iff_eq_none]
  constructor
  · rintro ⟨⟨mem, first⟩, rfl⟩
    rw [if_pos first, Store.last?_of_nodup d.nodup_new mem]
  · intro named
    split at named
    · next first =>
      obtain ⟨mem, rfl⟩ := last?_eq_some named
      exact ⟨⟨mem, first⟩, rfl⟩
    · cases named

theorem last?_changed : last? EmojiEntry.id (changed.map (·.2)) id =
    if (last? EmojiEntry.id old id).isSome ∧ last? EmojiEntry.id old id ≠ last? EmojiEntry.id new id then
      last? EmojiEntry.id new id
    else none := by
  refine last?_eq_of_nodup d.nodup_changed fun e => ?_
  simp only [List.mem_map, d.mem_changed]
  constructor
  · rintro ⟨⟨p, ⟨ha, hb, same, differ⟩, rfl⟩, rfl⟩
    have was := Store.last?_of_nodup d.nodup_old ha
    rw [same] at was
    rw [was, Store.last?_of_nodup d.nodup_new hb, if_pos]
    exact ⟨rfl, fun eq => differ (Option.some.inj eq)⟩
  · intro named
    split at named
    · next both =>
      obtain ⟨a, was⟩ := Option.isSome_iff_exists.1 both.1
      have differ := both.2
      rw [was, named] at differ
      obtain ⟨ha, same⟩ := last?_eq_some was
      obtain ⟨hb, rfl⟩ := last?_eq_some named
      exact ⟨⟨(a, e), ⟨ha, hb, same, fun eq => differ (congrArg some eq)⟩, rfl⟩, rfl⟩
    · cases named

theorem last?_kept : last? EmojiEntry.id (old.filter (· ∈ new)) id =
    if last? EmojiEntry.id old id = last? EmojiEntry.id new id then last? EmojiEntry.id old id else none := by
  refine last?_eq_of_nodup d.nodup_kept fun e => ?_
  simp only [List.mem_filter, decide_eq_true_eq]
  constructor
  · rintro ⟨⟨was, is⟩, rfl⟩
    rw [Store.last?_of_nodup d.nodup_old was, Store.last?_of_nodup d.nodup_new is, if_pos rfl]
  · intro named
    split at named
    · next same =>
      obtain ⟨was, rfl⟩ := last?_eq_some named
      rw [named] at same
      exact ⟨⟨was, (last?_eq_some same.symm).1⟩, rfl⟩
    · cases named

theorem mem_ids : id ∈ ids old new added removed changed ↔ id ∈ old.map (·.id) ∨ id ∈ new.map (·.id) := by
  rw [ids, d.ids_changed]
  simp only [List.mem_append, mem_ids_iff, d.last?_removed, d.last?_added, d.last?_changed, d.last?_kept]
  cases last? EmojiEntry.id old id with
  | none => simp
  | some a =>
    cases last? EmojiEntry.id new id with
    | none => simp
    | some b => by_cases same : a = b <;> simp [same]

theorem nodup_ids : (ids old new added removed changed).Nodup := by
  rw [ids, d.ids_changed]
  refine ((d.nodup_removed.append d.nodup_added ?_).append d.nodup_changed ?_).append d.nodup_kept ?_
  all_goals
    intro id
    simp only [List.mem_append, mem_ids_iff, d.last?_removed, d.last?_added, d.last?_changed, d.last?_kept]
    cases last? EmojiEntry.id old id <;> cases last? EmojiEntry.id new id <;> simp

theorem follow_byId : follow (byId old) added removed changed = byId new := by
  apply Std.ExtTreeMap.ext_getElem?
  intro id
  simp only [follow, getElem?_putAll, getElem?_dropAll, getElem?_byId, mem_ids_iff, d.last?_removed, d.last?_added,
    d.last?_changed]
  cases last? EmojiEntry.id old id with
  | none => simp
  | some a =>
    cases last? EmojiEntry.id new id with
    | none => simp
    | some b => by_cases same : a = b <;> simp [same]

end EmojiDifference

namespace Store
open GuildFeed.Shelf

variable {s t : Store}

/-! ## Accepted sets -/

theorem ids_emojiEntries (g : GuildId) (es : List Emoji) : (emojiEntries g es).map (·.id) = es.filterMap (·.id) := by
  rw [emojiEntries, List.map_filterMap]
  refine List.filterMap_congr fun e _ => ?_
  cases id : e.id <;> simp [EmojiEntry.ofEmoji?, id]

structure ReplacesEmojis (s : Store) (g : GuildId) (emojis added removed : List EmojiEntry)
    (changed : List (EmojiEntry × EmojiEntry)) (t : Store) : Prop where
  difference : EmojiDifference (s.emojisOf g) (t.emojisOf g) emojis added removed changed
  ordered : Ascending (compareOn EmojiEntry.id) removed
  nodup_ids : (EmojiDifference.ids (s.emojisOf g) (t.emojisOf g) added removed changed).Nodup
  mem_ids : ∀ id, id ∈ EmojiDifference.ids (s.emojisOf g) (t.emojisOf g) added removed changed ↔
    id ∈ (s.emojisOf g).map (·.id) ∨ id ∈ (t.emojisOf g).map (·.id)
  follow : follow (byId (s.emojisOf g)) added removed changed = byId (t.emojisOf g)
  otherLists : ∀ h, h ≠ g → t.emojisOf h = s.emojisOf h
  otherEmojis : ∀ id e, e.guildId ≠ g → (t.emojis.get? id = some e ↔ s.emojis.get? id = some e)
  rest : t = { s with emojis := t.emojis }

section
variable {g : GuildId} {es : List EmojiEntry} (exact : s.emojis.Exact) (fits : ∀ e ∈ es, e.guildId = g)
  (free : ∀ e ∈ es, ∀ old, s.emojis.get? e.id = some old → old.guildId = g)
include exact fits free

theorem emoji?_refill_of_ne {id : EmojiId} {e : EmojiEntry} (other : e.guildId ≠ g) :
    (s.emojis.refill g EmojiEntry.id some es).get? id = some e ↔ s.emojis.get? id = some e := by
  rw [emoji?_refill]
  constructor
  · intro found
    cases last : last? EmojiEntry.id es id with
    | some f =>
      rw [last, Option.some_or, Option.some.injEq] at found
      subst found
      exact absurd (fits f (last?_eq_some last).1) other
    | none =>
      rw [last, Option.none_or] at found
      split at found
      · cases found
      · exact found
  · intro found
    have unsent : last? EmojiEntry.id es id = none := by
      rw [last?_eq_none]
      rintro f mem rfl
      exact other (free f mem e found)
    have unlisted : s.emojis.isListed g id = false := by
      rw [Bool.eq_false_iff]
      intro listed
      obtain ⟨f, also, owner⟩ := exact g id listed
      rw [found, Option.some.injEq] at also
      subst also
      exact other (Option.some.inj owner)
    rw [unsent, unlisted]
    exact found

theorem entities_refill_of_ne {h : GuildId} (other : h ≠ g) :
    (s.emojis.refill g EmojiEntry.id some es).entities h = s.emojis.entities h := by
  unfold entities
  rw [ids_refill, if_neg (Ne.symm other)]
  refine List.filterMap_congr fun id mem => ?_
  obtain ⟨e, found, owner⟩ := exact h id (isListed_key.2 (Std.ExtTreeSet.mem_toList.1 mem))
  have foreign : e.guildId ≠ g := Option.some.inj owner ▸ other
  exact ((emoji?_refill_of_ne exact fits free foreign).2 found).trans found.symm

end

theorem sublist_changes (es : List EmojiEntry) (old : EmojiEntry → Option EmojiEntry) :
    ((es.filterMap fun e => change? e (old e)).map (·.2)).Sublist es := by
  induction es with
  | nil => exact .slnil
  | cons e es ih =>
    rw [List.filterMap_cons]
    split
    · exact ih.cons e
    · next change =>
      obtain ⟨-, rfl, -⟩ := change?_eq_some.1 change
      exact ih.cons_cons _

theorem perm_emojisOf_refill (own : t.Ownership) {g : GuildId} {es : List EmojiEntry}
    (after : t.emojis = s.emojis.refill g EmojiEntry.id some es) (distinct : (es.map (·.id)).Nodup) :
    es.Perm (t.emojisOf g) := by
  rw [List.perm_ext_iff_of_nodup (distinct.of_map _) (own.ascending_emojisOf g).nodup]
  intro e
  rw [emojisOf, after, mem_entities_refill]
  simp only [Option.some.injEq, exists_eq_right, mem_latest]
  constructor
  · exact last?_of_nodup distinct
  · exact fun last => (last?_eq_some last).1

theorem emoji?_eq_some_of_free (own : s.Ownership) {g : GuildId} {id : EmojiId}
    (free : ∀ old, s.emojis.get? id = some old → old.guildId = g) {old : EmojiEntry} :
    s.emojis.get? id = some old ↔ old ∈ s.emojisOf g ∧ old.id = id := by
  constructor
  · intro found
    have key : old.id = id := own.emojis.key_eq found
    subst key
    exact ⟨own.mem_emojisOf found (free old found), rfl⟩
  · rintro ⟨mem, rfl⟩
    exact own.emojis.get?_of_mem_entities mem

theorem difference_emojisOf (own : s.Ownership) (own' : t.Ownership) {g : GuildId} {es : List EmojiEntry}
    (after : t.emojis = s.emojis.refill g EmojiEntry.id some es) (distinct : (es.map (·.id)).Nodup)
    (free : ∀ e ∈ es, ∀ old, s.emojis.get? e.id = some old → old.guildId = g) :
    EmojiDifference (s.emojisOf g) (t.emojisOf g) es (es.filter fun e => (s.emojis.get? e.id).isNone)
      ((s.emojisOf g).filter fun e => e.id ∉ es.map (·.id))
      (es.filterMap fun e => change? e (s.emojis.get? e.id)) where
  nodup_old := (own.ascending_emojisOf g).nodup_map fun _ _ same => same
  nodup_new := (own'.ascending_emojisOf g).nodup_map fun _ _ same => same
  perm := perm_emojisOf_refill own' after distinct
  removed_eq := List.filter_congr fun e _ => by
    simp only [((perm_emojisOf_refill own' after distinct).map _).mem_iff]
  added_eq := List.filter_congr fun e mem => by
    rw [Bool.eq_iff_iff, Option.isNone_iff_eq_none, Option.eq_none_iff_forall_ne_some, decide_eq_true_eq, List.mem_map,
      not_exists]
    exact forall_congr' fun old => not_congr (emoji?_eq_some_of_free own (free e mem))
  mem_changed := by
    rintro ⟨a, b⟩
    simp only [List.mem_filterMap, change?_eq_some, ← (perm_emojisOf_refill own' after distinct).mem_iff]
    constructor
    · rintro ⟨e, mem, found, rfl, differ⟩
      obtain ⟨was, same⟩ := (emoji?_eq_some_of_free own (free e mem)).1 found
      exact ⟨was, mem, same, differ⟩
    · rintro ⟨was, mem, same, differ⟩
      exact ⟨b, mem, (emoji?_eq_some_of_free own (free b mem)).2 ⟨was, same⟩, rfl, differ⟩
  changed_sublist := sublist_changes es _

def decorated : List Command :=
  [.dispatch (.guildCreate { Guild.bare ⟨1⟩ with
      emojis := [.bare (some ⟨33⟩) "c", .bare (some ⟨31⟩) "a", .bare none "grin", .bare (some ⟨32⟩) "b"] }),
    .dispatch (.guildCreate { Guild.bare ⟨2⟩ with emojis := [.bare (some ⟨41⟩) "d"] })]

end Store
end GuildFeed
