import Mathlib.Data.List.Nodup
import GuildFeed.Proofs.Store.Update

namespace GuildFeed.Store
open GuildFeed.Shelf

variable {s t : Store} {shelf : Shelf EmojiId EmojiEntry}

def change? (e : EmojiEntry) : Option EmojiEntry → Option (EmojiEntry × EmojiEntry)
  | some old => if old = e then none else some (old, e)
  | none => none

theorem change?_eq_some {e : EmojiEntry} {old : Option EmojiEntry} {p : EmojiEntry × EmojiEntry} :
    change? e old = some p ↔ old = some p.1 ∧ e = p.2 ∧ p.1 ≠ p.2 := by
  cases old with
  | none => simp [change?]
  | some old =>
    simp only [change?, Option.some.injEq]
    split
    · next same =>
      simp only [reduceCtorEq, false_iff]
      rintro ⟨rfl, rfl, differ⟩
      exact differ same
    · next differ =>
      rw [Option.some.injEq, Prod.ext_iff]
      constructor
      · rintro ⟨rfl, rfl⟩
        exact ⟨rfl, rfl, differ⟩
      · rintro ⟨rfl, rfl, -⟩
        exact ⟨rfl, rfl⟩

theorem emoji?_refill (s : Store) (g : GuildId) (es : List EmojiEntry) (id : EmojiId) :
    (s.emojis.refill g EmojiEntry.id some es).get? id =
      (last? EmojiEntry.id es id).or (if s.emojis.isListed g id then none else s.emojis.get? id) := by
  have decides : deciding? g EmojiEntry.id es id = last? EmojiEntry.id es id := rfl
  rw [get?_refill, decides]
  cases last? EmojiEntry.id es id <;> rfl

theorem last?_of_nodup {es : List EmojiEntry} (distinct : (es.map (·.id)).Nodup) {e : EmojiEntry} (mem : e ∈ es) :
    last? EmojiEntry.id es e.id = some e := by
  obtain ⟨f, found⟩ := exists_last? EmojiEntry.id mem
  obtain ⟨also, same⟩ := last?_eq_some found
  rw [found, List.inj_on_of_nodup_map distinct also mem same]

theorem difference_replaceEmojis_cons (shelf : Shelf EmojiId EmojiEntry) (e : EmojiEntry) (es : List EmojiEntry) :
    (replaceEmojis shelf (e :: es)).2 =
      let rest := (replaceEmojis { shelf with table := shelf.table.insert e.id e } es).2
      (if (shelf.get? e.id).isNone then e :: rest.1 else rest.1,
        (change? e (shelf.get? e.id)).toList ++ rest.2) := by
  rw [replaceEmojis]
  cases shelf.get? e.id with
  | none => rfl
  | some old =>
    by_cases same : old = e <;> simp [change?, same]

theorem difference_replaceEmojis (shelf : Shelf EmojiId EmojiEntry) {es : List EmojiEntry}
    (distinct : (es.map (·.id)).Nodup) :
    (replaceEmojis shelf es).2 = (es.filter fun e => (shelf.get? e.id).isNone,
      es.filterMap fun e => change? e (shelf.get? e.id)) := by
  induction es generalizing shelf with
  | nil => rfl
  | cons e es ih =>
    rw [List.map_cons, List.nodup_cons] at distinct
    obtain ⟨fresh, distinct⟩ := distinct
    have kept (f : EmojiEntry) (mem : f ∈ es) :
        ({ shelf with table := shelf.table.insert e.id e } : Shelf EmojiId EmojiEntry).get? f.id =
          shelf.get? f.id := by
      have other : e.id ≠ f.id := fun same => fresh (same ▸ List.mem_map_of_mem mem)
      change (shelf.table.insert e.id e)[f.id]? = shelf.table[f.id]?
      simp [Std.ExtTreeMap.getElem?_insert, other]
    rw [difference_replaceEmojis_cons, ih _ distinct, List.filter_cons, List.filterMap_cons,
      List.filter_congr fun f mem => by rw [kept f mem],
      List.filterMap_congr fun f mem => by rw [kept f mem]]
    cases change? e (shelf.get? e.id) <;> rfl

def strayEmojis (s : Store) (u : EmojiSet) : List EmojiEntry :=
  (s.emojisOf u.guildId).filter fun e => e.id ∉ (emojiEntries u.guildId u.emojis).map (·.id)

theorem get?_retain_of_mem (shelf : Shelf EmojiId EmojiEntry) (g : GuildId) {ids : List EmojiId} {id : EmojiId}
    (mem : id ∈ ids) : (shelf.retain g (.ofList ids)).get? id = shelf.get? id := by
  have named : names (.ofList ids) g id = true := names_ofList.2 ⟨id, mem, rfl⟩
  rw [get?_retain, named]
  simp

theorem onEmojisUpdate_tells {u : EmojiSet} {e : Event} (h : s.onEmojisUpdate u = .ok (t, e)) :
    ∃ added changed, e = .emojisUpdated u.guildId (emojiEntries u.guildId u.emojis) added
        (s.strayEmojis u) changed ∧
      (((emojiEntries u.guildId u.emojis).map (·.id)).Nodup →
        added = ((emojiEntries u.guildId u.emojis).filter fun e => (s.emojis.get? e.id).isNone) ∧
        changed = (emojiEntries u.guildId u.emojis).filterMap fun e => change? e (s.emojis.get? e.id)) := by
  obtain ⟨-, told⟩ := require_bind_ok.1 h
  obtain ⟨-, rfl⟩ := Prod.mk.inj (Except.ok.inj told)
  have stray : ((s.emojisOf u.guildId).filter fun e =>
      !(Std.ExtTreeSet.ofList ((emojiEntries u.guildId u.emojis).map (·.id))).contains e.id) = s.strayEmojis u :=
    List.filter_congr fun e _ => by
      simp only [Std.ExtTreeSet.contains_ofList, List.contains_eq_mem, decide_not]
  refine ⟨_, _, by rw [stray], fun distinct => ?_⟩
  have told := difference_replaceEmojis
    (s.emojis.retain u.guildId (.ofList ((emojiEntries u.guildId u.emojis).map (·.id)))) distinct
  constructor
  · refine (congrArg Prod.fst told).trans (List.filter_congr fun e mem => ?_)
    rw [get?_retain_of_mem _ _ (List.mem_map_of_mem mem)]
  · refine (congrArg Prod.snd told).trans (List.filterMap_congr fun e mem => ?_)
    rw [get?_retain_of_mem _ _ (List.mem_map_of_mem mem)]

end GuildFeed.Store
