import GuildFeed.Proofs.Store.Listing
import GuildFeed.Store.Drain

namespace GuildFeed

namespace Shelf

set_option linter.unusedSectionVars false

variable {κ ι α : Type} [Ord κ] [Std.TransOrd κ] [Std.LawfulEqOrd κ] [DecidableEq κ]
  [Ord ι] [Std.TransOrd ι] [Std.LawfulEqOrd ι] [Listed κ ι]

theorem fst_drainKeys_cons (table : Std.ExtTreeMap κ α) (k : κ) (ks : List κ) :
    (drainKeys table (k :: ks)).1 = table[k]?.toList ++ (drainKeys (table.erase k) ks).1 := by
  rw [drainKeys]
  cases table[k]? <;> rfl

theorem snd_drainKeys_cons (table : Std.ExtTreeMap κ α) (k : κ) (ks : List κ) :
    (drainKeys table (k :: ks)).2 = (drainKeys (table.erase k) ks).2 := by
  rw [drainKeys]
  cases table[k]? <;> rfl

/-- As long as no key comes twice, erasing the one before does not touch the next. -/
theorem fst_drainKeys (table : Std.ExtTreeMap κ α) {ks : List κ} (nodup : ks.Nodup) :
    (drainKeys table ks).1 = ks.filterMap (table[·]?) := by
  induction ks generalizing table with
  | nil => rfl
  | cons k ks ih =>
    obtain ⟨fresh, nodup⟩ := List.nodup_cons.1 nodup
    have kept : ks.filterMap ((table.erase k)[·]?) = ks.filterMap (table[·]?) := by
      apply List.filterMap_congr
      intro l mem
      have other : k ≠ l := fun same => fresh (same ▸ mem)
      simp [Std.ExtTreeMap.getElem?_erase, other]
    rw [fst_drainKeys_cons, ih _ nodup, kept, List.filterMap_cons]
    cases table[k]? <;> rfl

theorem getElem?_snd_drainKeys (table : Std.ExtTreeMap κ α) (ks : List κ) (k : κ) :
    (drainKeys table ks).2[k]? = if k ∈ ks then none else table[k]? := by
  induction ks generalizing table with
  | nil => rfl
  | cons l ks ih =>
    simp only [snd_drainKeys_cons, ih, Std.ExtTreeMap.getElem?_erase, Std.LawfulEqCmp.compare_eq_iff_eq,
      List.mem_cons]
    by_cases later : k ∈ ks
    · simp [later]
    · simp [later, eq_comm]

theorem nodup_listed_keys (s : Shelf κ α) (g : GuildId) :
    ((s.ids g).toList.map (Listed.key (κ := κ) g)).Nodup := by
  refine List.Pairwise.map _ ?_ Std.ExtTreeSet.ordered_toList
  intro i j lt same
  have eq := Listed.id?_eq_some_iff.2 same
  rw [Listed.id?_eq_some_iff.2 rfl, Option.some.injEq] at eq
  have self : compare i i = .eq := Std.ReflCmp.compare_self
  rw [eq, self] at lt
  cases lt

theorem drain_eq (s : Shelf κ α) (g : GuildId) : s.drain g = (s.entities g, s.close g) := by
  have drained : (drainKeys s.table ((s.ids g).toList.map (Listed.key g))).1 = s.entities g := by
    rw [fst_drainKeys _ (nodup_listed_keys s g), List.filterMap_map]
    rfl
  have left : (s.drain g).2 = s.close g := by
    apply ext_get?
    · intro k
      have listed : k ∈ (s.ids g).toList.map (Listed.key g) ↔ s.isListed g k = true := by
        rw [List.mem_map, isListed_iff]
        simp only [Std.ExtTreeSet.mem_toList]
      have left := getElem?_snd_drainKeys s.table ((s.ids g).toList.map (Listed.key g)) k
      simp only [listed] at left
      rw [get?_close]
      exact left
    · exact fun _ => rfl
  exact Prod.ext drained left

end Shelf

namespace Store

theorem drain_eq {s : Store} (own : s.Ownership) (g : GuildId) : s.drain g = s.removeGuild g := by
  have sorted : (s.emojis.entities g).mergeSort (fun a b => (compareOn EmojiEntry.id a b).isLE) =
      s.emojis.entities g := by
    apply List.mergeSort_of_pairwise
    refine (own.ascending_emojisOf g).imp ?_
    intro a b lt
    rw [lt]
    rfl
  unfold drain removeGuild
  simp only [Shelf.drain_eq, sorted]
  cases found : s.guild? g with
  | none =>
    have uncached : s.isCached g = false := by
      rw [Bool.eq_false_iff, ne_eq, isCached_iff, Std.ExtTreeMap.mem_iff_isSome_getElem?]
      rw [guild?] at found
      simp [found]
    simp [withoutGuild, holdings?, memberCount, found, uncached]
  | some guild =>
    have cached : s.isCached g = true := isCached_iff.2 (mem_guilds_of_guild? found)
    simp [withoutGuild, holdings?, memberCount, found, cached, channelsOf, rolesOf, emojisOf, membersOf,
      presencesOf, voiceStatesOf]

end Store
end GuildFeed
