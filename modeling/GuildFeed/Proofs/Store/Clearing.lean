import GuildFeed.Proofs.Store.Report

namespace GuildFeed

theorem Shelf.entities_close {κ ι α : Type} [Ord κ] [Std.TransOrd κ] [Std.LawfulEqOrd κ] [Ord ι] [Std.TransOrd ι]
    [Std.LawfulEqOrd ι] [Listed κ ι] {s : Shelf κ α} {g h : GuildId} (other : h ≠ g)
    (apart : ∀ k, s.isListed h k = true → s.isListed g k = false) : (s.close h).entities g = s.entities g := by
  unfold entities
  rw [ids_close, if_neg other]
  apply List.filterMap_congr
  intro i mem
  rw [get?_close, if_neg]
  intro listed
  have own : s.isListed g (Listed.key g i) = true := isListed_key.2 (Std.ExtTreeSet.mem_toList.1 mem)
  rw [apart _ listed] at own
  cases own

namespace Store

variable {s t u : Store} {g h : GuildId}

def covers (s : Store) (g : GuildId) (k : EntityKey) : Bool := k = .guild g || s.isListed g k

theorem get?_withoutGuild (s : Store) (g : GuildId) (k : EntityKey) :
    (s.withoutGuild g).get? k = if s.covers g k then none else s.get? k := by
  cases k with
  | guild id =>
    by_cases same : id = g
    · subst same
      simp [get?, covers, guild?_withoutGuild]
    · have kept : (s.withoutGuild g).guild? id = s.guild? id := by
        simp [guild?, Store.withoutGuild, Std.ExtTreeMap.getElem?_erase, Ne.symm same]
      simp [get?, covers, kept, same, isListed]
  | _ =>
    simp only [get?, covers, isListed, Store.withoutGuild, Shelf.get?_close]
    split <;> simp_all

theorem isListed_withoutGuild (s : Store) (g h : GuildId) (k : EntityKey) :
    (s.withoutGuild g).isListed h k = if g = h then false else s.isListed h k := by
  cases k with
  | guild id => simp [isListed]
  | _ => exact Shelf.isListed_close ..

theorem guild?_withoutGuild_of_ne (s : Store) (other : h ≠ g) : (s.withoutGuild h).guild? g = s.guild? g := by
  simp [guild?, Store.withoutGuild, Std.ExtTreeMap.getElem?_erase, other]

theorem holdings?_withoutGuild (other : h ≠ g) (apart : ∀ k, s.isListed h k = true → s.isListed g k = false) :
    (s.withoutGuild h).holdings? g = s.holdings? g := by
  have channels := Shelf.entities_close (s := s.channels) other fun id => apart (.channel id)
  have roles := Shelf.entities_close (s := s.roles) other fun id => apart (.role id)
  have emojis := Shelf.entities_close (s := s.emojis) other fun id => apart (.emoji id)
  have members := Shelf.entities_close (s := s.members) other fun id => apart (.member id)
  have presences := Shelf.entities_close (s := s.presences) other fun id => apart (.presence id)
  have voiceStates := Shelf.entities_close (s := s.voiceStates) other fun id => apart (.voiceState id)
  rw [holdings?, holdings?, guild?_withoutGuild_of_ne s other]
  simp only [channelsOf, rolesOf, emojisOf, membersOf, presencesOf, voiceStatesOf, Store.withoutGuild, channels,
    roles, emojis, members, presences, voiceStates]

/-- One store is the other without some guilds, as far as entities and listings go. -/
structure Clears (s : Store) (gs : List GuildId) (t : Store) : Prop where
  get? : ∀ k, t.get? k = if gs.any (s.covers · k) then none else s.get? k
  isListed : ∀ g k, t.isListed g k = if g ∈ gs then false else s.isListed g k

namespace Clears

theorem refl (s : Store) : s.Clears [] s where
  get? _ := rfl
  isListed _ _ := by simp

theorem withoutGuild (s : Store) (g : GuildId) : s.Clears [g] (s.withoutGuild g) where
  get? k := by simp [get?_withoutGuild]
  isListed h k := by simp [isListed_withoutGuild, eq_comm]

theorem trans {as bs : List GuildId} (first : s.Clears as t) (second : t.Clears bs u) : s.Clears (as ++ bs) u where
  get? k := by
    rw [second.get?, first.get?, List.any_append]
    by_cases gone : as.any (s.covers · k) = true
    · simp [gone]
    · -- what no guild has taken along so far is listed as before
      have same : (t.covers · k) = (s.covers · k) := by
        funext g
        simp only [covers, first.isListed]
        split
        · next early =>
          have uncovered : s.covers g k = false := by
            simpa using fun covered => gone (List.any_eq_true.2 ⟨g, early, covered⟩)
          simp only [covers, Bool.or_eq_false_iff] at uncovered
          rw [uncovered.2]
        · rfl
      rw [same]
      simp [gone]
  isListed g k := by
    rw [second.isListed, first.isListed]
    by_cases early : g ∈ as
    · simp [early]
    · simp [early]

theorem foldl {f : Store → GuildId → Store} (one : ∀ (s : Store) (g : GuildId), s.Clears [g] (f s g)) (gs : List GuildId) (s : Store) :
    s.Clears gs (gs.foldl f s) := by
  induction gs generalizing s with
  | nil => exact refl s
  | cons g gs ih => exact (one s g).trans (ih (f s g))

theorem dropListed (s : Store) (gs : List GuildId) : s.Clears gs (s.dropListed gs) := by
  refine foldl (fun s g => ?_) gs s
  have cleared := withoutGuild s g
  exact ⟨cleared.get?, cleared.isListed⟩

end Clears

def farewells (s : Store) : List GuildId → List Event
  | [] => []
  | g :: gs => .guildUnavailable g false (s.holdings? g) :: (s.withoutGuild g).farewells gs

theorem mem_farewells {gs : List GuildId} (distinct : gs.Nodup) {e : Event} (mem : e ∈ s.farewells gs) :
    ∃ g ∈ gs, ∃ prior, e = .guildUnavailable g false prior ∧ prior.map (·.guild) = s.guild? g ∧
      ((∀ h ∈ gs, h ≠ g → ∀ k, s.isListed h k = true → s.isListed g k = false) → prior = s.holdings? g) := by
  induction gs generalizing s with
  | nil => cases mem
  | cons h gs ih =>
    obtain ⟨fresh, distinct⟩ := List.nodup_cons.1 distinct
    rcases List.mem_cons.1 mem with rfl | later
    · refine ⟨h, List.mem_cons_self, _, rfl, ?_, fun _ => rfl⟩
      cases known : s.guild? h <;> simp [holdings?, known]
    · obtain ⟨g, mem, prior, told, guild, whole⟩ := ih distinct later
      have other : h ≠ g := by
        rintro rfl
        exact fresh mem
      rw [guild?_withoutGuild_of_ne s other] at guild
      refine ⟨g, List.mem_cons_of_mem h mem, prior, told, guild, fun apart => ?_⟩
      rw [whole, holdings?_withoutGuild other (apart h List.mem_cons_self other)]
      intro j hj ne k listed
      rw [isListed_withoutGuild] at listed ⊢
      split at listed
      · cases listed
      · rw [if_neg other]
        exact apart j (List.mem_cons_of_mem h hj) ne k listed

end Store
end GuildFeed
