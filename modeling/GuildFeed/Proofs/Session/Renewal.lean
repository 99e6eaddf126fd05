import GuildFeed.Proofs.Session.Custody

namespace GuildFeed

namespace Dispatch

def announces (g : GuildId) : Dispatch → Bool
  | guildCreate n => n.unavailable && n.id = g
  | guildDelete n => n.unavailable && n.id = g
  | _ => false

def settles (g : GuildId) : Dispatch → Bool
  | guildCreate n => !n.unavailable && n.id = g
  | guildDelete n => !n.unavailable && n.id = g
  | _ => false

def lists (g : GuildId) : Dispatch → Bool
  | ready r => r.listed.contains g
  | _ => false

end Dispatch

/-- An outage of the guild was announced when it was not owned, and nothing was said of it since. -/
def Stranded (ds : List Dispatch) (g : GuildId) : Prop :=
  ∃ before d after, ds = before ++ d :: after ∧ d.announces g = true ∧
    g ∉ (before.foldl Session.follow .empty).owned ∧
    ∀ x ∈ after, x.settles g = false ∧ x.lists g = false

theorem not_stranded_nil (g : GuildId) : ¬ Stranded [] g := by
  rintro ⟨before, d, after, split, -⟩
  simp at split

theorem stranded_concat {ds : List Dispatch} {d : Dispatch} {g : GuildId} :
    Stranded (ds ++ [d]) g ↔ d.announces g = true ∧ g ∉ (ds.foldl Session.follow .empty).owned ∨
      Stranded ds g ∧ d.settles g = false ∧ d.lists g = false := by
  constructor
  · rintro ⟨before, x, after, split, announced, unowned, silent⟩
    rcases List.eq_nil_or_concat after with rfl | ⟨rest, last, rfl⟩
    · obtain ⟨rfl, same⟩ := List.append_inj' split rfl
      obtain ⟨rfl, -⟩ := List.cons.inj same
      exact .inl ⟨announced, unowned⟩
    · rw [List.concat_eq_append, ← List.cons_append, ← List.append_assoc] at split
      obtain ⟨rfl, same⟩ := List.append_inj' split rfl
      obtain ⟨rfl, -⟩ := List.cons.inj same
      refine .inr ⟨⟨before, x, rest, rfl, announced, unowned, fun y mem => silent y (by simp [mem])⟩, ?_⟩
      exact silent d (by simp)
  · rintro (⟨announced, unowned⟩ | ⟨⟨before, x, after, rfl, announced, unowned, silent⟩, settled, listed⟩)
    · exact ⟨ds, d, [], rfl, announced, unowned, by simp⟩
    · refine ⟨before, x, after ++ [d], by simp, announced, unowned, fun y mem => ?_⟩
      rcases List.mem_append.1 mem with mem | mem
      · exact silent y mem
      · rw [List.mem_singleton.1 mem]
        exact ⟨settled, listed⟩

namespace Session

variable {s : Session} {a : Availability} {g : GuildId}

theorem marked_of_old {d : Dispatch} (old : ∀ r, d ≠ .ready r) :
    g ∈ (a.follow d).unavailable ↔ d.announces g = true ∨ g ∈ a.unavailable ∧ d.settles g = false := by
  cases d with
  | ready r => exact absurd rfl (old r)
  | guildCreate n =>
    simp only [Availability.follow, Dispatch.announces, Dispatch.settles]
    by_cases same : n.id = g <;> cases n.unavailable <;> simp [same]
  | guildDelete n =>
    simp only [Availability.follow, Dispatch.announces, Dispatch.settles]
    by_cases same : n.id = g <;> cases n.unavailable <;> simp [same]
  | _ => simp [Availability.follow, Dispatch.announces, Dispatch.settles]

theorem owned_of_old {d : Dispatch} (old : ∀ r, d ≠ .ready r) (unsettled : d.settles g = false) :
    g ∈ (s.follow d).owned ↔ g ∈ s.owned := by
  cases d with
  | ready r => exact absurd rfl (old r)
  | guildCreate n =>
    cases down : n.unavailable with
    | true => simp only [follow, down, if_true]
    | false =>
      have other : n.id ≠ g := by simpa [Dispatch.settles, down] using unsettled
      simp [follow, down, other]
  | guildDelete n =>
    cases down : n.unavailable with
    | true => simp only [follow, down, if_true]
    | false =>
      have other : n.id ≠ g := by simpa [Dispatch.settles, down] using unsettled
      simp [follow, down, other]
  | _ => rfl

theorem announces_of_settles {d : Dispatch} (settled : d.settles g = true) : d.announces g = false := by
  cases d with
  | guildCreate n =>
    have up : n.unavailable = false := by simpa using (Bool.and_eq_true_iff.1 settled).1
    rw [Dispatch.announces, up, Bool.false_and]
  | guildDelete n =>
    have up : n.unavailable = false := by simpa using (Bool.and_eq_true_iff.1 settled).1
    rw [Dispatch.announces, up, Bool.false_and]
  | _ => rfl

theorem lists_of_old {d : Dispatch} (old : ∀ r, d ≠ .ready r) (g : GuildId) : d.lists g = false := by
  cases d with
  | ready r => exact absurd rfl (old r)
  | _ => rfl

theorem marked_unowned_follow (d : Dispatch) :
    g ∈ (((s.left d).foldl Availability.depart a).follow d).unavailable ∧ g ∉ (s.follow d).owned ↔
      d.announces g = true ∧ g ∉ s.owned ∨
        (g ∈ a.unavailable ∧ g ∉ s.owned) ∧ d.settles g = false ∧ d.lists g = false := by
  rcases d.ready_or_old with ⟨r, rfl⟩ | old
  · rw [mem_unavailable_ready]
    simp only [follow, Dispatch.announces, Dispatch.settles, Dispatch.lists, Std.ExtTreeSet.mem_ofList]
    by_cases listed : g ∈ r.listed <;> simp [listed, and_comm]
  · rw [left_of_old old, List.foldl_nil, marked_of_old old, lists_of_old old g]
    cases settled : d.settles g with
    | true => simp [announces_of_settles settled]
    | false =>
      rw [owned_of_old old settled, or_and_right]
      simp

theorem unowned_follow (d : Dispatch) (quiet : d.announces g = false ∧ d.lists g = false)
    (unowned : g ∈ a.unavailable → g ∉ s.owned)
    (marked : g ∈ (((s.left d).foldl Availability.depart a).follow d).unavailable) :
    g ∉ (s.follow d).owned := by
  rcases d.ready_or_old with ⟨r, rfl⟩ | old
  · have unlisted : g ∉ r.listed := by simpa [Dispatch.lists] using quiet.2
    simpa [follow, Std.ExtTreeSet.mem_ofList] using unlisted
  · rw [left_of_old old, List.foldl_nil, marked_of_old old, quiet.1] at marked
    obtain ⟨marked, unsettled⟩ := marked.resolve_left Bool.false_ne_true
    rw [owned_of_old old unsettled]
    exact unowned marked

theorem marked_follow (d : Dispatch) (quiet : d.announces g = false ∧ d.lists g = false)
    (unowned : g ∈ a.unavailable → g ∉ s.owned) :
    g ∈ (((s.left d).foldl Availability.depart a).follow d).unavailable ↔
      g ∈ a.unavailable ∧ d.settles g = false := by
  have both := marked_unowned_follow (s := s) (a := a) (g := g) d
  have kept := unowned_follow d quiet unowned
  simp only [quiet.1, quiet.2, Bool.false_eq_true, false_and, false_or, and_true] at both
  rw [iff_comm.1 (and_iff_left_of_imp kept), both, and_iff_left_of_imp unowned]

theorem outcome_guildCreate (s : Session) (h : Hub) {n : Guild} (up : n.unavailable = false) :
    (s.apply h (.guildCreate n)).2.2 = .ok (.guildAvailable (.ofGuild n) (h.store.isUnavailable n.id)) := by
  have accepted := Store.update_guildCreate (s.prepared h (.guildCreate n)).2.store up
  rw [apply_ok accepted]
  rfl

end Session

namespace Cluster

abbrev alone (calls : List (Call Unit)) : Cluster Unit := Cluster.empty.serve calls

theorem serve_concat {ι : Type} [DecidableEq ι] (c : Cluster ι) (calls : List (Call ι)) (x : Call ι) :
    c.serve (calls ++ [x]) = ((c.serve calls).call x).1 := by
  simp [serve]

theorem Guided.serve {ι : Type} [DecidableEq ι] {c : Cluster ι} (guided : c.Guided) (calls : List (Call ι)) :
    (c.serve calls).Guided := by
  induction calls generalizing c with
  | nil => exact guided
  | cons x calls ih => exact ih (guided.call x)

theorem guided_alone (calls : List (Call Unit)) : (alone calls).Guided := Guided.empty.serve calls

theorem owned_alone (calls : List (Call Unit)) : ((alone calls).sessions ()).owned =
    ((calls.filterMap Call.dispatch?).foldl Session.follow .empty).owned := by
  induction calls using List.reverseRecOn with
  | nil => rfl
  | append_singleton calls x ih =>
    rw [alone, serve_concat]
    cases brings : x.dispatch? with
    | none =>
      rw [owned_call_none brings, ih]
      simp [brings]
    | some d =>
      rw [owned_call_some brings, if_pos rfl, Session.owned_follow_congr ih d]
      simp [brings]

theorem stranded_alone (calls : List (Call Unit)) (g : GuildId) :
    g ∈ (alone calls).hub.store.availability.unavailable ∧ g ∉ ((alone calls).sessions ()).owned ↔
      Stranded (calls.filterMap Call.dispatch?) g := by
  induction calls using List.reverseRecOn with
  | nil =>
    have nothing : (alone []).hub.store.availability = .empty := Store.availability_empty
    simp [nothing, Availability.empty, not_stranded_nil]
  | append_singleton calls x ih =>
    have reachable := (guided_alone calls).reachable
    rw [alone, serve_concat]
    cases brings : x.dispatch? with
    | none =>
      rw [availability_call_none brings, owned_call_none brings, ih]
      simp [brings]
    | some d =>
      rw [availability_call_some reachable brings, owned_call_some brings, if_pos rfl,
        Session.marked_unowned_follow, ih, owned_alone]
      simp [brings, stranded_concat]

theorem marked_serve {c : Cluster Unit} (reachable : c.Reachable) {g : GuildId}
    (unowned : g ∈ c.hub.store.availability.unavailable → g ∉ (c.sessions ()).owned) {later : List (Call Unit)}
    (quiet : ∀ d ∈ later.filterMap Call.dispatch?, d.announces g = false ∧ d.lists g = false) :
    g ∈ (c.serve later).hub.store.availability.unavailable ↔
      g ∈ c.hub.store.availability.unavailable ∧ ∀ d ∈ later.filterMap Call.dispatch?, d.settles g = false := by
  induction later generalizing c with
  | nil => simp [serve]
  | cons x later ih =>
    have next := reachable_call reachable x
    have step : c.serve (x :: later) = ((c.call x).1).serve later := rfl
    rw [step]
    cases brings : x.dispatch? with
    | none =>
      rw [List.filterMap_cons_none brings] at quiet ⊢
      rw [ih next (by rwa [availability_call_none brings, owned_call_none brings]) quiet,
        availability_call_none brings]
    | some d =>
      rw [List.filterMap_cons_some brings] at quiet ⊢
      obtain ⟨first, rest⟩ := List.forall_mem_cons.1 quiet
      have marked := availability_call_some reachable brings
      have owned := owned_call_some (c := c) brings ()
      rw [if_pos rfl] at owned
      rw [ih next ?_ rest, marked, Session.marked_follow d first unowned, List.forall_mem_cons, and_assoc]
      rw [marked, owned]
      exact Session.unowned_follow d first unowned

theorem outcome_call {ι : Type} [DecidableEq ι] (c : Cluster ι) {y : Call ι} {n : Guild}
    (brings : y.dispatch? = some (.guildCreate n)) (up : n.unavailable = false) :
    (c.call y).2 = .applied (.guildAvailable (.ofGuild n) (c.hub.store.isUnavailable n.id)) := by
  obtain ⟨s, -, applied⟩ := call_some (c := c) brings
  rw [applied, Session.outcome_guildCreate s c.hub up]
  rfl

/-- After a single session starts over, nothing is cached, and marked are the listed guilds and the
stranded ones. As long as nothing is said of a guild that was not listed, its next arrival is called
recovered if and only if it was stranded. -/
theorem renewal_keeps_stranded (calls : List (Call Unit)) {x : Call Unit} {r : Ready}
    (renews : x.dispatch? = some (.ready r)) :
    let past := calls.filterMap Call.dispatch?
    let fresh := ((alone calls).call x).1
    (∀ g, fresh.hub.store.isCached g = false) ∧
      (∀ g, fresh.hub.store.isUnavailable g = true ↔ g ∈ r.listed ∨ Stranded past g) ∧
      ((∀ g, fresh.hub.store.isUnavailable g = true ↔ g ∈ r.listed) ↔ ∀ g, Stranded past g → g ∈ r.listed) ∧
      ∀ (later : List (Call Unit)) (y : Call Unit) (n : Guild), n.id ∉ r.listed →
        y.dispatch? = some (.guildCreate n) → n.unavailable = false →
        (∀ d ∈ later.filterMap Call.dispatch?, d.announces n.id = false ∧ d.lists n.id = false) →
        ∃ recovered, ((fresh.serve later).call y).2 = .applied (.guildAvailable (.ofGuild n) recovered) ∧
          (recovered = true ↔
            Stranded past n.id ∧ ∀ d ∈ later.filterMap Call.dispatch?, d.settles n.id = false) := by
  intro past fresh
  have reachable := (guided_alone calls).reachable
  have custody := (guided_alone calls).custody
  have availability := availability_call_some reachable renews
  have owned : (fresh.sessions ()).owned = .ofList r.listed := by
    rw [owned_call_some renews, if_pos rfl]
    rfl
  have marked (g : GuildId) : fresh.hub.store.isUnavailable g = true ↔ g ∈ r.listed ∨ Stranded past g := by
    rw [Store.isUnavailable, Std.ExtTreeSet.contains_iff_mem, ← Store.unavailable_availability, availability,
      Session.mem_unavailable_ready, ← stranded_alone, and_comm]
  refine ⟨fun g => ?_, marked, ?_, ?_⟩
  · rw [Bool.eq_false_iff, ne_eq, Store.isCached_iff, ← Store.mem_cached_availability, availability,
      Session.mem_cached_ready]
    rintro ⟨-, unowned, cached⟩
    obtain ⟨_, owned⟩ := custody.owned g cached
    exact unowned owned
  · simp only [marked]
    exact forall_congr' fun g => or_iff_left_iff_imp
  · intro later y n unlisted brings up quiet
    refine ⟨_, outcome_call _ brings up, ?_⟩
    have unowned : n.id ∉ (fresh.sessions ()).owned := by
      rw [owned]
      simpa [Std.ExtTreeSet.mem_ofList] using unlisted
    have still := marked_serve ((guided_alone calls).call x).reachable (fun _ => unowned) quiet
    have stranded := marked n.id
    rw [or_iff_right unlisted] at stranded
    rw [Store.isUnavailable, Std.ExtTreeSet.contains_iff_mem] at stranded ⊢
    rw [← stranded]
    exact still

def renewing (listed : List GuildId) : Ready where
  version := 6
  user := ⟨⟨100⟩, "", none, none, false⟩
  guilds := listed.map (⟨·, true⟩)
  sessionId := ""

def down (g : GuildId) : Guild := { Guild.bare g with unavailable := true }

theorem stranded_down (g : GuildId) : Stranded [.guildCreate (down g)] g := by
  refine ⟨[], .guildCreate (down g), [], rfl, ?_, ?_, by simp⟩
  · simp [Dispatch.announces, down, Guild.bare]
  · simp [Session.empty]

theorem renewal_keeps_stranded_down :
    let fresh := ((alone [.apply () (.guildCreate (down ⟨5⟩))]).call (.apply () (.ready (renewing [⟨1⟩])))).1
    (fresh.hub.store.isUnavailable ⟨5⟩ = true ∧ ⟨5⟩ ∉ (renewing [⟨1⟩]).listed) ∧
      (fresh.call (.apply () (.guildCreate (.bare ⟨5⟩)))).2 =
        .applied (.guildAvailable (.ofGuild (.bare ⟨5⟩)) true) := by
  intro fresh
  obtain ⟨-, marked, -, arrives⟩ := renewal_keeps_stranded [.apply () (.guildCreate (down ⟨5⟩))]
    (x := .apply () (.ready (renewing [⟨1⟩]))) rfl
  have stranded := stranded_down ⟨5⟩
  have unlisted : (⟨5⟩ : GuildId) ∉ (renewing [⟨1⟩]).listed := by decide
  obtain ⟨recovered, told, means⟩ := arrives [] (.apply () (.guildCreate (.bare ⟨5⟩))) (.bare ⟨5⟩) unlisted rfl
    rfl (by simp)
  have same : recovered = true := means.2 ⟨stranded, by simp⟩
  subst same
  exact ⟨⟨(marked ⟨5⟩).2 (.inr stranded), unlisted⟩, told⟩

theorem marked_unlisted_after_renewal : ¬ ∀ (calls : List (Call Unit)) (r : Ready) (g : GuildId),
    ((alone calls).call (.apply () (.ready r))).1.hub.store.isUnavailable g = true ↔ g ∈ r.listed := by
  intro all
  have listed := (all [.apply () (.guildCreate (down ⟨5⟩))] (renewing [⟨1⟩]) ⟨5⟩).1 (by decide +kernel)
  exact absurd listed (by decide)

end Cluster
end GuildFeed
