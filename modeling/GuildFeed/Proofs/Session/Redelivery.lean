import GuildFeed.Proofs.Session.Process
import GuildFeed.Proofs.Store.Repetition

namespace GuildFeed

namespace Session

variable {s : Session} {h : Hub}

theorem follow_follow (s : Session) (d : Dispatch) : (s.follow d).follow d = s.follow d := by
  cases d with
  | guildCreate g =>
    have same : (s.owned.insert g.id).insert g.id = s.owned.insert g.id := Std.ExtTreeSet.ext_mem fun h => by
      simp
    cases down : g.unavailable with
    | true => simp only [follow, down, if_true]
    | false => simp only [follow, down, Bool.false_eq_true, if_false, same]
  | guildDelete n =>
    have same : (s.owned.erase n.id).erase n.id = s.owned.erase n.id := Std.ExtTreeSet.ext_mem fun h => by
      simp
    cases down : n.unavailable with
    | true => simp only [follow, down, if_true]
    | false => simp only [follow, down, Bool.false_eq_true, if_false, same]
  | _ => rfl

theorem prepared_follow (s : Session) (h : Hub) (d : Dispatch) :
    (s.follow d).prepared h d = (s.follow d, { h with counters := h.counters.countDispatch d }) := by
  cases d with
  | ready r =>
    have gone : (s.follow (.ready r)).gone r = [] := by
      rw [gone, List.filter_eq_nil_iff]
      intro g mem
      have listed : g ∈ r.listed := by
        have owned := Std.ExtTreeSet.mem_toList.1 mem
        rwa [follow, Std.ExtTreeSet.mem_ofList, List.contains_iff_mem] at owned
      simpa using listed
    rw [prepared, prepare, reconcile, gone]
    rfl
  | _ => rfl

theorem apply_again (reachable : h.store.Reachable) (s : Session) (d : Dispatch) :
    let once := s.apply h d
    let twice := once.1.apply once.2.1 d
    twice.1 = once.1 ∧ twice.2.1.store = once.2.1.store ∧
      (Outcome.ofResult twice.2.2).Repeats (.ofResult once.2.2) := by
  intro once twice
  cases result : (s.prepared h d).2.store.update d with
  | ok p =>
    obtain ⟨t, e⟩ := p
    obtain ⟨e', again⟩ := Store.update_again (reachable_prepared reachable s d).ownership result
    have first : once = _ := apply_ok result
    have owns : once.1 = (s.prepared h d).1.follow d := by
      rw [first]
      exact track_of_update result _
    have ready : once.1.prepared once.2.1 d =
        (once.1, { once.2.1 with counters := once.2.1.counters.countDispatch d }) := by
      rw [owns]
      exact prepared_follow ..
    have holds : (once.1.prepared once.2.1 d).2.store = t := by rw [ready, first]
    rw [← holds] at again
    have second : twice = _ := apply_ok again
    have same : once.1.track e' = once.1 := by rw [track_of_update again, owns, follow_follow]
    refine ⟨?_, ?_, ?_⟩
    · rw [second, ready, same]
    · rw [second, holds, first]
    · rw [second, first]
      trivial
  | error err =>
    have first : once = _ := apply_error result
    rw [prepared_of_refused result] at first result
    -- the first time left the store as it was, so the second time is refused just so
    have ready : once.1.prepared once.2.1 d = _ := prepared_of_refused result
    have again : (once.1.prepared once.2.1 d).2.store.update d = .error err := by
      rw [ready, first]
      exact result
    have second : twice = _ := apply_error again
    refine ⟨?_, ?_, ?_⟩
    · rw [second, ready]
    · rw [second, ready]
    · rw [second, first]
      rfl

theorem record_apply (s : Session) (h : Hub) (sequence : Option UInt64) (d : Dispatch) :
    ((s.record sequence).apply h d).1.record sequence = ((s.record sequence).apply h d).1 := by
  have seen := highest_apply (s.record sequence) h d
  generalize ((s.record sequence).apply h d).1 = t at seen ⊢
  have same : max t.highest ((sequence.map UInt64.toNat).getD 0) = t.highest := by
    rw [seen, record, Nat.max_assoc, Nat.max_self]
  rw [record, same]

theorem process_again (reachable : h.store.Reachable) (s : Session) (e : Envelope) :
    let once := s.process h e
    let twice := once.1.process once.2.1 e
    twice.1 = once.1 ∧ twice.2.1.store = once.2.1.store ∧ twice.2.2.Repeats once.2.2 := by
  intro once twice
  cases decodes : e.decode with
  | error err =>
    have first : once = _ := process_undecodable decodes
    have second : twice = _ := process_undecodable decodes
    rw [second, first]
    exact ⟨rfl, rfl, rfl⟩
  | ok message =>
    cases message with
    | signal signal =>
      have first : once = _ := process_signal decodes
      have second : twice = _ := process_signal decodes
      rw [second, first]
      exact ⟨rfl, rfl, rfl⟩
    | dispatch sequence d =>
      have first : once = _ := process_dispatch decodes
      have second : twice = _ := process_dispatch decodes
      have recorded : once.1.record sequence = once.1 := by
        rw [first]
        exact record_apply ..
      rw [second, recorded, first]
      exact apply_again reachable (s.record sequence) d

end Session

namespace Cluster

variable {ι : Type} [DecidableEq ι]

theorem after_after (c : Cluster ι) (i : ι) (s t : Session) (h k : Hub) :
    (c.after i s h).after i t k = c.after i t k := by
  unfold after
  congr 1
  funext j
  by_cases same : j = i
  · simp [same]
  · simp [same]

/-- An envelope that is delivered twice leaves the store and all sessions as if it were delivered
once, and comes to the same end both times. -/
theorem Reachable.process_twice {c : Cluster ι} (reachable : c.Reachable) (i : ι) (e : Envelope) :
    let once := c.process i e
    let twice := once.1.process i e
    twice.1.hub.store = once.1.hub.store ∧ twice.1.sessions = once.1.sessions ∧
      twice.2.Repeats once.2 := by
  intro once twice
  obtain ⟨session, store, repeats⟩ := Session.process_again reachable.store (c.sessions i) e
  have own : once.1.sessions i = ((c.sessions i).process c.hub e).1 := if_pos rfl
  have second : twice = ((once.1.after i ((once.1.sessions i).process once.1.hub e).1
      ((once.1.sessions i).process once.1.hub e).2.1), ((once.1.sessions i).process once.1.hub e).2.2) := rfl
  rw [own] at second
  rw [second]
  refine ⟨store, ?_, repeats⟩
  exact (congrArg Cluster.sessions (after_after ..)).trans (congrArg (fun t => (c.after i t c.hub).sessions) session)

def join : Envelope where
  op := Envelope.opDispatch
  event := some "GUILD_MEMBER_ADD"
  sequence := some 7
  payload := .object [("guild_id", .string "1"), ("user", .object [("id", .string "5")])]

theorem process_twice_join :
    let c : Cluster Unit := Cluster.empty.command (.dispatch (.guildCreate (.bare ⟨1⟩)))
    let once := c.process () join
    let twice := once.1.process () join
    c.Reachable ∧ (twice.1.hub.store = once.1.hub.store ∧ twice.1.sessions = once.1.sessions ∧
      twice.2.Repeats once.2) ∧ once.2.isApplied = true ∧ twice.1.hub.store.memberCount ⟨1⟩ = 1 := by
  intro c once twice
  have reachable : c.Reachable := Reachable.empty.command _
  exact ⟨reachable, reachable.process_twice () join, by decide +kernel, by decide +kernel⟩

end Cluster
end GuildFeed
