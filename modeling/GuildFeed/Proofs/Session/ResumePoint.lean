import Mathlib.Order.Bounds.Basic
import GuildFeed.Proofs.Session.Shards

namespace GuildFeed

namespace Envelope

/-- A dispatch that can be decoded, with a sequence number. Zero stands for none. -/
def Carries (e : Envelope) (n : Nat) : Prop :=
  e.op = opDispatch ∧ (∃ message, e.decode = .ok message) ∧ e.sequence.map UInt64.toNat = some n ∧ 1 ≤ n

def counted (e : Envelope) : Nat :=
  match e.decode with
  | .ok (.dispatch sequence _) => (sequence.map UInt64.toNat).getD 0
  | _ => 0

theorem decode_ok {e : Envelope} {message : Message} (decodes : e.decode = .ok message) :
    (e.op = opDispatch ∧ ∃ d, message = .dispatch e.sequence d) ∨
      (e.op ≠ opDispatch ∧ ∃ signal, message = .signal signal) := by
  unfold decode at decodes
  by_cases dispatch : e.op = opDispatch
  · rw [if_pos dispatch] at decodes
    cases named : e.event with
    | none =>
      rw [named] at decodes
      cases decodes
    | some name =>
      cases reads : Dispatch.decode name e.payload with
      | error err =>
        simp only [named, reads] at decodes
        cases decodes
      | ok d =>
        simp only [named, reads] at decodes
        exact .inl ⟨dispatch, d, (Except.ok.inj decodes).symm⟩
  · rw [if_neg dispatch] at decodes
    refine .inr ⟨dispatch, ?_⟩
    cases hello : readHello e.payload with
    | error fault =>
      rw [hello] at decodes
      split_ifs at decodes
      all_goals first
        | exact ⟨_, (Except.ok.inj decodes).symm⟩
        | cases decodes
    | ok n =>
      rw [hello] at decodes
      split_ifs at decodes
      all_goals exact ⟨_, (Except.ok.inj decodes).symm⟩

theorem carries_iff {e : Envelope} {n : Nat} : e.Carries n ↔ e.counted = n ∧ 1 ≤ n := by
  unfold Carries counted
  cases decodes : e.decode with
  | error err => simp; omega
  | ok message =>
    obtain ⟨dispatch, d, rfl⟩ | ⟨signal, _, rfl⟩ := decode_ok decodes
    · cases e.sequence with
      | none => simp [dispatch]; omega
      | some sequence => simp [dispatch]
    · simp [signal]; omega

theorem Carries.positive {e : Envelope} {n : Nat} (carries : e.Carries n) : 1 ≤ n := carries.2.2.2

theorem Carries.not_idle {e : Envelope} {n : Nat} (carries : e.Carries n) :
    ¬ (e.op ≠ opDispatch ∨ ∃ err, e.decode = .error err) := by
  obtain ⟨dispatch, ⟨message, decodes⟩, -, -⟩ := carries
  simp [dispatch, decodes]

end Envelope

namespace Session

variable {s t : Session}

theorem lastSequence?_eq_none : s.lastSequence? = none ↔ s.highest = 0 := by
  simp [lastSequence?]

theorem lastSequence?_eq_some {n : Nat} : s.lastSequence? = some n ↔ s.highest = n ∧ 1 ≤ n := by
  unfold lastSequence?
  split
  · simp; omega
  · simp; omega

theorem lastSequence?_inj : s.lastSequence? = t.lastSequence? ↔ s.highest = t.highest := by
  unfold lastSequence?
  refine ⟨fun same => ?_, fun same => by rw [same]⟩
  split at same
  all_goals split at same
  all_goals simp_all

theorem highest_process (s : Session) (h : Hub) (e : Envelope) :
    (s.process h e).1.highest = max s.highest e.counted := by
  unfold Envelope.counted
  cases decodes : e.decode with
  | error err => simp [process_undecodable decodes]
  | ok message =>
    cases message with
    | signal signal => simp [process_signal decodes]
    | dispatch sequence d =>
      rw [process_dispatch decodes, highest_apply]
      rfl

/-! ## From a session to a later one -/

def Reaches (s t : Session) (seen : Nat → Prop) : Prop :=
  ∀ n, 1 ≤ n → (n ≤ t.highest ↔ n ≤ s.highest ∨ ∃ m, seen m ∧ n ≤ m)

namespace Reaches

variable {u : Session} {seen more : Nat → Prop}

protected theorem refl (s : Session) : s.Reaches s fun _ => False := by
  intro n _
  simp

protected theorem trans (first : s.Reaches t seen) (second : t.Reaches u more) :
    s.Reaches u fun n => seen n ∨ more n := by
  intro n positive
  simp only [second n positive, first n positive, or_and_right, exists_or, or_assoc]

protected theorem congr (reaches : s.Reaches t seen) (same : ∀ n, seen n ↔ more n) : s.Reaches t more := by
  intro n positive
  simp only [reaches n positive, same]

theorem ends {s' t' : Session} (reaches : s.Reaches t seen) (other : s'.Reaches t' seen)
    (start : s'.lastSequence? = s.lastSequence?) : t'.lastSequence? = t.lastSequence? := by
  have start : s'.highest = s.highest := lastSequence?_inj.1 start
  have same : ∀ n, 1 ≤ n → (n ≤ t'.highest ↔ n ≤ t.highest) := fun n positive => by
    rw [reaches n positive, other n positive, start]
  refine lastSequence?_inj.2 (eq_of_forall_le_iff fun n => ?_)
  obtain rfl | positive := Nat.eq_zero_or_pos n
  · simp
  · exact same n positive

theorem none_iff (reaches : s.Reaches t seen) (positive : ∀ n, seen n → 1 ≤ n) :
    t.lastSequence? = none ↔ s.lastSequence? = none ∧ ∀ n, ¬ seen n := by
  have first := reaches 1 le_rfl
  rw [lastSequence?_eq_none, lastSequence?_eq_none]
  constructor
  · intro zero
    refine ⟨by omega, fun n mem => ?_⟩
    have := first.2 (.inr ⟨n, mem, positive n mem⟩)
    omega
  · rintro ⟨zero, unseen⟩
    by_contra nonzero
    obtain le | ⟨m, mem, -⟩ := first.1 (by omega)
    · omega
    · exact unseen m mem

theorem isGreatest (reaches : s.Reaches t seen) (positive : ∀ n, seen n → 1 ≤ n) (reached : 1 ≤ t.highest) :
    IsGreatest {n | s.lastSequence? = some n ∨ seen n} t.highest := by
  have upper : ∀ n, s.lastSequence? = some n ∨ seen n → n ≤ t.highest := by
    rintro n (known | mem)
    · obtain ⟨rfl, one⟩ := lastSequence?_eq_some.1 known
      exact (reaches _ one).2 (.inl le_rfl)
    · exact (reaches n (positive n mem)).2 (.inr ⟨n, mem, le_rfl⟩)
  refine ⟨?_, fun n mem => upper n mem⟩
  obtain le | ⟨m, mem, le⟩ := (reaches _ reached).1 le_rfl
  · have known : s.lastSequence? = some s.highest := lastSequence?_eq_some.2 ⟨rfl, reached.trans le⟩
    exact .inl (le_antisymm le (upper _ (.inl known)) ▸ known)
  · exact .inr (le_antisymm le (upper m (.inr mem)) ▸ mem)

theorem some_iff (reaches : s.Reaches t seen) (positive : ∀ n, seen n → 1 ≤ n) {n : Nat} :
    t.lastSequence? = some n ↔ IsGreatest {n | s.lastSequence? = some n ∨ seen n} n := by
  rw [lastSequence?_eq_some]
  constructor
  · rintro ⟨rfl, one⟩
    exact reaches.isGreatest positive one
  · intro greatest
    have one : 1 ≤ n := greatest.1.elim (fun known => (lastSequence?_eq_some.1 known).2) (positive n)
    have reached : 1 ≤ t.highest := by
      refine (reaches 1 le_rfl).2 (greatest.1.imp (fun known => ?_) fun mem => ⟨n, mem, one⟩)
      exact (lastSequence?_eq_some.1 known).1 ▸ one
    exact ⟨(reaches.isGreatest positive reached).unique greatest, one⟩

end Reaches

/-! ## Runs -/

theorem reaches_process (s : Session) (h : Hub) (e : Envelope) : s.Reaches (s.process h e).1 e.Carries := by
  intro n positive
  rw [highest_process, le_max_iff]
  refine or_congr_right ⟨fun le => ⟨e.counted, Envelope.carries_iff.2 ⟨rfl, positive.trans le⟩, le⟩, ?_⟩
  rintro ⟨m, carries, le⟩
  exact (Envelope.carries_iff.1 carries).1 ▸ le

theorem reaches_run (s : Session) (h : Hub) (es : List Envelope) :
    s.Reaches (s.run h es).1 fun n => ∃ e ∈ es, e.Carries n := by
  induction es generalizing s h with
  | nil => exact (Reaches.refl s).congr fun n => by simp
  | cons e es ih => exact ((reaches_process s h e).trans (ih _ _)).congr fun n => by simp

structure Resumes (s : Session) (h : Hub) (es : List Envelope) : Prop where
  unseen : (s.run h es).1.lastSequence? = none ↔ s.lastSequence? = none ∧ ∀ e ∈ es, ∀ n, ¬ e.Carries n
  highest : ∀ n, (s.run h es).1.lastSequence? = some n ↔
    IsGreatest {m | s.lastSequence? = some m ∨ ∃ e ∈ es, e.Carries m} n
  unmoved : ∀ e, (e.op ≠ Envelope.opDispatch ∨ ∃ err, e.decode = .error err) →
    (s.run h (es ++ [e])).1.lastSequence? = (s.run h es).1.lastSequence?
  grows : ∀ fs n, (s.run h es).1.lastSequence? = some n →
    ∃ m, n ≤ m ∧ (s.run h (es ++ fs)).1.lastSequence? = some m
  unordered : ∀ (t : Session) k fs, t.lastSequence? = s.lastSequence? → (∀ e, e ∈ fs ↔ e ∈ es) →
    (t.run k fs).1.lastSequence? = (s.run h es).1.lastSequence?

/-- A connection is taken up again at the highest sequence number that a dispatch carried, whether or
not the dispatch was applied. -/
theorem resumes (s : Session) (h : Hub) (es : List Envelope) : s.Resumes h es where
  unseen := by
    rw [(reaches_run s h es).none_iff fun n ⟨_, _, carries⟩ => carries.positive]
    simp only [not_exists, not_and]
    exact and_congr_right fun _ => ⟨fun no e mem n => no n e mem, fun no n e mem => no e mem n⟩
  highest n := (reaches_run s h es).some_iff fun n ⟨_, _, carries⟩ => carries.positive
  unmoved e idle := by
    refine (reaches_run s h es).ends ((reaches_run s h _).congr fun n => ?_) rfl
    have silent : ¬ e.Carries n := fun carries => carries.not_idle idle
    simp [or_and_right, exists_or, silent]
  grows fs n last := by
    obtain ⟨rfl, one⟩ := lastSequence?_eq_some.1 last
    have grown : (s.run h es).1.highest ≤ (s.run h (es ++ fs)).1.highest := by
      refine (reaches_run s h _ _ one).2 ?_
      obtain start | ⟨m, ⟨e, mem, carries⟩, le⟩ := (reaches_run s h es _ one).1 le_rfl
      · exact .inl start
      · exact .inr ⟨m, ⟨e, List.mem_append_left fs mem, carries⟩, le⟩
    exact ⟨_, grown, lastSequence?_eq_some.2 ⟨rfl, one.trans grown⟩⟩
  unordered t k fs start same :=
    (reaches_run s h es).ends ((reaches_run t k fs).congr fun n => by simp only [same]) start

def announced (event : String) (sequence : UInt64) (payload : Json) : Envelope :=
  ⟨Envelope.opDispatch, some event, some sequence, payload⟩

def motley : List Envelope :=
  [announced "TYPING_START" 3 .null,
    announced "CHANNEL_CREATE" 5 (.object [("id", .string "20"), ("type", .integer 0), ("guild_id", .string "3")]),
    announced "CHANNEL_CREATE" 9 .null,
    ⟨Envelope.opHello, none, some 11, .object [("heartbeat_interval", .integer 1)]⟩,
    announced "TYPING_START" 0 .null]

theorem resumes_motley :
    let crowded : Hub := { Hub.empty with store := Store.run [.dispatch (.guildCreate (.bare ⟨3⟩))] }
    Session.empty.Resumes .empty motley ∧
      (Session.empty.run .empty motley).2.2.map Outcome.isApplied = [true, false, false, false, true] ∧
      (Session.empty.run .empty motley).1.lastSequence? = some 5 ∧
      (Session.empty.run crowded motley).2.2.map Outcome.isApplied = [true, true, false, false, true] ∧
      (Session.empty.run crowded (motley.reverse ++ motley)).1.lastSequence? = some 5 := by
  intro crowded
  have resumes := Session.resumes .empty .empty motley
  have last : (Session.empty.run .empty motley).1.lastSequence? = some 5 := by decide +kernel
  have again : ∀ e, e ∈ motley.reverse ++ motley ↔ e ∈ motley := by simp
  exact ⟨resumes, by decide +kernel, last, by decide +kernel, (resumes.unordered .empty crowded _ rfl again).trans last⟩

end Session

/-! ## Clusters -/

namespace Cluster

variable {ι : Type} [DecidableEq ι]

theorem reaches_call (c : Cluster ι) (i : ι) (x : Call ι) :
    (c.sessions i).Reaches ((c.call x).1.sessions i) fun n => ∃ e, x = .process i e ∧ e.Carries n := by
  by_cases mine : i = x.shard
  · subst mine
    cases x with
    | process j e =>
      have own : (c.call (.process j e)).1.sessions j = ((c.sessions j).process c.hub e).1 := if_pos rfl
      rw [Call.shard, own]
      exact (Session.reaches_process _ _ e).congr fun n => by simp
    | apply j d =>
      have own : (c.call (.apply j d)).1.sessions j = ((c.sessions j).apply c.hub d).1 := if_pos rfl
      intro n _
      rw [Call.shard, own, Session.highest_apply]
      simp
  · have other : (c.call x).1.sessions i = c.sessions i := by cases x <;> exact if_neg mine
    have foreign : ∀ e, x ≠ .process i e := by
      rintro e rfl
      exact mine rfl
    rw [other]
    exact (Session.Reaches.refl _).congr fun n => by simp [foreign]

theorem reaches_serve (c : Cluster ι) (i : ι) (calls : List (Call ι)) :
    (c.sessions i).Reaches ((c.serve calls).sessions i) fun n => ∃ e, .process i e ∈ calls ∧ e.Carries n := by
  induction calls generalizing c with
  | nil => exact (Session.Reaches.refl _).congr fun n => by simp
  | cons x calls ih =>
    refine ((reaches_call c i x).trans (ih _)).congr fun n => ?_
    simp only [List.mem_cons, or_and_right, exists_or, eq_comm]

theorem lastSequence?_serve (c : Cluster ι) (i : ι) (calls : List (Call ι)) (n : Nat) :
    ((c.serve calls).sessions i).lastSequence? = some n ↔
      IsGreatest {m | (c.sessions i).lastSequence? = some m ∨ ∃ e, .process i e ∈ calls ∧ e.Carries m} n :=
  (reaches_serve c i calls).some_iff fun _ ⟨_, _, carries⟩ => carries.positive

end Cluster
end GuildFeed
