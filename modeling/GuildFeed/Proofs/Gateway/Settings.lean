import GuildFeed.Proofs.Gateway.Replay
import GuildFeed.Proofs.Text.Numeral
import GuildFeed.Proofs.Text.Trimming

namespace GuildFeed.Settings

variable {lookup : String → Option String} {given : String} {s : Settings} {h : Hub}

def TellsCapacity (given : String) (n : Nat) : Prop :=
  ∃ text, Text.Trims given.toList text ∧ Text.Denotes text n

def TellsCluster (given : String) (n : Nat) : Prop :=
  ∃ text name, Text.Trims given.toList text ∧ Text.LastSegment '-' text name ∧ Text.Denotes name n

structure Told (lookup : String → Option String) (s : Settings) : Prop where
  capacity : (lookup capacityVariable).elim (s.queueCapacity = default.queueCapacity)
    (TellsCapacity · s.queueCapacity.toNat)
  cluster : (lookup clusterVariable).elim (s.clusterId = default.clusterId) (TellsCluster · s.clusterId.toNat)

theorem readCapacity_eq_ok {n : UInt64} : readCapacity given = .ok n ↔ TellsCapacity given n.toNat := by
  have word : readCapacity given = .ok n ↔ Text.word? (Text.trim given.toList) = some n := by
    unfold readCapacity
    split <;> simp_all
  rw [word, Text.word?_eq_some_iff]
  constructor
  · exact fun denotes => ⟨_, Text.trims_trim _, denotes⟩
  · rintro ⟨text, trims, denotes⟩
    rwa [Text.trim_eq_iff.2 trims]

theorem readCluster_eq_ok {n : UInt64} : readCluster given = .ok n ↔ TellsCluster given n.toNat := by
  have word : readCluster given = .ok n ↔ Text.word? (Text.lastSegment '-' (Text.trim given.toList)) = some n := by
    unfold readCluster
    split <;> simp_all
  rw [word, Text.word?_eq_some_iff]
  constructor
  · exact fun denotes => ⟨_, _, Text.trims_trim _, Text.lastSegment_eq_iff.1 rfl, denotes⟩
  · rintro ⟨text, name, trims, last, denotes⟩
    rwa [Text.trim_eq_iff.2 trims, Text.lastSegment_eq_iff.2 last]

theorem check_eq_ok : s.check = .ok () ↔ 1 ≤ s.queueCapacity.toNat := by
  have zero : s.queueCapacity = 0 ↔ s.queueCapacity.toNat = 0 := UInt64.toNat_inj.symm
  unfold check
  split
  · simp_all
  · simp_all
    omega

theorem elim_eq_ok {given : Option String} {read : String → Except Fault UInt64} {tells : String → UInt64 → Prop}
    (reads : ∀ {text n}, read text = .ok n ↔ tells text n) {d n : UInt64} :
    given.elim (.ok d) read = .ok n ↔ given.elim (n = d) (tells · n) := by
  cases given with
  | none => simp [eq_comm]
  | some text => exact reads

theorem ofEnvironment_eq_ok : ofEnvironment lookup = .ok s ↔ Told lookup s ∧ 1 ≤ s.queueCapacity.toNat := by
  rw [ofEnvironment_eq]
  constructor
  · intro accepted
    obtain ⟨room, capacity, accepted⟩ := bind_eq_ok.1 accepted
    obtain ⟨id, cluster, accepted⟩ := bind_eq_ok.1 accepted
    obtain ⟨_, valid, made⟩ := bind_eq_ok.1 accepted
    obtain rfl := Except.ok.inj made
    exact ⟨⟨(elim_eq_ok readCapacity_eq_ok).1 capacity, (elim_eq_ok readCluster_eq_ok).1 cluster⟩,
      check_eq_ok.1 valid⟩
  · rintro ⟨⟨capacity, cluster⟩, room⟩
    refine bind_eq_ok.2 ⟨_, (elim_eq_ok readCapacity_eq_ok).2 capacity, ?_⟩
    refine bind_eq_ok.2 ⟨_, (elim_eq_ok readCluster_eq_ok).2 cluster, ?_⟩
    exact bind_eq_ok.2 ⟨(), check_eq_ok.2 room, rfl⟩

theorem start_eq_tooMuchRoom : Intake.start s h = .error .tooMuchRoom ↔ Intake.mostRoom < s.queueCapacity.toNat := by
  unfold Intake.start check
  by_cases zero : s.queueCapacity = 0
  · simp [zero]
  · simp [zero]

structure Startable (lookup : String → Option String) : Prop where
  accepts : ∀ s, ofEnvironment lookup = .ok s ↔
    Told lookup s ∧ 1 ≤ s.queueCapacity.toNat ∧ s.queueCapacity.toNat ≤ Intake.mostRoom
  starts : ∀ s h, ofEnvironment lookup = .ok s → ∃ i, Intake.start s h = .ok i

/-- Settings are accepted as they are told if there is any room, and refused at the start for too
much of it only. The check lets that pass, so all that is accepted can start exactly if the
environment tells of no more room than there can be. -/
theorem startable_iff (lookup : String → Option String) :
    (∀ s, ofEnvironment lookup = .ok s ↔ Told lookup s ∧ 1 ≤ s.queueCapacity.toNat) ∧
      (∀ s h, Intake.start s h = .error .tooMuchRoom ↔ Intake.mostRoom < s.queueCapacity.toNat) ∧
      (Startable lookup ↔ ∀ s, Told lookup s → s.queueCapacity.toNat ≤ Intake.mostRoom) := by
  refine ⟨fun _ => ofEnvironment_eq_ok, fun _ _ => start_eq_tooMuchRoom, ?_, ?_⟩
  · intro startable s told
    by_contra vast
    have room : 1 ≤ s.queueCapacity.toNat := by omega
    exact vast ((startable.accepts s).1 (ofEnvironment_eq_ok.2 ⟨told, room⟩)).2.2
  · intro fits
    refine ⟨fun s => ?_, fun s h accepted => ?_⟩
    · rw [ofEnvironment_eq_ok]
      exact ⟨fun ⟨told, room⟩ => ⟨told, room, fits s told⟩, fun ⟨told, room, _⟩ => ⟨told, room⟩⟩
    · obtain ⟨told, room⟩ := ofEnvironment_eq_ok.1 accepted
      rw [Intake.start_of_check (check_eq_ok.2 room), if_pos (fits s told)]
      exact ⟨_, rfl⟩

def pod (name : String) : Option String :=
  if name = capacityVariable then some " +016\n"
  else if name = clusterVariable then some "strata-eu-03 "
  else none

theorem startable_pod : Told pod ⟨16, 3⟩ ∧ ofEnvironment pod = .ok ⟨16, 3⟩ ∧ Startable pod := by
  obtain ⟨accepts, -, startable⟩ := startable_iff pod
  have accepted : ofEnvironment pod = .ok ⟨16, 3⟩ := by decide +kernel
  refine ⟨((accepts _).1 accepted).1, accepted, startable.2 fun s told => ?_⟩
  have sixteen : readCapacity " +016\n" = .ok 16 := by decide +kernel
  rw [← Except.ok.inj (sixteen.symm.trans (readCapacity_eq_ok.2 told.capacity))]
  decide

theorem not_startable_vastRoom : ¬ ∀ lookup, Startable lookup := by
  intro all
  obtain ⟨i, started⟩ := (all Replay.vastRoom).starts ⟨2305843009213693952, 0⟩ .empty rfl
  rw [start_eq_tooMuchRoom.2 (by decide)] at started
  cases started

end GuildFeed.Settings
