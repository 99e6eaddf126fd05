import GuildFeed.Bus.History

namespace GuildFeed

def Inbox.Counted (i : Inbox) : Prop := i.unread = i.queue.size

namespace Inbox

variable {i : Inbox}

theorem counted_iff : i.Counted ↔ i.unread = i.queue.toList.length := by rw [Counted, Queue.length_toList]

theorem counted_empty : empty.Counted := rfl

theorem Counted.put (counted : i.Counted) (e : Event) : (i.put e).Counted := by
  rw [counted_iff] at counted ⊢
  simp [Inbox.put, counted]

theorem Counted.take {j : Inbox} {e : Event} (counted : i.Counted) (taken : i.take? = some (e, j)) : j.Counted := by
  obtain ⟨⟨f, queue⟩, popped, same⟩ := Option.bind_eq_some_iff.1 taken
  obtain ⟨-, rfl⟩ := Prod.mk.inj (Option.some.inj same)
  rw [counted_iff] at counted ⊢
  rw [Queue.toList_of_pop? popped, List.length_cons] at counted
  simp [counted]

end Inbox

namespace Bus

variable {b c : Bus} {log : List Happening} {y : Happening} {id : StreamId}

theorem since?_concat {rest : List Happening} :
    since? id (log ++ [y]) = some rest ↔
      (∃ before, since? id log = some before ∧ rest = before ++ [y]) ∨
        since? id log = none ∧ y = .subscribed id ∧ rest = [] := by
  induction log with
  | nil =>
    cases y with
    | subscribed other => simp [since?, eq_comm]
    | _ => simp [since?]
  | cons x log ih =>
    cases x with
    | subscribed other =>
      simp only [List.cons_append, since?]
      split
      · simp [eq_comm]
      · exact ih
    | _ => exact ih

theorem aliveSince_concat {rest : List Happening} :
    AliveSince (log ++ [y]) id rest ↔
      (∃ before, AliveSince log id before ∧ y ≠ .dropped id ∧ rest = before ++ [y]) ∨
        since? id log = none ∧ y = .subscribed id ∧ rest = [] := by
  unfold AliveSince
  rw [since?_concat]
  constructor
  · rintro ⟨⟨before, since, rfl⟩ | ⟨fresh, opened, rfl⟩, kept⟩
    · simp only [List.mem_append, List.mem_singleton, not_or] at kept
      exact .inl ⟨before, ⟨since, kept.1⟩, Ne.symm kept.2, rfl⟩
    · exact .inr ⟨fresh, opened, rfl⟩
  · rintro (⟨before, ⟨since, kept⟩, other, rfl⟩ | ⟨fresh, opened, rfl⟩)
    · refine ⟨.inl ⟨before, since, rfl⟩, ?_⟩
      simpa [kept] using Ne.symm other
    · exact ⟨.inr ⟨fresh, opened, rfl⟩, List.not_mem_nil⟩

theorem alive_concat :
    Alive (log ++ [y]) id ↔ Alive log id ∧ y ≠ .dropped id ∨ since? id log = none ∧ y = .subscribed id := by
  simp only [Alive, aliveSince_concat]
  grind

/-! ## One call -/

structure Sound (b : Bus) : Prop where
  senders : ∀ id, id ∈ b.senders ↔ id ∈ b.streams
  counted : ∀ (id : StreamId) (inbox : Inbox), b.streams[id]? = some inbox → inbox.Counted

/-- What a call can do to the streams, by what came of it. -/
structure Moves (b : Bus) (y : Happening) (c : Bus) : Prop where
  sound : c.Sound
  streams : ∀ id, id ∈ c.streams ↔ id ∈ b.streams ∧ y ≠ .dropped id ∨ y = .subscribed id
  fresh : ∀ id, y = .subscribed id → id = b.next ∧ id < c.next ∧ c.pending id = []
  later : b.next ≤ c.next
  moved : ∀ id, id ∈ b.streams → y ≠ .subscribed id → y ≠ .dropped id →
    (y.readBy? id).toList ++ c.pending id = b.pending id ++ y.published?.toList

theorem Sound.reaches (sound : b.Sound) : b.Reaches id ↔ id ∈ b.streams := by
  rw [Reaches, sound.senders, and_self]

theorem moves_subscribe (sound : b.Sound) : Moves b (.subscribed b.next) b.subscribe.1 where
  sound.senders id := by
    simp only [subscribe, Std.ExtTreeSet.mem_insert, Std.ExtTreeMap.mem_insert, sound.senders]
  sound.counted id inbox found := by
    simp only [subscribe, Std.ExtTreeMap.getElem?_insert] at found
    split at found
    · cases found
      exact Inbox.counted_empty
    · exact sound.counted id inbox found
  streams id := by
    simp only [subscribe, Std.ExtTreeMap.mem_insert, Std.LawfulEqCmp.compare_eq_iff_eq]
    grind
  fresh id opened := by
    cases opened
    exact ⟨rfl, Nat.lt_succ_self _, by rw [pending_subscribe, if_pos rfl]⟩
  later := Nat.le_succ _
  moved id _ other _ := by
    have kept : b.subscribe.1.pending id = b.pending id := by
      rw [pending_subscribe, if_neg fun same => other (congrArg _ same)]
    simp [kept, Happening.readBy?, Happening.published?]

theorem moves_publish (sound : b.Sound) (e : Event) : Moves b (.published e) (b.publish e) where
  sound.senders id := by rw [mem_senders_publish, mem_streams_publish, sound.reaches]
  sound.counted id inbox found := by
    rw [getElem?_publish] at found
    split at found
    · obtain ⟨before, held, rfl⟩ := Option.map_eq_some_iff.1 found
      exact (sound.counted id before held).put e
    · exact sound.counted id inbox found
  streams id := by simp [mem_streams_publish]
  fresh id opened := by cases opened
  later := Nat.le_refl _
  moved id there _ _ := pending_publish (sound.reaches.2 there) e

theorem moves_nothing (sound : b.Sound) (id : StreamId) : Moves b (.read id none) b where
  sound := sound
  streams := by simp
  fresh _ opened := by cases opened
  later := Nat.le_refl _
  moved other _ _ _ := by simp [Happening.readBy?, Happening.published?]

theorem moves_read (sound : b.Sound) {e : Event} (read : b.read? id = some (e, c)) :
    Moves b (.read id (some e)) c := by
  obtain ⟨first, others⟩ := pending_of_read? read
  obtain ⟨inbox, found, taken⟩ := Option.bind_eq_some_iff.1 read
  obtain ⟨⟨f, rest⟩, took, same⟩ := Option.bind_eq_some_iff.1 taken
  obtain ⟨rfl, rfl⟩ := Prod.mk.inj (Option.some.inj same)
  have held : id ∈ b.streams := by rw [Std.ExtTreeMap.mem_iff_isSome_getElem?, found]; rfl
  have streams (other : StreamId) : other ∈ b.streams.insert id rest ↔ other ∈ b.streams := by
    simp only [Std.ExtTreeMap.mem_insert, Std.LawfulEqCmp.compare_eq_iff_eq]
    grind
  constructor
  · constructor
    · intro other
      rw [streams, sound.senders]
    · intro other inbox there
      simp only [Std.ExtTreeMap.getElem?_insert] at there
      split at there
      · cases there
        exact (sound.counted id _ found).take took
      · exact sound.counted other inbox there
  · simpa using streams
  · exact fun _ opened => nomatch opened
  · exact Nat.le_refl _
  · intro other _ _ _
    by_cases same : id = other
    · subst same
      simp [Happening.readBy?, Happening.published?, first]
    · simp [Happening.readBy?, Happening.published?, same, others other same]

theorem moves_unsubscribe (sound : b.Sound) (id : StreamId) : Moves b (.dropped id) (b.unsubscribe id) where
  sound.senders other := by
    simp only [unsubscribe, Std.ExtTreeSet.mem_erase, Std.ExtTreeMap.mem_erase, sound.senders]
  sound.counted other inbox found := by
    simp only [unsubscribe, Std.ExtTreeMap.getElem?_erase] at found
    split at found
    · cases found
    · exact sound.counted other inbox found
  streams other := by
    simp only [unsubscribe, Std.ExtTreeMap.mem_erase, ne_eq, Std.LawfulEqCmp.compare_eq_iff_eq]
    grind
  fresh _ opened := by cases opened
  later := Nat.le_refl _
  moved other _ _ kept := by
    have same : (b.unsubscribe id).pending other = b.pending other := by
      rw [pending_unsubscribe, if_neg fun same => kept (congrArg _ same)]
    simp [same, Happening.readBy?, Happening.published?]

theorem moves_call (sound : b.Sound) (x : Call) : Moves b (b.call x).2 (b.call x).1 := by
  cases x with
  | subscribe => exact moves_subscribe sound
  | publish e => exact moves_publish sound e
  | read id =>
    rw [call]
    cases read : b.read? id with
    | none => exact moves_nothing sound id
    | some p => exact moves_read sound read
  | drop id => exact moves_unsubscribe sound id

/-! ## Any number of calls -/

structure Traced (b : Bus) (log : List Happening) : Prop where
  sound : b.Sound
  alive : ∀ id, id ∈ b.streams ↔ Alive log id
  given : ∀ id rest, since? id log = some rest → id < b.next
  exact : ∀ id rest, AliveSince log id rest →
    rest.filterMap (·.readBy? id) ++ b.pending id = rest.filterMap (·.published?)

theorem traced_empty : empty.Traced [] where
  sound.senders := by simp [empty]
  sound.counted := by simp [empty]
  alive := by simp [empty, Alive, AliveSince, since?]
  given _ _ since := by cases since
  exact _ _ alive := by cases alive.1

theorem Traced.fresh (traced : b.Traced log) (moves : Moves b y c) (opened : y = .subscribed id) :
    since? id log = none := by
  obtain ⟨rfl, -⟩ := moves.fresh id opened
  cases since : since? b.next log with
  | none => rfl
  | some rest => exact absurd (traced.given _ _ since) (Nat.lt_irrefl _)

theorem Traced.step (traced : b.Traced log) (moves : Moves b y c) : c.Traced (log ++ [y]) where
  sound := moves.sound
  alive id := by
    rw [moves.streams, traced.alive, alive_concat]
    exact or_congr_right ⟨fun opened => ⟨traced.fresh moves opened, opened⟩, And.right⟩
  given id rest since := by
    obtain ⟨before, given, -⟩ | ⟨-, opened, -⟩ := since?_concat.1 since
    · exact (traced.given id before given).trans_le moves.later
    · exact (moves.fresh id opened).2.1
  exact id rest alive := by
    -- the stream was alive before, or it is the one that was just given out
    obtain ⟨before, lives, kept, rfl⟩ | ⟨-, opened, rfl⟩ := aliveSince_concat.1 alive
    · have other : y ≠ .subscribed id := fun opened =>
        nomatch (traced.fresh moves opened).symm.trans lives.1
      have moved := moves.moved id ((traced.alive id).2 ⟨before, lives⟩) other kept
      have single {α : Type} (f : Happening → Option α) : [y].filterMap f = (f y).toList := by
        cases given : f y <;> simp [given]
      rw [List.filterMap_append, List.filterMap_append, single, single, List.append_assoc, moved,
        ← List.append_assoc, traced.exact id before lives]
    · simpa using (moves.fresh id opened).2.2

theorem Traced.serve (traced : b.Traced log) (xs : List Call) : (b.serve xs).1.Traced (log ++ (b.serve xs).2) := by
  induction xs generalizing b log with
  | nil => simpa [Bus.serve] using traced
  | cons x xs ih =>
    have rest := ih (traced.step (moves_call traced.sound x))
    rwa [List.append_assoc] at rest

/-! ## What a log says of the bus -/

theorem size_eq_ncard (s : Std.ExtTreeSet StreamId) : s.size = {id | id ∈ s}.ncard := by
  have listed : {id | id ∈ s} = s.toList.toFinset := by
    ext id
    simp
  rw [listed, Set.ncard_coe_finset, List.toFinset_card_of_nodup (nodup_toList s), Std.ExtTreeSet.length_toList]

theorem isGreatest_foldl_max (a : Nat) (l : List Nat) : IsGreatest (insert a {n | n ∈ l}) (l.foldl max a) := by
  induction l generalizing a with
  | nil => simp
  | cons n l ih =>
    obtain ⟨there, bound⟩ := ih (max a n)
    rw [List.foldl_cons]
    constructor
    · rcases there with there | there
      · rw [there]
        rcases max_choice a n with first | second
        · exact .inl first
        · exact .inr (by rw [second]; exact List.mem_cons_self)
      · exact .inr (List.mem_cons_of_mem n there)
    · have first := bound (Set.mem_insert (max a n) _)
      rintro m (rfl | later)
      · exact (le_max_left m n).trans first
      · rcases List.mem_cons.1 later with rfl | later
        · exact (le_max_right a m).trans first
        · exact bound (Set.mem_insert_of_mem _ later)

theorem Sound.counts (sound : b.Sound) (id : StreamId) :
    b.unread id = (b.pending id).length ∧ b.backlog id = (b.pending id).length := by
  have unread : b.unread id = (b.pending id).length := by
    rw [Bus.unread, pending]
    cases found : b.streams[id]? with
    | none => rfl
    | some inbox => exact Inbox.counted_iff.1 (sound.counted id inbox found)
  exact ⟨unread, by rw [backlog, unread, Int.toNat_natCast]⟩

theorem Sound.reached (sound : b.Sound) (e : Event) : (b.deliver e).2 = b.senders.size := by
  have all : b.senders.toList.filter (· ∈ b.streams) = b.senders.toList := by
    rw [List.filter_eq_self]
    intro id listed
    simpa [← sound.senders] using listed
  change (b.send e).reached = _
  rw [send, Delivery.foldl_send_counts.1, Nat.zero_add, all, Std.ExtTreeSet.length_toList]

theorem head?_pending (b : Bus) (id : StreamId) : (b.read? id).map Prod.fst = (b.pending id).head? := by
  cases read : b.read? id with
  | some p =>
    rw [(pending_of_read? read).1]
    rfl
  | none =>
    rw [pending]
    cases found : b.streams[id]? with
    | none => rfl
    | some inbox =>
      have dry : inbox.queue.toList = [] := by
        rw [← Queue.pop?_eq_none_iff]
        cases popped : inbox.queue.pop? with
        | none => rfl
        | some p => simp [read?, found, Inbox.take?, popped] at read
      simp [dry]

theorem Traced.delivers (traced : b.Traced log) : b.Delivers log := by
  have living : {id | id ∈ b.senders} = {id | Alive log id} := by
    ext id
    exact (traced.sound.senders id).trans (traced.alive id)
  have backlogs : {n | n ∈ b.senders.toList.map b.backlog} =
      (fun id => (b.pending id).length) '' {id | Alive log id} := by
    ext n
    simp [← living, (traced.sound.counts _).2]
  constructor
  · exact traced.exact
  · exact fun id _ => b.head?_pending id
  · exact fun id _ => traced.sound.counts id
  · intro e
    rw [traced.sound.reached, size_eq_ncard, living]
  · rw [Bus.subscribers, size_eq_ncard, living]
  · rw [← backlogs]
    exact isGreatest_foldl_max 0 _

/-- Every stream of a history is delivered what was published since it was given out. -/
theorem delivers_serve (xs : List Call) : (empty.serve xs).1.Delivers (empty.serve xs).2 :=
  (traced_empty.serve xs).delivers

end Bus
end GuildFeed
