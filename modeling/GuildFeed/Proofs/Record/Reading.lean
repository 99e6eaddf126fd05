import GuildFeed.Proofs.Text.Numeral
import GuildFeed.Record.Shape
import GuildFeed.Rendering

namespace GuildFeed

/-- Whatever stands for `a` is read as `a`, and `null` does not stand for it. -/
structure Reader.Undoes {α : Type} (read : Reader α) (r : Rendering α) (a : α) : Prop where
  read_eq {v : Json} (stands : r a v) : read v = .ok a
  solid : ¬ r a .null

def Shape.Finds {α : Type} (s : Shape α) (fs : Json.Fields) (a : α) : Prop := s.fromObject fs = .ok a

/-! ## Plain values -/

namespace Reader

theorem Undoes.map {α β : Type} {read : Reader α} {r : Rendering α} {a : α} {v : Json} (undoes : read.Undoes r a)
    (f : α → β) (stands : r a v) : (read v).map f = .ok (f a) := by
  rw [undoes.read_eq stands, Except.map]

theorem Undoes.option_eq {α : Type} {read : Reader α} {r : Rendering α} {a : α} {v : Json}
    (undoes : read.Undoes r a) (stands : r a v) : Reader.option read v = .ok (some a) := by
  unfold option
  split
  · exact absurd stands undoes.solid
  · exact undoes.map some stands

theorem undoes_string (s : String) : Reader.string.Undoes .string s where
  read_eq := by rintro _ rfl; rfl
  solid := nofun

theorem undoes_bool (b : Bool) : Reader.bool.Undoes .bool b where
  read_eq := by rintro _ rfl; rfl
  solid := nofun

theorem integer_ok {wanted : Wanted} {lo hi n : Int} (above : lo ≤ n) (below : n < hi) :
    Reader.integer wanted lo hi (.integer n) = .ok n :=
  if_pos ⟨above, below⟩

theorem natural_ok {bits n : Nat} (fits : n < 1 <<< bits) : Reader.natural bits (.integer n) = .ok n := by
  rw [natural, integer_ok (Int.natCast_nonneg n) (Int.ofNat_lt.2 fits)]
  rfl

theorem undoes_u8 (n : UInt8) : Reader.u8.Undoes .u8 n where
  read_eq := by
    rintro _ rfl
    rw [u8, natural_ok n.toNat_lt, Except.map, UInt8.ofNat_toNat]
  solid := nofun

theorem undoes_u32 (n : UInt32) : Reader.u32.Undoes .u32 n where
  read_eq := by
    rintro _ rfl
    rw [u32, natural_ok n.toNat_lt, Except.map, UInt32.ofNat_toNat]
  solid := nofun

theorem undoes_u64 (n : UInt64) : Reader.u64.Undoes .u64 n where
  read_eq := by
    rintro _ rfl
    rw [u64, natural_ok n.toNat_lt, Except.map, UInt64.ofNat_toNat]
  solid := nofun

theorem undoes_i64 (n : Int64) : Reader.i64.Undoes .i64 n where
  read_eq := by
    rintro _ rfl
    have above : -0x8000000000000000 ≤ n.toInt := n.le_toInt
    have below : n.toInt < 0x8000000000000000 := n.toInt_lt
    rw [i64, integer_ok above below, Except.map, Int64.ofInt_toInt]
  solid := nofun

theorem undoes_word (w : UInt64) : Reader.word.Undoes .word w where
  read_eq := by
    rintro _ (_ | denotes)
    · have fits : (0 : Int) ≤ w.toNat ∧ (w.toNat : Int) < UInt64.size :=
        ⟨Int.natCast_nonneg _, Int.ofNat_lt.2 w.toNat_lt⟩
      rw [word, if_pos fits, Int.toNat_natCast, UInt64.ofNat_toNat]
    · simp only [word, Text.word?_eq_some_iff.2 denotes]
  solid := nofun

theorem undoes_list {α : Type} {read : Reader α} {r : Rendering α} {as : List α}
    (each : ∀ a ∈ as, read.Undoes r a) : (Reader.list read).Undoes (.list r) as where
  read_eq := by
    rintro _ ⟨items⟩
    rw [list]
    induction items with
    | nil => rfl
    | cons stands _ ih =>
      have rest := ih fun a mem => each a (List.mem_cons_of_mem _ mem)
      rw [List.mapM_cons, (each _ List.mem_cons_self).read_eq stands, rest]
      rfl
  solid := nofun

theorem undoes_object {α : Type} {name : String} {s : Shape α} {p : α → Json.Fields → Prop} {a : α}
    (finds : ∀ fs, p a fs → s.Finds fs a) : (s.read name).Undoes (.object p) a where
  read_eq := by
    rintro _ ⟨known⟩
    rw [Shape.read, Shape.readWith, finds _ known, Gathered.toExcept]
  solid := nofun

end Reader

theorem Snowflake.undoes_read {kind : Kind} (id : Snowflake kind) : Snowflake.read.Undoes rendering id where
  read_eq := (Reader.undoes_word id.word).map _
  solid := (Reader.undoes_word id.word).solid

theorem Permissions.undoes_read (p : Permissions) : Permissions.read.Undoes rendering p where
  read_eq := (Reader.undoes_word p.bits).map _
  solid := (Reader.undoes_word p.bits).solid

theorem ChannelKind.ofNumber_number {k : ChannelKind} (proper : k.Proper) : ofNumber k.number = k := by
  cases k with
  | unknown n =>
    simp only [Proper, List.map_cons, List.map_nil, number, List.mem_cons, List.not_mem_nil, or_false, not_or,
      ← UInt8.toNat_inj, UInt8.toNat_zero, UInt8.reduceToNat] at proper
    rw [number, ofNumber]
    split <;> simp_all
  | _ => rfl

theorem ChannelKind.undoes_read {k : ChannelKind} (proper : k.Proper) : ChannelKind.read.Undoes rendering k where
  read_eq := by
    rintro _ rfl
    rw [read, render, Json.ofNat, (Reader.undoes_u8 k.number).read_eq rfl, Except.map, ofNumber_number proper]
  solid := nofun

theorem ActivityKind.undoes_read (k : ActivityKind) : ActivityKind.read.Undoes rendering k where
  read_eq := by
    rintro _ rfl
    cases k <;> rfl
  solid := nofun

theorem Status.undoes_read (s : Status) : Status.read.Undoes Rendered s where
  read_eq := by
    rintro _ (_ | _)
    · cases s <;> decide
    · decide
  solid := nofun

/-! ## Fields -/

namespace Shape
variable {α β : Type} {fs : Json.Fields}

theorem Finds.map {s : Shape α} {a : α} (finds : s.Finds fs a) (f : α → β) : (f <$> s).Finds fs (f a) :=
  Gathered.seq_eq_ok.2 ⟨f, a, rfl, finds, rfl⟩

theorem Finds.seq {f : Shape (α → β)} {s : Shape α} {g : α → β} {a : α} (first : f.Finds fs g)
    (rest : s.Finds fs a) : (f <*> s).Finds fs (g a) :=
  Gathered.seq_eq_ok.2 ⟨g, a, first, rest, rfl⟩

end Shape

namespace Json

theorem find?_zipIdx (fs : Fields) (k : String) (n : Nat) :
    ((fs.zipIdx n).find? (·.1.1 = k)).map (·.1.2) = fs.lookup k := by
  induction fs generalizing n with
  | nil => rfl
  | cons f fs ih =>
    rw [List.zipIdx_cons, List.find?_cons, Fields.lookup_cons]
    by_cases here : f.1 = k
    · simp [here]
    · simp [here, Ne.symm here, ih]

theorem map_field? (fs : Fields) (k : String) : (field? fs k).map (·.2) = fs.lookup k := by
  rw [← find?_zipIdx fs k 0, field?, Option.map_map]
  rfl

theorem field?_of_lookup {fs : Fields} {k : String} {v : Json} (holds : fs.lookup k = some v) :
    ∃ place, field? fs k = some (place, v) := by
  rw [← map_field?, Option.map_eq_some_iff] at holds
  obtain ⟨⟨place, v⟩, found, rfl⟩ := holds
  exact ⟨place, found⟩

theorem field?_of_lacks {fs : Fields} {k : String} (lacks : fs.lookup k = none) : field? fs k = none := by
  rwa [← map_field?, Option.map_eq_none_iff] at lacks

namespace Fields

variable {α : Type} {fs : Fields} {name other : String} {r : Rendering α} {read : Reader α}

theorem finds_field {a : α} {v : Json} (found : fs.lookup name = some v) (reads : read v = .ok a)
    (inObject inArray : Option α) : (Shape.field name read inObject inArray).Finds fs a := by
  obtain ⟨place, found⟩ := field?_of_lookup found
  simp only [Shape.Finds, Shape.field, found, reads, Gathered.ofExcept]

theorem finds_lacking {a : α} (lacks : fs.lookup name = none) (inArray : Option α) :
    (Shape.field name read (some a) inArray).Finds fs a := by
  simp only [Shape.Finds, Shape.field, field?_of_lacks lacks, Shape.orElse]

theorem Required.finds {a : α} (field : fs.Required name r a) (undoes : read.Undoes r a) :
    (Shape.required name read).Finds fs a := by
  obtain ⟨v, found, stands⟩ := field
  exact finds_field found (undoes.read_eq stands) _ _

theorem Defaulted.finds {default a : α} (field : fs.Defaulted name default r a) (undoes : read.Undoes r a) :
    (Shape.defaulted name default read).Finds fs a := by
  cases field with
  | omitted lacks => exact finds_lacking lacks _
  | given holds =>
    obtain ⟨v, found, stands⟩ := holds
    exact finds_field found (undoes.read_eq stands) _ _

theorem Optional.finds {o : Option α} (field : fs.Optional name r o) (undoes : ∀ a, read.Undoes r a) :
    (Shape.optional name read).Finds fs o := by
  cases field with
  | omitted lacks => exact finds_lacking lacks _
  | null holds =>
    have reads : Reader.option read .null = .ok none := rfl
    exact finds_field holds reads _ _
  | given holds =>
    obtain ⟨v, found, stands⟩ := holds
    exact finds_field found ((undoes _).option_eq stands) _ _

theorem Patched.read_eq {p : Patch α} {v : Json} (field : fs.Patched name r p) (found : fs.lookup name = some v)
    (undoes : ∀ a, p = .value a → read.Undoes r a) : Patch.read read v = .ok p := by
  cases field with
  | absent lacks =>
    rw [lacks] at found
    cases found
  | null holds =>
    cases holds.symm.trans found
    rfl
  | value holds =>
    obtain ⟨_, held, stands⟩ := holds
    cases held.symm.trans found
    rw [Patch.read, (undoes _ rfl).option_eq stands]
    rfl

theorem Patched.eq_absent {p : Patch α} (field : fs.Patched name r p) (lacks : fs.lookup name = none) :
    p = .absent := by
  cases field with
  | absent => rfl
  | null holds =>
    rw [lacks] at holds
    cases holds
  | value holds =>
    obtain ⟨_, held, -⟩ := holds
    rw [lacks] at held
    cases held

theorem Patched.finds {p : Patch α} (field : fs.Patched name r p) (undoes : ∀ a, p = .value a → read.Undoes r a) :
    (Shape.patched name read).Finds fs p := by
  cases found : fs.lookup name with
  | none =>
    rw [field.eq_absent found]
    exact finds_lacking found _
  | some v => exact finds_field found (field.read_eq found undoes) _ _

theorem PatchedEither.finds {p : Patch α} (field : fs.PatchedEither name other r p)
    (undoes : ∀ a, read.Undoes r a) : (Shape.patchedEither name other read).Finds fs p := by
  obtain ⟨field, lacks⟩ | ⟨field, lacks⟩ := field
  · cases found : fs.lookup name with
    | none =>
      rw [field.eq_absent found]
      simp only [Shape.Finds, Shape.patchedEither, field?_of_lacks found, field?_of_lacks lacks]
    | some v =>
      obtain ⟨place, under⟩ := field?_of_lookup found
      simp only [Shape.Finds, Shape.patchedEither, under, field?_of_lacks lacks,
        field.read_eq found fun a _ => undoes a, Gathered.ofExcept]
  · cases found : fs.lookup other with
    | none =>
      rw [field.eq_absent found]
      simp only [Shape.Finds, Shape.patchedEither, field?_of_lacks found, field?_of_lacks lacks]
    | some v =>
      obtain ⟨place, under⟩ := field?_of_lookup found
      simp only [Shape.Finds, Shape.patchedEither, under, field?_of_lacks lacks,
        field.read_eq found fun a _ => undoes a, Gathered.ofExcept]

end Fields
end Json
end GuildFeed
