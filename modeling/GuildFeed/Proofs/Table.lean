import Mathlib.Algebra.BigOperators.Ring.Finset
import Std.Data.ExtTreeMap

namespace GuildFeed.Table

variable {κ α : Type} [Ord κ] [Std.TransOrd κ] [Std.LawfulEqOrd κ] {m : Std.ExtTreeMap κ α} {k : κ} {a : α}

theorem nodup_toList (m : Std.ExtTreeMap κ α) : m.toList.Nodup := by
  refine Std.ExtTreeMap.distinct_keys_toList.imp ?_
  rintro a _ other rfl
  exact other Std.ReflCmp.compare_self

theorem toList_perm (found : m[k]? = some a) : m.toList.Perm ((k, a) :: (m.erase k).toList) := by
  have absent : (k, a) ∉ (m.erase k).toList := by
    simp [Std.ExtTreeMap.mem_toList_iff_getElem?_eq_some]
  refine (List.perm_ext_iff_of_nodup (nodup_toList _) (List.nodup_cons.2 ⟨absent, nodup_toList _⟩)).2 ?_
  rintro ⟨j, b⟩
  rw [List.mem_cons, Std.ExtTreeMap.mem_toList_iff_getElem?_eq_some,
    Std.ExtTreeMap.mem_toList_iff_getElem?_eq_some, Std.ExtTreeMap.getElem?_erase, Prod.mk.injEq]
  by_cases same : j = k
  · subst same
    simp [found, eq_comm]
  · have apart : compare k j ≠ .eq := fun eq => same (Std.LawfulEqCmp.eq_of_compare eq).symm
    simp [same, apart]

theorem erase_eq_self (absent : k ∉ m) : m.erase k = m := by
  apply Std.ExtTreeMap.ext_getElem?
  intro j
  rw [Std.ExtTreeMap.getElem?_erase]
  split
  · next same => rw [← Std.LawfulEqCmp.eq_of_compare same, Std.ExtTreeMap.getElem?_eq_none absent]
  · rfl

theorem erase_insert (m : Std.ExtTreeMap κ α) (k : κ) (a : α) : (m.insert k a).erase k = m.erase k := by
  apply Std.ExtTreeMap.ext_getElem?
  intro j
  simp only [Std.ExtTreeMap.getElem?_erase, Std.ExtTreeMap.getElem?_insert]
  split <;> rfl

def total (f : α → Nat) (m : Std.ExtTreeMap κ α) : Nat := (m.toList.map fun p => f p.2).sum

theorem total_of_getElem? {f : α → Nat} (found : m[k]? = some a) : total f m = f a + total f (m.erase k) := by
  have same := ((toList_perm found).map fun p => f p.2).sum_nat
  rwa [List.map_cons, List.sum_cons] at same

theorem total_eq (f : α → Nat) (m : Std.ExtTreeMap κ α) (k : κ) :
    total f m = ((m[k]?).map f).getD 0 + total f (m.erase k) := by
  cases found : m[k]? with
  | some a => exact total_of_getElem? found
  | none =>
    have absent : k ∉ m := by simpa using found
    simp [erase_eq_self absent]

theorem total_insert (f : α → Nat) (m : Std.ExtTreeMap κ α) (k : κ) (a : α) :
    total f (m.insert k a) = f a + total f (m.erase k) := by
  rw [total_of_getElem? Std.ExtTreeMap.getElem?_insert_self, erase_insert]

end GuildFeed.Table
