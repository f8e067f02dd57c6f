import EdgeSieve.NameSet
import Mathlib.Data.List.Dedup

namespace EdgeSieve.NameSet

theorem isEmpty_iff {s : NameSet} : s.isEmpty = true ↔ ∀ x, x ∉ s := by
  rw [isEmpty, List.isEmpty_iff, List.eq_nil_iff_forall_not_mem]
  rfl

theorem isEmpty_ofList {xs : List String} : (ofList xs).isEmpty = true ↔ xs = [] := by
  rw [isEmpty_iff, List.eq_nil_iff_forall_not_mem]
  simp

theorem nodup_toList (s : NameSet) : s.toList.Nodup := by
  apply s.increasing.imp
  intro x y before same
  rw [same] at before
  exact String.lt_irrefl y before

theorem size_ofList (xs : List String) : (ofList xs).size = xs.dedup.length := by
  apply List.Perm.length_eq
  apply (List.perm_ext_iff_of_nodup (nodup_toList _) (List.nodup_dedup xs)).mpr
  intro x
  rw [List.mem_dedup, ← mem_def, mem_ofList]

end EdgeSieve.NameSet
