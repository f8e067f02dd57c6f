import EdgeSieve.Proofs.Criteria.Target
import EdgeSieve.Proofs.Sieve.Conditions
import Mathlib.Data.List.Infix

namespace EdgeSieve

def segments (name : String) : List (List Char) := name.toList.splitOn '.'

def joined (parts : List (List Char)) : String := .ofList (['.'].intercalate parts)

def lineage (name : String) : List String :=
  ((segments name).inits.filter (· ≠ [])).map joined

theorem not_mem_of_mem_splitOn {a : Char} {text part : List Char} (h : part ∈ text.splitOn a) :
    a ∉ part := by
  induction text generalizing part with
  | nil =>
    rw [List.splitOn_nil, List.mem_singleton] at h
    simp [h]
  | cons b text ih =>
    rw [List.splitOn_cons_eq_if_modifyHead] at h
    split at h
    · rcases List.mem_cons.mp h with rfl | later
      · exact List.not_mem_nil
      · exact ih later
    · next other =>
      -- The character goes to the first part, which there always is.
      obtain ⟨first, parts, split⟩ := List.exists_cons_of_ne_nil (List.splitOn_ne_nil a text)
      rw [split] at h ih
      rcases List.mem_cons.mp h with rfl | later
      · intro found
        rcases List.mem_cons.mp found with rfl | found
        · exact other (beq_self_eq_true _)
        · exact ih List.mem_cons_self found
      · exact ih (List.mem_cons_of_mem first later)

theorem segments_ne_nil (name : String) : segments name ≠ [] := List.splitOn_ne_nil _ _

theorem dot_not_mem_segment {name : String} : ∀ part ∈ segments name, '.' ∉ part :=
  fun _ => not_mem_of_mem_splitOn

@[simp] theorem joined_segments (name : String) : joined (segments name) = name := by
  rw [joined, segments, List.intercalate_splitOn, String.ofList_toList]

theorem segments_joined {parts : List (List Char)} (some : parts ≠ [])
    (undotted : ∀ part ∈ parts, '.' ∉ part) : segments (joined parts) = parts := by
  rw [segments, joined, String.toList_ofList]
  exact List.splitOn_intercalate '.' undotted some

theorem segments_injective : Function.Injective segments := by
  intro name other same
  simpa using congrArg joined same

@[simp] theorem segments_nested (outer rest : String) :
    segments (outer ++ "." ++ rest) = segments outer ++ segments rest := by
  rw [segments, String.toList_append, String.toList_append, List.append_assoc]
  exact List.splitOn_append_cons_self _ _

theorem segments_prefix_iff {outer inner : String} : segments outer <+: segments inner ↔
    inner = outer ∨ (outer ++ ".").toList <+: inner.toList := by
  constructor
  · rintro ⟨rest, split⟩
    by_cases ended : rest = []
    · left
      apply segments_injective
      rw [← split, ended, List.append_nil]
    · right
      have undotted : ∀ part ∈ rest, '.' ∉ part := fun part later =>
        dot_not_mem_segment part (split ▸ List.mem_append_right _ later)
      have whole : outer ++ "." ++ joined rest = inner := by
        apply segments_injective
        rw [segments_nested, segments_joined ended undotted, split]
      exact ⟨(joined rest).toList, by rw [← String.toList_append, whole]⟩
  · rintro (rfl | ⟨rest, begins⟩)
    · exact List.prefix_rfl
    · have whole : outer ++ "." ++ .ofList rest = inner := by
        apply String.ext
        rw [String.toList_append, String.toList_ofList, begins]
      rw [← whole, segments_nested]
      exact List.prefix_append _ _

theorem mem_lineage_iff {name ancestor : String} :
    ancestor ∈ lineage name ↔ segments ancestor <+: segments name := by
  simp only [lineage, List.mem_map, List.mem_filter, List.mem_inits, decide_eq_true_eq]
  constructor
  · rintro ⟨front, ⟨begins, some⟩, rfl⟩
    rwa [segments_joined some fun part h => dot_not_mem_segment part (begins.subset h)]
  · intro begins
    exact ⟨segments ancestor, ⟨begins, segments_ne_nil ancestor⟩, joined_segments ancestor⟩

example : lineage "a.b..c" = ["a", "a.b", "a.b.", "a.b..c"] := by cbv

namespace PackageRule

variable {r : PackageRule} {package : String}

theorem covers_iff_of_nested (h : r.nested = true) : r.covers package = true ↔
    ∃ name ∈ r.packages, segments name <+: segments package := by
  simp only [covers_iff, Covers, h, true_and, segments_prefix_iff]
  rfl

theorem covers_iff_of_exact (h : r.nested = false) :
    r.covers package = true ↔ package ∈ r.packages := by
  simp [covers, h]

theorem not_covers_unnamed (r : PackageRule) : ¬r.covers "" = true := by
  rw [covers_iff]
  rintro ⟨name, listed, rfl | ⟨_, begins⟩⟩
  · exact r.named listed
  · simp at begins

theorem named_insert {name longer : String} (listed : name ∈ r.packages)
    (longerThan : segments name <+: segments longer) : "" ∉ r.packages.insert longer := by
  rw [NameSet.mem_insert, not_or]
  refine ⟨?_, r.named⟩
  rintro rfl
  apply not_covers_unnamed { r with nested := true }
  exact (covers_iff_of_nested rfl).mpr ⟨name, listed, longerThan⟩

theorem covers_insert {wider : PackageRule} {name longer : String} (h : r.nested = true)
    (listed : name ∈ r.packages) (longerThan : segments name <+: segments longer)
    (packages : wider.packages = r.packages.insert longer) (nested : wider.nested = true) :
    wider.covers package = r.covers package := by
  rw [Bool.eq_iff_iff, covers_iff_of_nested h, covers_iff_of_nested nested, packages]
  constructor
  · rintro ⟨other, found, begins⟩
    rcases NameSet.mem_insert.mp found with rfl | found
    · exact ⟨name, listed, longerThan.trans begins⟩
    · exact ⟨other, found, begins⟩
  · rintro ⟨other, found, begins⟩
    exact ⟨other, NameSet.mem_insert.mpr (Or.inr found), begins⟩

end PackageRule

/-- With nested packages, a class is looked for just when the segments of a package that is listed
begin those of its own package, that is when this or a dotted ancestor of it is listed; else only
when its package itself is. So nesting loses no class, the unnamed package is never looked for, and
packages nested in one that is listed can be listed or not. -/
theorem packages_covered_by_segments (r : PackageRule) :
    (r.nested = true → ∀ c : ClassName, (TargetRule.packages r).accepts c = true ↔
        ∃ name ∈ r.packages, segments name <+: segments c.package) ∧
      (r.nested = true → ∀ c : ClassName, (TargetRule.packages r).accepts c = true ↔
        ∃ ancestor ∈ lineage c.package, ancestor ∈ r.packages) ∧
      (r.nested = false → ∀ c : ClassName, (TargetRule.packages r).accepts c = true ↔
        c.package ∈ r.packages) ∧
      (∀ c : ClassName, (TargetRule.packages { r with nested := false }).accepts c = true →
        (TargetRule.packages { r with nested := true }).accepts c = true) ∧
      (∀ c : ClassName, c.package = "" → (TargetRule.packages r).accepts c = false) ∧
      (r.nested = true → ∀ name ∈ r.packages, ∀ longer,
        segments name <+: segments longer →
        ∃ wider, PackageRule.ofSet (r.packages.insert longer) true = .ok wider ∧
          ∀ c, (TargetRule.packages wider).accepts c = (TargetRule.packages r).accepts c) := by
  refine ⟨?_, ?_, ?_, ?_, ?_, ?_⟩
  · intro nested c
    exact PackageRule.covers_iff_of_nested nested
  · intro nested c
    simp only [mem_lineage_iff, and_comm (b := _ ∈ r.packages)]
    exact PackageRule.covers_iff_of_nested nested
  · intro exact c
    exact PackageRule.covers_iff_of_exact exact
  · intro c accepted
    have listed : c.package ∈ r.packages :=
      (PackageRule.covers_iff_of_exact (r := { r with nested := false }) rfl).mp accepted
    exact (PackageRule.covers_iff_of_nested (r := { r with nested := true }) rfl).mpr
      ⟨c.package, listed, List.prefix_rfl⟩
  · intro c unnamed
    change r.covers c.package = false
    rw [unnamed]
    exact Bool.eq_false_iff.mpr r.not_covers_unnamed
  · intro nested name listed longer longerThan
    -- The wider set is one of named packages, since the longer name has the segments of one.
    refine ⟨⟨r.packages.insert longer, true, PackageRule.named_insert listed longerThan⟩,
      PackageRule.ofSet_ok_iff.mpr ⟨rfl, rfl⟩, fun c => ?_⟩
    exact PackageRule.covers_insert nested listed longerThan rfl rfl

namespace Sample

def nestingRule : PackageRule := ⟨.ofList ["a.b", "org"], true, by simp⟩

def exactRule : PackageRule := { nestingRule with nested := false }

end Sample

theorem packages_covered_by_segments_sample :
    Sample.nestingRule.nested = true ∧ "a.b" ∈ Sample.nestingRule.packages ∧
      (TargetRule.packages Sample.nestingRule).accepts ⟨"a/b/c/D"⟩ = true ∧
      ¬(TargetRule.packages Sample.nestingRule).accepts ⟨"a/bc/D"⟩ = true ∧
      (TargetRule.packages Sample.exactRule).accepts ⟨"a/b/D"⟩ = true ∧
      (TargetRule.packages Sample.nestingRule).accepts ⟨"a/b/D"⟩ = true ∧
      (TargetRule.packages Sample.nestingRule).accepts ⟨"D"⟩ = false ∧
      ∃ wider, PackageRule.ofSet (Sample.nestingRule.packages.insert "a.b..c") true = .ok wider ∧
        ∀ c, (TargetRule.packages wider).accepts c =
          (TargetRule.packages Sample.nestingRule).accepts c := by
  have listed : "a.b" ∈ Sample.nestingRule.packages := NameSet.mem_ofList.mpr (by simp)
  obtain ⟨covered, ancestors, -, widening, unnamed, widened⟩ :=
    packages_covered_by_segments Sample.nestingRule
  have exactly : (TargetRule.packages Sample.exactRule).accepts ⟨"a/b/D"⟩ = true :=
    ((packages_covered_by_segments Sample.exactRule).2.2.1 rfl _).mpr (by decide +kernel)
  refine ⟨rfl, listed, ?_, ?_, exactly, widening _ exactly, ?_, ?_⟩
  · exact (covered rfl _).mpr ⟨"a.b", listed, by decide +kernel⟩
  · rw [ancestors rfl]
    decide +kernel
  · exact unnamed _ (by decide +kernel)
  · exact widened rfl "a.b" listed "a.b..c" (by decide +kernel)

end EdgeSieve
