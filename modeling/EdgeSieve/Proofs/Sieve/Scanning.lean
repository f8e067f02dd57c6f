import EdgeSieve.Proofs.ClassName
import EdgeSieve.Sieve

namespace EdgeSieve

namespace ClassName

theorem eq_of_dots_eq {text plain : String} (h : dots text = plain)
    (undotted : '.' ∉ plain.toList) : text = plain := by
  subst h
  refine (swap_of_not_mem fun slash => undotted ?_).symm
  rw [dots, toList_swap]
  exact List.mem_map.mpr ⟨'/', slash, rfl⟩

theorem newline_mem_dots {text : String} : '\n' ∈ (dots text).toList ↔ '\n' ∈ text.toList := by
  rw [dots, toList_swap, List.mem_map]
  constructor
  · rintro ⟨a, ha, same⟩
    split at same
    · cases same
    · exact same ▸ ha
  · intro newline
    exact ⟨'\n', newline, rfl⟩

def entry (c : ClassName) : String := c.binary ++ ".class"

theorem dots_entry (c : ClassName) : dots c.entry = c.dotted ++ ".class" := by
  have plain : dots ".class" = ".class" := swap_of_not_mem (by decide)
  rw [entry, dots_append, plain, dotted]

theorem dots_entry_ne_descriptor {c : ClassName} (h : c.entry ≠ Sieve.descriptor) :
    dots c.entry ≠ Sieve.descriptor := by
  intro same
  have module : c.dotted = "module-info" := by
    rw [dots_entry, show Sieve.descriptor = "module-info" ++ ".class" from rfl] at same
    exact (String.append_left_inj ".class").mp same
  apply h
  rw [entry, eq_of_dots_eq module (by decide)]
  rfl

end ClassName

open ClassName

def Archive.Holds (a : Archive) (p : Pattern) : Prop :=
  ∃ entry ∈ a.entries, dots entry ≠ Sieve.descriptor ∧ p.matchesAll (dots entry) = true

instance (a : Archive) (p : Pattern) : Decidable (a.Holds p) :=
  inferInstanceAs (Decidable (∃ entry ∈ a.entries, _ ∧ _))

namespace Sieve

variable {s : Sieve} {a : Archive}

theorem matchesClass_iff {name : String} :
    s.matchesClass name = true ↔ ∀ p ∈ s.included, p.matchesAll name = true := by
  unfold matchesClass
  cases s.included <;> simp

theorem matchesArchive_iff : s.matchesArchive a = true ↔
    (∀ p ∈ s.included, a.Holds p) ∧ (s.included = none → s.target.isSome = true) := by
  unfold matchesArchive matchesClass
  cases s.included <;> simp [Archive.Holds]

theorem includesModule_iff : s.includesModule a = true ↔
    a.module.isSystem = false ∨ ∃ p ∈ s.systemModules, p.matchesAll a.module.name = true := by
  unfold includesModule
  cases s.systemModules <;> simp

end Sieve

def Sieve.including (s : Sieve) (p : Pattern) : Sieve := { s with included := some p }

/-- An include pattern has the archives of all classes scanned that it matches just when it matches
the name of each of them with the suffix after it, too. -/
theorem matching_classes_have_archives_scanned_iff (s : Sieve) (p : Pattern) :
    (∀ (a : Archive) (c : ClassName), c.entry ≠ Sieve.descriptor → c.entry ∈ a.entries →
        (s.including p).matchesClass c.dotted = true → (s.including p).matchesArchive a = true) ↔
      ∀ c : ClassName, c.entry ≠ Sieve.descriptor → p.matchesAll c.dotted = true →
        p.matchesAll (c.dotted ++ ".class") = true := by
  constructor
  · intro agree c other matched
    -- An archive that holds the one class can only be scanned for the entry of that class.
    have scanned := agree ⟨"", .unnamed, [c.entry]⟩ c other List.mem_cons_self
      (Sieve.matchesClass_iff.mpr (by simpa [Sieve.including] using matched))
    obtain ⟨entry, held, _, found⟩ := (Sieve.matchesArchive_iff.mp scanned).1 p rfl
    rw [← dots_entry, ← List.mem_singleton.mp held]
    exact found
  · intro goesOn a c other held matched
    have found : p.matchesAll (dots c.entry) = true := by
      rw [dots_entry]
      exact goesOn c other (Sieve.matchesClass_iff.mp matched p rfl)
    refine Sieve.matchesArchive_iff.mpr ⟨?_, nofun⟩
    rintro q ⟨⟩
    exact ⟨c.entry, held, dots_entry_ne_descriptor other, found⟩

namespace Sample

def main : ClassName := ⟨"app/Main"⟩

def jar : Archive := ⟨"app.jar", .unnamed, [main.entry]⟩

def onlyMain : Pattern where
  text := "app\\.Main"
  regex := .spelled "app.Mai".toList (.char (.literal .exact 'n'.toNat))
  written := ⟨⟨fun _ => none⟩, rfl⟩

def ofMain : Sieve := { included := some onlyMain }

end Sample

/-- The pattern matches the class, but not its entry, which has a suffix more. -/
theorem class_matched_in_unmatched_archive :
    Sample.ofMain.included.isSome = true ∧ Sample.main.entry ≠ Sieve.descriptor ∧
      Sample.main.entry ∈ Sample.jar.entries ∧
      Sample.ofMain.matchesClass Sample.main.dotted = true ∧
      Sample.ofMain.matchesArchive Sample.jar = false := by
  refine ⟨rfl, by decide, List.mem_cons_self, ?_, ?_⟩
  · decide +kernel
  · decide +kernel

end EdgeSieve
