import EdgeSieve.Proofs.Session.Replies
import EdgeSieve.Proofs.Sieve.Scanning

namespace EdgeSieve

def SystemName (name : String) : Prop :=
  ∃ start ∈ ["java.", "jdk.", "javafx."], ∃ rest : String, name = start ++ rest ∧ '\n' ∉ rest.toList

theorem Pattern.systemNames_matches_iff {name : String} :
    systemNames.matchesAll name = true ↔ SystemName name := by
  rw [matchesAll_systemNames]
  apply exists_congr
  intro start
  apply and_congr_right
  intro _
  constructor
  · rintro ⟨rest, same, oneLine⟩
    refine ⟨.ofList rest, ?_, by rwa [String.toList_ofList]⟩
    apply String.ext
    rw [same, String.toList_append, String.toList_ofList]
  · rintro ⟨rest, rfl, oneLine⟩
    exact ⟨rest.toList, String.toList_append, oneLine⟩

instance (name : String) : Decidable (SystemName name) :=
  decidable_of_iff _ Pattern.systemNames_matches_iff

theorem not_systemName_empty : ¬SystemName "" := by
  rintro ⟨start, known, rest, same, _⟩
  obtain ⟨rfl, -⟩ := String.append_eq_empty_iff.mp same.symm
  simp at known

namespace ModuleInfo

inductive Classified : ModuleInfo → Prop
  | named {name : String} {exports : List String} {isPlatform : Option Bool} :
      Classified (.named name exports isPlatform)
  | unnamed : Classified .unnamed

theorem isSystemName_iff {name : String} : isSystemName name = true ↔ SystemName name := by
  rw [isSystemName, Bool.and_eq_true, Pattern.systemNames_matches_iff, decide_eq_true_eq]
  refine and_iff_right_of_imp ?_
  rintro system rfl
  exact not_systemName_empty system

theorem Classified.isSystem_iff {m : ModuleInfo} (h : m.Classified) :
    m.isSystem = true ↔ SystemName m.name := by
  cases h with
  | named => exact isSystemName_iff
  | unnamed => simp [ModuleInfo.unnamed, not_systemName_empty]

end ModuleInfo

open History

variable {history : History} {s : Sieve}

theorem History.systemPattern_of_unset (unset : latest Setting.systemModules? none history = none) :
    history.systemPattern =
      if ∃ name ∈ history.names, SystemName name then some .systemNames else none := by
  simp only [History.systemPattern, unset, Pattern.systemNames_matches_iff]

theorem Sieve.Fits.includesModule_iff (fits : s.Fits history)
    (unset : latest Setting.systemModules? none history = none) {a : Archive} :
    s.includesModule a = true ↔ a.module.isSystem = false ∨
      (∃ name ∈ history.names, SystemName name) ∧ SystemName a.module.name := by
  rw [Sieve.includesModule_iff, fits.systemModules, systemPattern_of_unset unset]
  split
  · next named => simp [named, Pattern.systemNames_matches_iff]
  · next unnamed => simp [unnamed]

theorem Sieve.Fits.includes_classified (fits : s.Fits history)
    (unset : latest Setting.systemModules? none history = none)
    (named : ∃ name ∈ history.names, SystemName name) {a : Archive} (made : a.module.Classified) :
    s.includesModule a = true := by
  rw [fits.includesModule_iff unset]
  cases system : a.module.isSystem with
  | false => exact Or.inl rfl
  | true => exact Or.inr ⟨named, made.isSystem_iff.mp system⟩

theorem Sieve.Fits.includesModule_of_none_named (fits : s.Fits history)
    (unset : latest Setting.systemModules? none history = none)
    (none : ¬∃ name ∈ history.names, SystemName name) (a : Archive) :
    s.includesModule a = !a.module.isSystem := by
  rw [Bool.eq_iff_iff, fits.includesModule_iff unset, Bool.not_eq_true', or_iff_left]
  exact fun named => none named.1

/-- A module is one of the system's just when its name is a system name. In a session that leaves
the pattern for system modules unset, naming one has every module looked at that was made from its
name, and else the system's modules are passed over and no others. -/
theorem system_names_admit_system_modules (table : CharNames) :
    (∀ name exports isPlatform,
        (ModuleInfo.named name exports isPlatform).isSystem = true ↔ SystemName name) ∧
      (∀ exports isPlatform, (ModuleInfo.named "" exports isPlatform).isSystem = false) ∧
      ModuleInfo.unnamed.isSystem = false ∧
      ∀ (steps : List Step) (s : Sieve),
        latest Setting.systemModules? none (recorded table steps) = none →
        (steps.foldl (Criteria.after table) {}).sieve = .ok s →
        ((∃ name ∈ (recorded table steps).names, SystemName name) →
          ∀ a, a.module.Classified → s.includesModule a = true) ∧
        ((¬∃ name ∈ (recorded table steps).names, SystemName name) →
          ∀ a, s.includesModule a = !a.module.isSystem) := by
  refine ⟨?_, ?_, rfl, ?_⟩
  · intro name exports isPlatform
    exact ModuleInfo.isSystemName_iff
  · intro exports isPlatform
    exact Bool.eq_false_iff.mpr fun system =>
      not_systemName_empty (ModuleInfo.isSystemName_iff.mp system)
  · intro steps s unset made
    have fits : s.Fits (recorded table steps) := by
      rw [Criteria.foldl_after_eq] at made
      exact (Criteria.setAll_records (recorded table steps)).sieve_ok_iff.mp made
    exact ⟨fun named a => fits.includes_classified unset named,
      fits.includesModule_of_none_named unset⟩

namespace Sample

def noNames : CharNames where
  find? _ := none

/-- The first setting cannot be read, and the last one takes nothing back. -/
def requiringSql : List Step :=
  [.set (.systemModules (some "[")), .set (.requires "java.sql" ["java.sql"]),
    .ask (.matchesClass "app.Main"), .set (.systemModules none)]

def requiringNothing : List Step := [.set (.considered "java"), .set .dropBoth]

def compiler : Archive := ⟨"compiler.jar", .named "jdk.compiler" [] (some false), []⟩

end Sample

theorem system_names_admit_system_modules_sample :
    latest Setting.systemModules? none (recorded Sample.noNames Sample.requiringSql) = none ∧
      (∃ name ∈ (recorded Sample.noNames Sample.requiringSql).names, SystemName name) ∧
      (∃ s, (Sample.requiringSql.foldl (Criteria.after Sample.noNames) {}).sieve = .ok s ∧
        s.includesModule Sample.compiler = true) ∧
      (¬∃ name ∈ (recorded Sample.noNames Sample.requiringNothing).names, SystemName name) ∧
      ∃ s, (Sample.requiringNothing.foldl (Criteria.after Sample.noNames) {}).sieve = .ok s ∧
        s.includesModule Sample.compiler = false := by
  have unset :
      latest Setting.systemModules? none (recorded Sample.noNames Sample.requiringSql) = none := rfl
  have named : ∃ name ∈ (recorded Sample.noNames Sample.requiringSql).names, SystemName name :=
    ⟨"java.sql", List.mem_singleton.mpr rfl, "java.", by simp, "sql", rfl, by decide⟩
  have none :
      ¬∃ name ∈ (recorded Sample.noNames Sample.requiringNothing).names, SystemName name := by
    decide +kernel
  have sessions := (system_names_admit_system_modules Sample.noNames).2.2.2
  refine ⟨unset, named, ⟨_, rfl, ?_⟩, none, ⟨_, rfl, ?_⟩⟩
  · exact (sessions Sample.requiringSql _ unset rfl).1 named Sample.compiler .named
  · rw [(sessions Sample.requiringNothing _ rfl rfl).2 none]
    decide +kernel

end EdgeSieve
