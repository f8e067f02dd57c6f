import EdgeSieve.Proofs.Criteria.Making

namespace EdgeSieve

open History

inductive Inserted (extra : Setting Pattern → Prop) : History → History → Prop
  | nil : Inserted extra [] []
  | kept {s : Setting Pattern} {before after : History} :
      Inserted extra before after → Inserted extra (s :: before) (s :: after)
  | put {s : Setting Pattern} {before after : History} :
      extra s → Inserted extra before after → Inserted extra before (s :: after)

namespace Setting

variable {P : Type}

inductive BesideNames : Setting P → Prop
  | findInternals {b : Bool} : BesideNames (.findInternals b)
  | included {p : Option P} : BesideNames (.included p)
  | systemModules {p : Option P} : BesideNames (.systemModules p)
  | considered {name : String} : BesideNames (.considered name)

inductive BesideArchives : Setting P → Prop
  | packages {names : List String} : BesideArchives (.packages names)
  | nested {b : Bool} : BesideArchives (.nested b)
  | classes {p : Option P} : BesideArchives (.classes p)
  | excluded {p : Option P} : BesideArchives (.excluded p)
  | requires {name : String} {names : List String} : BesideArchives (.requires name names)
  | included {p : Option P} : BesideArchives (.included p)
  | systemModules {p : Option P} : BesideArchives (.systemModules p)
  | considered {name : String} : BesideArchives (.considered name)

inductive BesideScanning : Setting P → Prop
  | findInternals {b : Bool} : BesideScanning (.findInternals b)
  | dropSame {package archive : Bool} : BesideScanning (.dropSame package archive)
  | dropBoth : BesideScanning .dropBoth
  | excluded {p : Option P} : BesideScanning (.excluded p)
  | nested {b : Bool} : BesideScanning (.nested b)

inductive Seeking : Setting P → Prop
  | packages {names : List String} : Seeking (.packages names)
  | classes {p : Option P} : Seeking (.classes p)

end Setting

namespace Inserted

variable {extra : Setting Pattern → Prop} {before after : History}

theorem latest_eq (h : Inserted extra before after) {α : Type} {value : Setting Pattern → Option α}
    (silent : ∀ s, extra s → value s = none) (usual : α) :
    latest value usual after = latest value usual before := by
  have same : after.filterMap value = before.filterMap value := by
    induction h with
    | nil => rfl
    | kept _ ih => simp only [List.filterMap_cons, ih]
    | put idle _ ih => simp only [List.filterMap_cons, silent _ idle, ih]
  rw [latest, latest, same]

theorem flatMap_eq (h : Inserted extra before after) {added : Setting Pattern → List String}
    (silent : ∀ s, extra s → added s = []) : after.flatMap added = before.flatMap added := by
  induction h with
  | nil => rfl
  | kept _ ih => simp only [List.flatMap_cons, ih]
  | put idle _ ih => simp only [List.flatMap_cons, silent _ idle, ih, List.nil_append]

theorem systemPattern_eq (h : Inserted extra before after)
    (unset : ∀ s, extra s → s.systemModules? = none) (unnamed : ∀ s, extra s → s.addedNames = []) :
    after.systemPattern = before.systemPattern := by
  have names : after.names = before.names := h.flatMap_eq unnamed
  simp only [History.systemPattern, h.latest_eq unset none, names]

end Inserted

namespace Sieve.Fits

variable {s t : Sieve} {before after : History} (old : s.Fits before) (new : t.Fits after)

include old new

theorem drops_eq (same : latest Setting.drops? (false, false) after =
    latest Setting.drops? (false, false) before) :
    t.dropSamePackage = s.dropSamePackage ∧ t.dropSameArchive = s.dropSameArchive := by
  apply Prod.mk.inj
  rw [new.drops, old.drops, same]

theorem accepts_eq (h : Inserted Setting.BesideNames before after) (e : Edge) :
    t.accepts e = s.accepts e := by
  have classes : after.classes = before.classes := h.latest_eq (by rintro _ ⟨⟩ <;> rfl) none
  have nested : after.nested = before.nested := h.latest_eq (by rintro _ ⟨⟩ <;> rfl) false
  have packages : after.packages = before.packages := h.flatMap_eq (by rintro _ ⟨⟩ <;> rfl)
  have target : t.target = s.target := by
    apply TargetOf.unique new.target
    rw [classes, nested, packages]
    exact old.target
  have excluded : t.excluded = s.excluded := by
    rw [new.excluded, old.excluded, h.latest_eq (by rintro _ ⟨⟩ <;> rfl)]
  have drops := (old.drops_eq new (h.latest_eq (by rintro _ ⟨⟩ <;> rfl) _)).1
  simp only [accepts, target, excluded, drops]

theorem acceptsBetween_eq (h : Inserted Setting.BesideArchives before after) (c : ClassName)
    (origin target : Placed) :
    t.acceptsBetween c origin target = s.acceptsBetween c origin target := by
  have findInternals : t.findInternals = s.findInternals := by
    rw [new.findInternals, old.findInternals, h.latest_eq (by rintro _ ⟨⟩ <;> rfl)]
  have drops := (old.drops_eq new (h.latest_eq (by rintro _ ⟨⟩ <;> rfl) _)).2
  simp only [acceptsBetween, findInternals, drops]

theorem included_eq {extra : Setting Pattern → Prop} (h : Inserted extra before after)
    (silent : ∀ s, extra s → s.included? = none) : t.included = s.included := by
  rw [new.included, old.included, h.latest_eq silent]

theorem scans_eq {extra : Setting Pattern → Prop} (h : Inserted extra before after)
    (silent : ∀ s, extra s → s.included? = none) (unset : ∀ s, extra s → s.systemModules? = none)
    (unnamed : ∀ s, extra s → s.addedNames = []) :
    (∀ name, t.matchesClass name = s.matchesClass name) ∧
      ∀ a, t.includesModule a = s.includesModule a := by
  have included := old.included_eq new h silent
  have systemModules : t.systemModules = s.systemModules := by
    rw [new.systemModules, old.systemModules, h.systemPattern_eq unset unnamed]
  constructor
  · intro name
    simp only [matchesClass, included]
  · intro a
    simp only [includesModule, systemModules]

theorem matchesArchive_eq (h : Inserted Setting.BesideScanning before after) (a : Archive) :
    t.matchesArchive a = s.matchesArchive a := by
  have included := old.included_eq new h (by rintro _ ⟨⟩ <;> rfl)
  have classes : after.classes = before.classes := h.latest_eq (by rintro _ ⟨⟩ <;> rfl) none
  have packages : after.packages = before.packages := h.flatMap_eq (by rintro _ ⟨⟩ <;> rfl)
  have sought : t.target.isSome = s.target.isSome := by
    rw [Bool.eq_iff_iff, new.target.isSome_iff, old.target.isSome_iff, classes, packages]
  simp only [matchesArchive, matchesClass, included, sought]

theorem included_eq_none_of_matchesArchive_ne (h : Inserted Setting.Seeking before after)
    {a : Archive} (differ : t.matchesArchive a ≠ s.matchesArchive a) :
    s.included = none ∧ t.included = none := by
  have included := old.included_eq new h (by rintro _ ⟨⟩ <;> rfl)
  rw [included, and_self]
  cases given : s.included with
  | none => rfl
  | some p =>
    refine absurd ?_ differ
    simp [matchesArchive, matchesClass, included, given]

end Sieve.Fits

/-- Settings that have no say in a decision of a sieve can be put in at any places of a history,
and the decision stays. Only looking for other targets may change which archives are scanned, and
that only where no classes are singled out. -/
theorem decisions_set_apart (before after : History) :
    (Inserted Setting.BesideNames before after →
        ((∃ s, (Criteria.setAll {} before).sieve = .ok s) ↔
          ∃ t, (Criteria.setAll {} after).sieve = .ok t)) ∧
      ∀ s t, (Criteria.setAll {} before).sieve = .ok s →
        (Criteria.setAll {} after).sieve = .ok t →
        (Inserted Setting.BesideNames before after → ∀ e, t.accepts e = s.accepts e) ∧
        (Inserted Setting.BesideArchives before after → ∀ c origin target,
          t.acceptsBetween c origin target = s.acceptsBetween c origin target) ∧
        (Inserted Setting.BesideScanning before after →
          (∀ name, t.matchesClass name = s.matchesClass name) ∧
          (∀ a, t.matchesArchive a = s.matchesArchive a) ∧
          ∀ a, t.includesModule a = s.includesModule a) ∧
        (Inserted Setting.Seeking before after →
          (∀ name, t.matchesClass name = s.matchesClass name) ∧
          (∀ a, t.includesModule a = s.includesModule a) ∧
          ∀ a, t.matchesArchive a ≠ s.matchesArchive a →
            s.included = none ∧ t.included = none) := by
  constructor
  · intro h
    have classes : after.classes = before.classes := h.latest_eq (by rintro _ ⟨⟩ <;> rfl) none
    have packages : after.packages = before.packages := h.flatMap_eq (by rintro _ ⟨⟩ <;> rfl)
    rw [(Criteria.setAll_records before).exists_sieve_iff,
      (Criteria.setAll_records after).exists_sieve_iff, History.Refused, History.Refused, classes,
      packages]
  · intro s t made made'
    have old : s.Fits before := (Criteria.setAll_records before).sieve_ok_iff.mp made
    have new : t.Fits after := (Criteria.setAll_records after).sieve_ok_iff.mp made'
    refine ⟨old.accepts_eq new, old.acceptsBetween_eq new, fun h => ?_, fun h => ?_⟩
    · obtain ⟨classes, modules⟩ := old.scans_eq new h (by rintro _ ⟨⟩ <;> rfl)
        (by rintro _ ⟨⟩ <;> rfl) (by rintro _ ⟨⟩ <;> rfl)
      exact ⟨classes, old.matchesArchive_eq new h, modules⟩
    · obtain ⟨classes, modules⟩ := old.scans_eq new h (by rintro _ ⟨⟩ <;> rfl)
        (by rintro _ ⟨⟩ <;> rfl) (by rintro _ ⟨⟩ <;> rfl)
      exact ⟨classes, modules, fun a => old.included_eq_none_of_matchesArchive_ne new h⟩

namespace Sample

def history : History := [.packages ["app"], .dropBoth]

def watching : History := [.packages ["app"], .considered "java.sql", .dropBoth, .findInternals true]

def requiring : History := [.requires "java.sql" ["java.sql"], .packages ["app"], .dropBoth]

def nesting : History := [.packages ["app"], .nested true, .dropBoth]

def empty : Archive := ⟨"empty.jar", .unnamed, []⟩

end Sample

theorem decisions_set_apart_sample :
    ∃ s t u v, (Criteria.setAll {} Sample.history).sieve = .ok s ∧
      (Criteria.setAll {} Sample.watching).sieve = .ok t ∧
      (Criteria.setAll {} Sample.requiring).sieve = .ok u ∧
      (Criteria.setAll {} Sample.nesting).sieve = .ok v ∧
      (∀ e, t.accepts e = s.accepts e) ∧
      (∀ c origin target, u.acceptsBetween c origin target = s.acceptsBetween c origin target) ∧
      (∀ a, v.matchesArchive a = s.matchesArchive a) ∧
      s.matchesArchive Sample.empty ≠ Sieve.standard.matchesArchive Sample.empty ∧
      s.included = none := by
  have watched : Inserted Setting.BesideNames Sample.history Sample.watching :=
    .kept (.put .considered (.kept (.put .findInternals .nil)))
  have required : Inserted Setting.BesideArchives Sample.history Sample.requiring :=
    .put .requires (.kept (.kept .nil))
  have nested : Inserted Setting.BesideScanning Sample.history Sample.nesting :=
    .kept (.put .nested (.kept .nil))
  have sought : Inserted Setting.Seeking [.dropBoth] Sample.history := .put .packages (.kept .nil)
  have bare : (Criteria.setAll {} [.dropBoth]).sieve = .ok .standard := rfl
  refine ⟨_, _, _, _, rfl, rfl, rfl, rfl, ?_, ?_, ?_, ?_, ?_⟩
  · exact ((decisions_set_apart _ _).2 _ _ rfl rfl).1 watched
  · exact ((decisions_set_apart _ _).2 _ _ rfl rfl).2.1 required
  · exact (((decisions_set_apart _ _).2 _ _ rfl rfl).2.2.1 nested).2.1
  · decide
  · exact ((((decisions_set_apart _ _).2 _ _ bare rfl).2.2.2 sought).2.2 Sample.empty
      (by decide)).2

end EdgeSieve
