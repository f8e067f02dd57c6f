import EdgeSieve.Proofs.Options.Outcome
import Mathlib.Data.Option.Defs

namespace EdgeSieve

def SameNames (xs ys : List String) : Prop := ∀ name, name ∈ xs ↔ name ∈ ys

theorem SameNames.ofList_eq {xs ys : List String} (h : SameNames xs ys) :
    NameSet.ofList xs = NameSet.ofList ys := by
  apply NameSet.ext
  intro name
  rw [NameSet.mem_ofList, NameSet.mem_ofList, h name]

theorem SameNames.eq_nil_iff {xs ys : List String} (h : SameNames xs ys) : xs = [] ↔ ys = [] := by
  simp only [List.eq_nil_iff_forall_not_mem, h _]

theorem SameNames.length_dedup_eq {xs ys : List String} (h : SameNames xs ys) :
    xs.dedup.length = ys.dedup.length := by
  rw [← NameSet.size_ofList, h.ofList_eq, NameSet.size_ofList]

namespace Catalogue

def AgreesOn (known other : Catalogue) (names : List String) : Prop :=
  ∀ name ∈ names, Option.Rel SameNames (known.packages? name) (other.packages? name)

variable {known other : Catalogue} {names others : List String}

theorem AgreesOn.knows_iff (h : known.AgreesOn other names) (same : SameNames names others) :
    known.Knows names ↔ other.Knows others := by
  have one : ∀ name ∈ names,
      ((known.packages? name).isSome = true ↔ (other.packages? name).isSome = true) := by
    intro name listed
    have agree := h name listed
    generalize known.packages? name = packages, other.packages? name = others at agree
    cases agree with
    | none => rfl
    | some _ => rfl
  constructor
  · intro knows name listed
    have listed := (same name).mpr listed
    exact (one name listed).mp (knows name listed)
  · intro knows name listed
    exact (one name listed).mpr (knows name ((same name).mp listed))

theorem AgreesOn.packagesOf_same (h : known.AgreesOn other names) (same : SameNames names others) :
    SameNames (known.packagesOf names) (other.packagesOf others) := by
  have one : ∀ name ∈ names,
      SameNames ((known.packages? name).getD []) ((other.packages? name).getD []) := by
    intro name listed
    have agree := h name listed
    generalize known.packages? name = packages, other.packages? name = others at agree
    cases agree with
    | none => exact fun _ => Iff.rfl
    | some same => exact same
  intro package
  simp only [packagesOf, List.mem_flatMap, ← same _]
  apply exists_congr
  intro name
  apply and_congr_right
  intro listed
  exact one name listed package

theorem unnamed_iff : known.Unnamed names ↔ "" ∈ known.packagesOf names := mem_packagesOf.symm

theorem packages?_insert_of_ne {name asked : String} (packages : List String)
    (different : asked ≠ name) :
    (known.insert name packages).packages? asked = known.packages? asked := by
  have first : (asked == name) = false := beq_false_of_ne different
  simp only [packages?, insert, List.lookup_cons, first]
  induction known.modules with
  | nil => rfl
  | cons m modules ih =>
    rw [List.filter_cons]
    split
    · rw [List.lookup_cons, List.lookup_cons, ih]
    · next dropped =>
      have same : m.1 = name := by simpa using dropped
      rw [List.lookup_cons, same, first, ih]

theorem agreesOn_insert {name : String} (packages : List String) (beside : name ∉ names) :
    known.AgreesOn (known.insert name packages) names := by
  intro asked listed
  have different : asked ≠ name := by
    rintro rfl
    exact beside listed
  rw [packages?_insert_of_ne packages different]
  cases known.packages? asked with
  | none => exact .none
  | some packages => exact .some fun _ => Iff.rfl

end Catalogue

namespace Options

def relisted (o : Options) (packages requires : List String) (named : "" ∉ packages) : Options :=
  { o with
    packages := packages
    requires := requires
    named := named }

structure SameSets (o p : Options) : Prop where
  packages : SameNames o.packages p.packages
  requires : SameNames o.requires p.requires
  others : o.relisted p.packages p.requires p.named = p

end Options

/-- Outcomes of one kind: the same sieve and notices, or failures that differ at most in the module
that is told to be unknown. -/
inductive Made.OneKind : Made OptionsFault Sieve → Made OptionsFault Sieve → Prop
  | unknownModule {u v : UnknownModule} :
      OneKind ⟨.error (.unknownModule u), []⟩ ⟨.error (.unknownModule v), []⟩
  | unnamedPackage : OneKind ⟨.error (.package .emptyName), []⟩ ⟨.error (.package .emptyName), []⟩
  | sieve {s : Sieve} {notices : List Notice} : OneKind ⟨.ok s, notices⟩ ⟨.ok s, notices⟩

theorem Made.OneKind.eq_of_ok {made other : Made OptionsFault Sieve} (h : made.OneKind other)
    {s : Sieve} (ok : made.outcome = .ok s) : made = other := by
  cases h with
  | unknownModule => cases ok
  | unnamedPackage => cases ok
  | sieve => rfl

namespace Options

variable {o : Options} {known other : Catalogue} {packages requires : List String}
  {named : "" ∉ packages}

theorem sieve_of_not_knows (h : ¬known.Knows o.requires) :
    ∃ u, o.sieve known = ⟨.error (.unknownModule u), []⟩ := by
  cases found_or_first_missing known.packages? o.requires with
  | inl found => exact absurd found h
  | inr missing =>
    obtain ⟨before, name, after, split, found, unknown⟩ := missing
    exact ⟨_, sieve_of_unknown split found unknown⟩

theorem targets_same (samePackages : SameNames o.packages packages)
    (sameRequires : SameNames o.requires requires) (agree : known.AgreesOn other o.requires) :
    SameNames (o.targets known) ((o.relisted packages requires named).targets other) := by
  intro package
  rw [targets, targets, List.mem_append, List.mem_append, samePackages package,
    agree.packagesOf_same sameRequires package]
  rfl

theorem requiresSystem_iff (sameRequires : SameNames o.requires requires) :
    o.RequiresSystem ↔ (o.relisted packages requires named).RequiresSystem := by
  simp only [RequiresSystem, sameRequires _]
  rfl

theorem idleNotices_eq
    (same : SameNames (o.targets known) ((o.relisted packages requires named).targets other)) :
    o.idleNotices known = (o.relisted packages requires named).idleNotices other := by
  simp only [idleNotices, same.length_dedup_eq, same.eq_nil_iff, ne_eq]
  rfl

end Options

theorem Sieve.Follows.relisted {s : Sieve} {o : Options} {known other : Catalogue}
    {packages requires : List String} (h : s.Follows o known) (named : "" ∉ packages)
    (samePackages : SameNames o.packages packages) (sameRequires : SameNames o.requires requires)
    (agree : known.AgreesOn other o.requires) :
    s.Follows (o.relisted packages requires named) other where
  target := h.target.congr (Options.targets_same samePackages sameRequires agree)
  excluded := h.excluded
  drops := h.drops
  findInternals := h.findInternals
  included := h.included
  systemModules := by
    rw [h.systemModules, Options.systemPattern, Options.systemPattern]
    exact congrArg _ (if_congr (Options.requiresSystem_iff sameRequires) rfl rfl)
  requires := h.requires.trans sameRequires.ofList_eq

theorem Options.sieve_relisted {o : Options} {known other : Catalogue}
    {packages requires : List String} (named : "" ∉ packages)
    (samePackages : SameNames o.packages packages) (sameRequires : SameNames o.requires requires)
    (agree : known.AgreesOn other o.requires) :
    (o.sieve known).OneKind ((o.relisted packages requires named).sieve other) := by
  have knows := agree.knows_iff sameRequires
  have unnamed : known.Unnamed o.requires ↔ other.Unnamed requires := by
    rw [Catalogue.unnamed_iff, Catalogue.unnamed_iff, agree.packagesOf_same sameRequires]
  -- The first unknown module may be another one, so only the kind of that failure carries over.
  have concludes := o.concludes_sieve known
  generalize o.sieve known = made at concludes
  cases concludes with
  | @unknownModule before after name split _ unknown =>
    have lost : ¬known.Knows o.requires := by
      intro all
      have found : (known.packages? name).isSome = true := all name (by simp [split])
      simp [unknown] at found
    obtain ⟨v, failed⟩ := sieve_of_not_knows (o := o.relisted packages requires named)
      (mt knows.mpr lost)
    rw [failed]
    exact .unknownModule
  | unnamedPackage found regex without =>
    have concludes : (o.relisted packages requires named).Concludes other _ :=
      .unnamedPackage (knows.mp found) regex (unnamed.mp without)
    rw [concludes.sieve_eq]
    exact .unnamedPackage
  | sieve found allNamed follows =>
    have concludes : (o.relisted packages requires named).Concludes other _ :=
      .sieve (knows.mp found) (fun regex => mt unnamed.mpr (allNamed regex))
        (follows.relisted named samePackages sameRequires agree)
    rw [concludes.sieve_eq, ← idleNotices_eq (targets_same samePackages sameRequires agree)]
    exact .sieve

/-- Options with the same sets of packages and of required modules, and catalogues that agree on
those modules, come to the same; and so do catalogues of which one has a module more that is not
required. -/
theorem sieves_of_same_sets :
    (∀ (o p : Options) (known other : Catalogue), o.SameSets p → known.AgreesOn other o.requires →
        (o.sieve known).OneKind (p.sieve other)) ∧
      ∀ (o : Options) (known : Catalogue) (name : String) (packages : List String),
        name ∉ o.requires → (o.sieve known).OneKind (o.sieve (known.insert name packages)) := by
  constructor
  · intro o p known other same agree
    have relisted := Options.sieve_relisted p.named same.packages same.requires agree
    rwa [same.others] at relisted
  · intro o known name packages beside
    exact Options.sieve_relisted o.named (fun _ => Iff.rfl) (fun _ => Iff.rfl)
      (Catalogue.agreesOn_insert packages beside)

namespace Sample

def listing : Options where
  packages := ["app", "sun"]
  regex := some .anything
  requires := ["java.sql", "java.xml"]

def relisting : Options :=
  listing.relisted ["sun", "app", "sun"] ["java.xml", "java.sql", "java.xml"] (by simp)

def sheet : Catalogue := .ofList [("java.xml", ["sax", "dom"]), ("java.sql", ["java.sql"])]

def longSheet : Catalogue :=
  .ofList [("app", [""]), ("java.sql", ["java.sql", "java.sql"]), ("java.xml", ["dom", "sax"])]

end Sample

theorem sieves_of_same_sets_sample :
    Sample.listing.SameSets Sample.relisting ∧
      Sample.sheet.AgreesOn Sample.longSheet Sample.listing.requires ∧
      (∃ s, (Sample.listing.sieve Sample.sheet).outcome = .ok s) ∧
      Sample.listing.sieve Sample.sheet = Sample.relisting.sieve Sample.longSheet ∧
      "app" ∉ Sample.listing.requires ∧
      Sample.listing.sieve Sample.sheet = Sample.listing.sieve (Sample.sheet.insert "app" [""]) := by
  have same : Sample.listing.SameSets Sample.relisting := by
    refine ⟨?_, ?_, rfl⟩
    · intro name
      simp only [Sample.relisting, Options.relisted, Sample.listing, List.mem_cons]
      tauto
    · intro name
      simp only [Sample.relisting, Options.relisted, Sample.listing, List.mem_cons]
      tauto
  have agree : Sample.sheet.AgreesOn Sample.longSheet Sample.listing.requires := by
    have sql : Option.Rel SameNames (Sample.sheet.packages? "java.sql")
        (Sample.longSheet.packages? "java.sql") := .some fun name => by simp
    have xml : Option.Rel SameNames (Sample.sheet.packages? "java.xml")
        (Sample.longSheet.packages? "java.xml") := .some fun name => by simp [or_comm]
    exact List.forall_mem_cons.mpr ⟨sql, List.forall_mem_singleton.mpr xml⟩
  have beside : "app" ∉ Sample.listing.requires := by decide
  have made : ∃ s, (Sample.listing.sieve Sample.sheet).outcome = .ok s := ⟨_, rfl⟩
  obtain ⟨s, ok⟩ := made
  refine ⟨same, agree, ⟨s, ok⟩, ?_, beside, ?_⟩
  · exact (sieves_of_same_sets.1 _ _ _ _ same agree).eq_of_ok ok
  · exact (sieves_of_same_sets.2 _ _ _ [""] beside).eq_of_ok ok

end EdgeSieve
