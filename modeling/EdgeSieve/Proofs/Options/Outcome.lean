import EdgeSieve.Proofs.Options.Gathered

namespace EdgeSieve

def Catalogue.Unnamed (known : Catalogue) (names : List String) : Prop :=
  ∃ name ∈ names, ∃ packages ∈ known.packages? name, "" ∈ packages

namespace Options

def RequiresSystem (o : Options) : Prop :=
  ∃ name ∈ o.requires, Pattern.systemNames.matchesAll name = true

instance (o : Options) : Decidable o.RequiresSystem :=
  inferInstanceAs (Decidable (∃ name ∈ o.requires, _))

def systemPattern (o : Options) : Option Pattern :=
  o.systemModules.or (if o.RequiresSystem then some .systemNames else none)

def idleNotices (o : Options) (known : Catalogue) : List Notice :=
  if o.regex.isSome = true ∧ o.targets known ≠ [] then
    [.overridden (o.targets known).dedup.length]
  else []

end Options

structure Sieve.Follows (s : Sieve) (o : Options) (known : Catalogue) : Prop where
  target : TargetOf o.regex (o.targets known) o.nested s.target
  excluded : s.excluded = o.filterRegex
  drops : (s.dropSamePackage, s.dropSameArchive) = Mode.drops o.mode
  findInternals : s.findInternals = o.findInternals
  included : s.included = o.scanned
  systemModules : s.systemModules = o.systemPattern
  requires : s.requires = .ofList o.requires

inductive Options.Concludes (o : Options) (known : Catalogue) : Made OptionsFault Sieve → Prop
  | unknownModule {before after : List String} {name : String} :
      o.requires = before ++ name :: after → known.Knows before → known.packages? name = none →
      Concludes o known ⟨.error (.unknownModule ⟨name, known.size⟩), []⟩
  | unnamedPackage : known.Knows o.requires → o.regex = none → known.Unnamed o.requires →
      Concludes o known ⟨.error (.package .emptyName), []⟩
  | sieve {s : Sieve} : known.Knows o.requires → (o.regex = none → ¬known.Unnamed o.requires) →
      s.Follows o known →
      Concludes o known ⟨.ok s, o.idleNotices known ++ [.configured s.summary]⟩

namespace Options

variable {o : Options} {known : Catalogue}

theorem gathered_systemPattern : (o.gathered known).systemPattern = o.systemPattern := by
  unfold Criteria.systemPattern systemPattern
  cases given : o.systemModules with
  | some p => simp [gathered, given]
  | none =>
    simp only [gathered, given, Option.none_or]
    exact if_congr List.any_eq_true rfl rfl

theorem systemPattern_matches_iff {name : String} :
    (∃ p ∈ o.systemPattern, p.matchesAll name = true) ↔
      (∃ p ∈ o.systemModules, p.matchesAll name = true) ∨
        o.systemModules = none ∧ o.RequiresSystem ∧
          Pattern.systemNames.matchesAll name = true := by
  unfold systemPattern
  cases o.systemModules with
  | some p => simp
  | none => split <;> simp [*]

theorem gathered_notices : (o.gathered known).notices = o.idleNotices known :=
  Criteria.notices_eq rfl

theorem idleNotices_of_regex_eq_none (h : o.regex = none) : o.idleNotices known = [] := by
  simp [idleNotices, h]

theorem gathered_sieve_ok_iff {s : Sieve} :
    (o.gathered known).sieve = .ok s ↔ s.Follows o known := by
  rw [Criteria.sieve_ok_iff_parts, Criteria.targetRule_ok_iff rfl, gathered_systemPattern]
  constructor
  · intro parts
    obtain ⟨target, excluded, drops, findInternals, included, systemModules, requires⟩ := parts
    exact ⟨target, excluded, drops, findInternals, included, systemModules, requires⟩
  · intro follows
    exact ⟨follows.target, follows.excluded, follows.drops, follows.findInternals,
      follows.included, follows.systemModules, follows.requires⟩

/-- No package that is listed is unnamed, so one of a required module is. -/
theorem gathered_sieve_error_iff :
    (o.gathered known).sieve = .error .emptyName ↔ o.regex = none ∧ known.Unnamed o.requires := by
  have unnamed : "" ∈ o.targets known ↔ known.Unnamed o.requires := by
    rw [targets, List.mem_append, or_iff_right o.named, Catalogue.mem_packagesOf]
    rfl
  rw [Criteria.sieve_error_iff, Criteria.targetRule_error_iff rfl, unnamed]
  rfl

theorem sieve_ok_iff_follows {s : Sieve} :
    (o.sieve known).outcome = .ok s ↔ known.Knows o.requires ∧ s.Follows o known := by
  rw [sieve_ok_iff, gathered_sieve_ok_iff]

theorem concludes_sieve (o : Options) (known : Catalogue) : o.Concludes known (o.sieve known) := by
  cases found_or_first_missing known.packages? o.requires with
  | inl knows =>
    rw [sieve_of_knows knows, gathered_notices]
    cases made : (o.gathered known).sieve with
    | error fault =>
      cases fault
      obtain ⟨regex, unnamed⟩ := gathered_sieve_error_iff.mp made
      rw [idleNotices_of_regex_eq_none regex]
      exact .unnamedPackage knows regex unnamed
    | ok s =>
      refine .sieve knows ?_ (gathered_sieve_ok_iff.mp made)
      intro regex unnamed
      rw [gathered_sieve_error_iff.mpr ⟨regex, unnamed⟩] at made
      cases made
  | inr missing =>
    obtain ⟨before, name, after, split, found, unknown⟩ := missing
    rw [sieve_of_unknown split found unknown]
    exact .unknownModule split found unknown

theorem Concludes.sieve_eq {made : Made OptionsFault Sieve} (h : o.Concludes known made) :
    o.sieve known = made := by
  cases h with
  | unknownModule split found unknown => exact sieve_of_unknown split found unknown
  | unnamedPackage knows regex unnamed =>
    rw [sieve_of_knows knows, gathered_sieve_error_iff.mpr ⟨regex, unnamed⟩, gathered_notices,
      idleNotices_of_regex_eq_none regex]
  | sieve knows _ follows =>
    rw [sieve_of_knows knows, gathered_sieve_ok_iff.mpr follows, gathered_notices]

theorem exists_sieve_iff : (∃ s, (o.sieve known).outcome = .ok s) ↔
    known.Knows o.requires ∧ (o.regex = none → ¬known.Unnamed o.requires) := by
  have concludes := o.concludes_sieve known
  generalize o.sieve known = made at concludes
  cases concludes with
  | @unknownModule before after name split _ unknown =>
    constructor
    · intro h
      obtain ⟨_, ok⟩ := h
      cases ok
    · intro h
      have known : (known.packages? name).isSome = true := h.1 name (by simp [split])
      simp [unknown] at known
  | unnamedPackage _ regex unnamed =>
    constructor
    · intro h
      obtain ⟨_, ok⟩ := h
      cases ok
    · intro h
      exact absurd unnamed (h.2 regex)
  | @sieve s knows named _ => exact iff_of_true ⟨s, rfl⟩ ⟨knows, named⟩

theorem message_idleNotices : (o.idleNotices known).map Notice.message =
    if o.regex.isSome = true ∧ o.targets known ≠ [] then
      ["Regex target filter overrides " ++ (o.targets known).dedup.length.repr ++
        " target packages"]
    else [] := by
  unfold idleNotices
  split <;> rfl

end Options

/-- Options come to the one thing that is concluded from them, with these words of what went wrong
or was noted. -/
theorem options_conclude (o : Options) (known : Catalogue) :
    (∀ made, o.sieve known = made ↔ o.Concludes known made) ∧
      ((∃ s, (o.sieve known).outcome = .ok s) ↔
        known.Knows o.requires ∧ (o.regex = none → ¬known.Unnamed o.requires)) ∧
      (∀ fault, (o.sieve known).outcome = .error (.package fault) →
        fault.message = "Package name must not be empty") ∧
      ∀ s, (o.sieve known).outcome = .ok s → (o.sieve known).notices.map Notice.message =
        (if o.regex.isSome = true ∧ o.targets known ≠ [] then
          ["Regex target filter overrides " ++ (o.targets known).dedup.length.repr ++
            " target packages"]
        else []) ++ ["Dependency filter configured:\n" ++ s.summary] := by
  refine ⟨fun made => ?_, Options.exists_sieve_iff, ?_, ?_⟩
  · constructor
    · intro same
      exact same ▸ o.concludes_sieve known
    · exact Options.Concludes.sieve_eq
  · intro fault _
    cases fault
    rfl
  · intro s ok
    obtain ⟨knows, built⟩ := Options.sieve_ok_iff.mp ok
    rw [Options.sieve_of_knows knows, built, Options.gathered_notices, List.map_append,
      Options.message_idleNotices]
    rfl

namespace Sample

def shelf : Catalogue := .ofList [("java.sql", ["java.sql"]), ("app", ["app", ""])]

def unknown : Options where
  requires := ["app", "lost", "gone"]

def unnamed : Options where
  requires := ["java.sql", "app"]

def overriding : Options where
  packages := ["app"]
  regex := some .anything
  requires := ["java.sql", "app"]

end Sample

theorem options_conclude_sample :
    Sample.unknown.sieve Sample.shelf = ⟨.error (.unknownModule ⟨"lost", 2⟩), []⟩ ∧
      Sample.unnamed.sieve Sample.shelf = ⟨.error (.package .emptyName), []⟩ ∧
      ∃ s, (Sample.overriding.sieve Sample.shelf).outcome = .ok s ∧
        (Sample.overriding.sieve Sample.shelf).notices.map Notice.message =
          ["Regex target filter overrides 3 target packages",
            "Dependency filter configured:\n" ++ s.summary] := by
  have knows : Sample.shelf.Knows ["java.sql", "app"] := by
    unfold Catalogue.Knows
    decide
  have bare : Sample.shelf.Unnamed ["java.sql", "app"] :=
    ⟨"app", by simp, ["app", ""], rfl, by simp⟩
  refine ⟨?_, ?_, ?_⟩
  · refine ((options_conclude _ _).1 _).mpr ?_
    exact @Options.Concludes.unknownModule _ _ ["app"] ["gone"] "lost" rfl
      (List.forall_mem_singleton.mpr rfl) rfl
  · exact ((options_conclude _ _).1 _).mpr (.unnamedPackage knows rfl bare)
  · obtain ⟨s, ok⟩ := (options_conclude Sample.overriding Sample.shelf).2.1.mpr ⟨knows, nofun⟩
    refine ⟨s, ok, ?_⟩
    rw [(options_conclude _ _).2.2.2 s ok]
    rfl

end EdgeSieve
