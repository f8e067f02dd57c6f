import EdgeSieve.Options.Check
import EdgeSieve.Proofs.Options.Judged

namespace EdgeSieve

inductive Kind : Type
  | names : Kind
  | pattern : Kind
  | mode : Kind
  | bool : Kind
  deriving DecidableEq

namespace Kind

/-- What is wrong with a value as a whole. Lists of names have their elements checked besides. -/
inductive Flawed (table : CharNames) : Kind → Value → Flaw → Prop
  | noList : (∀ vs, v ≠ .list vs) → Flawed table .names v .noList
  | malformedPattern : Pattern.ofText table text = .error .malformed →
      Flawed table .pattern (.text text) .malformedPattern
  | unusablePattern : Pattern.ofText table text = .error fault → fault ≠ .malformed →
      fault ≠ .countTooLarge → Flawed table .pattern (.text text) (.unusablePattern fault)
  | noPattern : v ≠ .null → (∀ s, v ≠ .text s) → Flawed table .pattern v .noPattern
  | noMode : v ≠ .null → (∀ m : Mode, v ≠ .text m.text) → Flawed table .mode v .noMode
  | strangeWord : Value.truth? word = none → Flawed table .bool (.text word) .unreadableBool
  | strangeInt : n ≠ 0 → n ≠ 1 → Value.isWord n = true → Flawed table .bool (.int n) .unreadableBool
  | longInt : Value.isWord n = false → Flawed table .bool (.int n) .noBool
  | strangeReal : (x == 0.0) = false → (x == 1.0) = false → Value.isWholeWord x = true →
      Flawed table .bool (.real x) .unreadableBool
  | brokenReal : (x == 0.0) = false → (x == 1.0) = false → Value.isWholeWord x = false →
      Flawed table .bool (.real x) .noBool
  | null : Flawed table .bool .null .noBool
  | list : Flawed table .bool (.list vs) .noBool
  | record : Flawed table .bool (.record fields) .noBool

theorem Flawed.unique {table : CharNames} {k : Kind} {v : Value} {flaw other : Flaw}
    (h : k.Flawed table v flaw) (g : k.Flawed table v other) : flaw = other := by
  cases h <;> cases g <;> simp_all

end Kind

namespace Field

def kind : Field → Kind
  | .packages | .requires => .names
  | .regex | .filterRegex | .included | .systemModules => .pattern
  | .mode => .mode
  | .findInternals | .nested => .bool

end Field

namespace Value

/-- What the value of a field comes to: what it means, or the usual if it is absent. -/
inductive Gives (means : Value → α → Prop) (usual : α) : Option Value → α → Prop
  | absent : Gives means usual none usual
  | given : means v a → Gives means usual (some v) a

inductive MeansNames : Value → List String → Prop
  | list {names : List String} : MeansNames (.list (names.map .text)) names

inductive MeansPattern (table : CharNames) : Value → Option Pattern → Prop
  | null : MeansPattern table .null none
  | text : Pattern.ofText table p.text = .ok p → MeansPattern table (.text p.text) (some p)

inductive MeansMode : Value → Option Mode → Prop
  | null : MeansMode .null none
  | text : MeansMode (.text m.text) (some m)

inductive MeansBool : Value → Bool → Prop
  | bool : MeansBool (.bool b) b
  | text {word : String} : truth? word = some b → MeansBool (.text word) b
  | zero : MeansBool (.int 0) false
  | one : MeansBool (.int 1) true
  | realZero : (x == 0.0) = true → MeansBool (.real x) false
  | realOne : (x == 0.0) = false → (x == 1.0) = true → MeansBool (.real x) true

end Value

namespace Checked

/-- The outcome of checking a value that is not taken apart: good with what it means, bad for its
one flaw, or overflow. -/
inductive Tells (f : Field) (means : α → Prop) (flawed : Flaw → Prop) (overflows : Prop) :
    Checked α → Prop
  | good : means a → ¬overflows → (∀ flaw, ¬flawed flaw) →
      Tells f means flawed overflows (.good a)
  | bad : ¬overflows → flawed flaw → Tells f means flawed overflows (f.complain flaw)
  | overflow : overflows → (∀ flaw, ¬flawed flaw) → Tells f means flawed overflows .overflow

namespace Tells

variable {f : Field} {means : α → Prop} {flawed : Flaw → Prop} {overflows : Prop} {x : Checked α}

theorem map (h : x.Tells f means flawed overflows) (g : α → β) :
    (x.map g).Tells f (fun _ => True) flawed overflows := by
  cases h with
  | good _ sound fine => exact .good trivial sound fine
  | bad sound found => exact .bad sound found
  | overflow large fine => exact .overflow large fine

end Tells

end Checked

namespace Field

open Kind

variable {f : Field}

end Field

end EdgeSieve
