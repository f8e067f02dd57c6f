import EdgeSieve.Options.Checked

namespace EdgeSieve.Checked

inductive Judged : Checked α → Prop → List Complaint → Prop
  | overflow : p → Judged .overflow p cs
  | bad : ¬p → cs ≠ [] → Judged (.bad cs) p cs
  | good {a : α} : ¬p → Judged (.good a) p []

namespace Judged

variable {x : Checked α} {y : Checked β} {p q : Prop} {cs ds : List Complaint}

theorem congr (h : x.Judged p cs) (same : p ↔ q) (list : cs = ds) : x.Judged q ds := by
  rwa [← propext same, ← list]

theorem map (h : x.Judged p cs) (f : α → β) : (x.map f).Judged p cs := by
  cases h with
  | overflow hp => exact .overflow hp
  | bad hp some => exact .bad hp some
  | good hp => exact .good hp

theorem both (h : x.Judged p cs) (g : y.Judged q ds) : (x.both y).Judged (p ∨ q) (cs ++ ds) := by
  cases h with
  | overflow hp => exact .overflow (Or.inl hp)
  | bad hp some =>
    cases g with
    | overflow hq => exact .overflow (Or.inr hq)
    | bad hq _ => exact .bad (not_or.mpr ⟨hp, hq⟩) (List.append_ne_nil_of_left_ne_nil some _)
    | good hq =>
      rw [List.append_nil]
      exact .bad (not_or.mpr ⟨hp, hq⟩) some
  | good hp =>
    cases g with
    | overflow hq => exact .overflow (Or.inr hq)
    | bad hq some => exact .bad (not_or.mpr ⟨hp, hq⟩) some
    | good hq => exact .good (not_or.mpr ⟨hp, hq⟩)

end Judged

def complaints : Checked α → List Complaint
  | .bad cs => cs
  | _ => []

end EdgeSieve.Checked
