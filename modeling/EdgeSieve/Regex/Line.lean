import EdgeSieve.Regex.Matching

namespace EdgeSieve.Regex

def spelled (text : List Char) (next : Regex) : Regex :=
  text.foldr (fun a r => (Regex.char (.literal .exact a.toNat)).seq r) next

def restOfLine : Regex := .stretch .greedy 0 none .noNewline

def lines (starts : List (List Char)) : Regex :=
  .branches (starts.map (spelled · restOfLine))

theorem run_spelled {text : List Char} {next : Regex} {k : Rest} {c : Cursor} :
    ((spelled text next).run none k c).succeeds = true ↔
      (∃ rest, c.after = text ++ rest) ∧
        (next.run none k (c.forth text.length)).succeeds = true := by
  induction text generalizing c with
  | nil => simp [spelled, Cursor.forth]
  | cons a text ih =>
    have unfolded : (spelled (a :: text) next).run none k c =
      if c.meets (.literal .exact a.toNat) then (spelled text next).run none k (c.forth 1)
      else .fails c.trail := by
        cases h : (spelled text next).isVoid <;> simp [spelled, run]
    rw [unfolded]
    split
    · next h =>
      rw [Cursor.meets_literal_exact] at h
      obtain ⟨rest, here⟩ := List.head?_eq_some_iff.mp h
      rw [ih, Cursor.forth_one, Cursor.after_forth, here]
      simp
    · next h =>
      rw [Cursor.meets_literal_exact] at h
      simp only [Attempt.succeeds, Bool.false_eq_true, false_iff, not_and, List.cons_append]
      rintro ⟨rest, here⟩
      simp [here] at h

theorem retreat_atEnd {n : Nat} {c : Cursor} :
    (retreat none atEnd n c).succeeds = true ↔ c.after = [] := by
  have here {c : Cursor} : (foremost none atEnd c).succeeds = true ↔ c.after = [] := by
    have tried : foremost none atEnd c = way atEnd c := rfl
    rw [tried, succeeds_way]
    cases h : c.after <;> simp [atEnd, Cursor.noted, Cursor.onTrail, h, Attempt.succeeds]
  induction n generalizing c with
  | zero => exact here
  | succ n ih =>
    have tried : (retreat none atEnd (n + 1) c).succeeds = true ↔
        (foremost none atEnd c).succeeds = true ∨ (c.back 1).after = [] :=
      Attempt.succeeds_orElse fun t => ih (c := (c.back 1).onTrail t)
    rw [tried, here]
    exact ⟨fun done => done.elim id Cursor.after_eq_nil_of_back, Or.inl⟩

theorem run_restOfLine {c : Cursor} :
    (restOfLine.run none atEnd c).succeeds = true ↔ '\n' ∉ c.after := by
  have unfolded : restOfLine.run none atEnd c =
      retreat none atEnd (CharSet.noNewline.count none c.after 0)
        (c.noted.forth (CharSet.noNewline.count none c.after 0)) := by
    simp [restOfLine, run, stretched, CharSet.countsSingly]
  have noted : c.noted.after = c.after := rfl
  rw [unfolded, retreat_atEnd, Cursor.after_forth, noted, CharSet.count_eq, Nat.zero_add]
  induction c.after with
  | nil => simp
  | cons a rest ih =>
    by_cases newline : a = '\n'
    · simp [CharSet.contains, newline]
    · have other : ¬ '\n' = a := fun h => newline h.symm
      have read : CharSet.noNewline.contains a = true := by simp [CharSet.contains, newline]
      simp [read, ih, other]

theorem run_lines {starts : List (List Char)} {c : Cursor} :
    ((lines starts).run none atEnd c).succeeds = true ↔
      ∃ start ∈ starts, ∃ rest, c.after = start ++ rest ∧ '\n' ∉ rest := by
  have line {start : List Char} {c : Cursor} :
      ((spelled start restOfLine).run none atEnd c).succeeds = true ↔
        ∃ rest, c.after = start ++ rest ∧ '\n' ∉ rest := by
    rw [run_spelled, run_restOfLine, Cursor.after_forth]
    constructor
    · rintro ⟨⟨rest, here⟩, none⟩
      exact ⟨rest, here, by simpa [here] using none⟩
    · rintro ⟨rest, here, none⟩
      exact ⟨⟨rest, here⟩, by simpa [here] using none⟩
  induction starts generalizing c with
  | nil => simp [lines, branches, run, Attempt.succeeds]
  | cons start starts ih =>
    have unfolded : (lines (start :: starts)).run none atEnd c =
      if (spelled start restOfLine).first.all fun set => !set.isGuard || c.meets set then
        (way ((spelled start restOfLine).run none atEnd) c).orElse fun t =>
          (lines starts).run none atEnd (c.onTrail t)
      else (lines starts).run none atEnd c := rfl
    have later {t : Trail} : ((lines starts).run none atEnd (c.onTrail t)).succeeds = true ↔
        ∃ start ∈ starts, ∃ rest, c.after = start ++ rest ∧ '\n' ∉ rest := ih
    have passed : ((lines starts).run none atEnd c).succeeds = true ↔
        ∃ start ∈ starts, ∃ rest, c.after = start ++ rest ∧ '\n' ∉ rest := ih
    simp only [unfolded, List.mem_cons, exists_eq_or_imp]
    split
    · rw [Attempt.succeeds_orElse fun t => later, succeeds_way, line]
      rfl
    · next refused =>
      -- The first branch is passed over when the next character is not its first.
      rw [passed, or_iff_right]
      rintro ⟨rest, here, _⟩
      cases start with
      | nil => exact refused rfl
      | cons a text =>
        have begins : (spelled (a :: text) restOfLine).first = some (.literal .exact a.toNat) := rfl
        have met : c.meets (.literal .exact a.toNat) = true := by
          rw [Cursor.meets_literal_exact, here]
          rfl
        simp [begins, met] at refused

theorem least_width_spelled {group : Nat → Width} {text : List Char} {next : Regex} :
    ((spelled text next).width group).least = text.length + (next.width group).least := by
  induction text with
  | nil => simp [spelled]
  | cons a text ih =>
    have unfolded : ((spelled (a :: text) next).width group).least =
      1 + ((spelled text next).width group).least := rfl
    rw [unfolded, ih, List.length_cons]
    omega

theorem least_width_lines {group : Nat → Width} {starts : List (List Char)} {start : List Char}
    (h : start ∈ starts) : ((lines starts).width group).least ≤ start.length := by
  induction starts with
  | nil => cases h
  | cons s starts ih =>
    have unfolded : ((lines (s :: starts)).width group).least =
      min ((spelled s restOfLine).width group).least ((lines starts).width group).least := rfl
    have rest : (restOfLine.width group).least = 0 := rfl
    rw [unfolded, least_width_spelled, rest]
    cases h with
    | head => exact Nat.min_le_left _ _
    | tail _ h => exact Nat.le_trans (Nat.min_le_right _ _) (ih h)

theorem fullMatch_spelled_lines {front text : List Char} {starts : List (List Char)} :
    (spelled front (lines starts)).fullMatch text = true ↔
      ∃ start ∈ starts, ∃ rest, text = front ++ start ++ rest ∧ '\n' ∉ rest := by
  simp only [fullMatch, Bool.and_eq_true, decide_eq_true_eq, run_spelled, run_lines,
    Cursor.after_forth, Cursor.start, least, least_width_spelled]
  constructor
  · rintro ⟨_, ⟨rest, rfl⟩, start, known, rest', here, none⟩
    rw [List.drop_left] at here
    exact ⟨start, known, rest', by rw [here, List.append_assoc], none⟩
  · rintro ⟨start, known, rest, rfl, none⟩
    have narrow : ((lines starts).width (.ofGroups ((spelled front (lines starts)).groups []))).least
        ≤ start.length := least_width_lines known
    refine ⟨?_, ⟨start ++ rest, List.append_assoc _ _ _⟩, start, known, rest, ?_, none⟩
    · simp only [List.length_append]
      omega
    · rw [List.append_assoc, List.drop_left]

end EdgeSieve.Regex
