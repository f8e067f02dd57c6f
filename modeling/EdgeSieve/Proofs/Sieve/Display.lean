import EdgeSieve.Proofs.NameSet
import EdgeSieve.Proofs.Text.Quoted
import EdgeSieve.Sieve

/-!
What archives and sieves look like in print tells what is printed of them. The names in an archive's
form are quoted, so each can be told from what follows it. A summary is read from its last line up:
the include pattern may have any text, also one that looks like the lines after it, but each of
those is one line.
-/

namespace EdgeSieve

open Text

namespace Archive

theorem toList_display (a : Archive) : a.display.toList =
    "Archive(".toList ++ (quoted a.name).toList ++ ", module=".toList ++
      (quoted a.module.name).toList ++ [')'] := by
  simp only [display, String.toList_append]
  rfl

theorem printable_display (a : Archive) : Printable a.display.toList := by
  have opening : Printable "Archive(".toList := by decide
  have between : Printable ", module=".toList := by decide
  have closing : Printable [')'] := by decide
  rw [toList_display]
  exact (((opening.append (printable_quoted _)).append between).append
    (printable_quoted _)).append closing

theorem display_eq_iff {a b : Archive} :
    a.display = b.display ↔ a.name = b.name ∧ a.module.name = b.module.name := by
  constructor
  · intro same
    have texts := congrArg String.toList same
    simp only [toList_display, List.append_assoc, List.append_cancel_left_eq] at texts
    obtain ⟨names, texts⟩ := quoted_free _ _ _ _ texts
    rw [List.append_cancel_left_eq] at texts
    exact ⟨names, (quoted_free _ _ _ _ texts).1⟩
  · rintro ⟨names, modules⟩
    rw [display, display, names, modules]

end Archive

/-- Archives look alike in print just when their names and those of their modules are the same, and
each is printed on one line. -/
theorem archives_displayed_apart :
    (∀ a b : Archive, a.display = b.display ↔ a.name = b.name ∧ a.module.name = b.module.name) ∧
      ∀ a : Archive, '\n' ∉ a.display.toList ∧ '\r' ∉ a.display.toList := by
  refine ⟨fun _ _ => Archive.display_eq_iff, fun a => ?_⟩
  have printable := a.printable_display
  exact ⟨printable.newline_not_mem, printable.carriageReturn_not_mem⟩

namespace Sieve

theorem truth_eq_iff {a b : Bool} : truth a = truth b ↔ a = b := by
  cases a <;> cases b <;> decide

def flagLine (label : String) (flag : Bool) : String := label ++ truth flag

def requiresLine (requires : NameSet) : String := "requires: " ++ quotedList requires.toList

def lines (included : String) (archive package : Bool) (requires : NameSet) : String :=
  "include pattern: " ++ included ++ "\n" ++ flagLine "filter same archive: " archive ++ "\n" ++
    flagLine "filter same package: " package ++ "\n" ++ requiresLine requires ++ "\n"

def includedText (s : Sieve) : String := (s.included.map Pattern.text).getD "None"

theorem summary_eq_lines (s : Sieve) :
    s.summary = lines s.includedText s.dropSameArchive s.dropSamePackage s.requires := by
  unfold summary lines includedText flagLine requiresLine
  simp only [← String.append_assoc]

theorem newline_not_mem_flagLine {label : String} (h : Printable label.toList) (flag : Bool) :
    '\n' ∉ (flagLine label flag).toList := by
  have value : Printable (truth flag).toList := by cases flag <;> decide
  rw [flagLine, String.toList_append]
  exact (h.append value).newline_not_mem

theorem newline_not_mem_requiresLine (requires : NameSet) :
    '\n' ∉ (requiresLine requires).toList := by
  have label : Printable "requires: ".toList := by decide
  rw [requiresLine, String.toList_append]
  exact (label.append (printable_quotedList _)).newline_not_mem

theorem requiresLine_eq_iff {xs ys : NameSet} : requiresLine xs = requiresLine ys ↔
    ∀ name, name ∈ xs ↔ name ∈ ys := by
  constructor
  · intro same name
    have lists : quotedList xs.toList = quotedList ys.toList :=
      (String.append_right_inj _).mp same
    have names : xs.toList = ys.toList :=
      quotedList_free.injective (congrArg String.toList lists)
    rw [NameSet.mem_def, NameSet.mem_def, names]
  · intro same
    rw [NameSet.ext same]

theorem lines_eq_iff {text text' : String} {archive archive' package package' : Bool}
    {requires requires' : NameSet} :
    lines text archive package requires = lines text' archive' package' requires' ↔
      ((text = text' ∧ archive = archive') ∧ package = package') ∧
        ∀ name, name ∈ requires ↔ name ∈ requires' := by
  have archiveLabel : Printable "filter same archive: ".toList := by decide
  have packageLabel : Printable "filter same package: ".toList := by decide
  -- The last line comes off first, and what is left of the text ends in a line again.
  unfold lines
  rw [String.append_left_inj,
    append_line_inj (newline_not_mem_requiresLine _) (newline_not_mem_requiresLine _),
    append_line_inj (newline_not_mem_flagLine packageLabel _)
      (newline_not_mem_flagLine packageLabel _),
    append_line_inj (newline_not_mem_flagLine archiveLabel _)
      (newline_not_mem_flagLine archiveLabel _)]
  simp only [flagLine, String.append_right_inj, truth_eq_iff, requiresLine_eq_iff]

end Sieve

/-- Sieves have the same summary just when they drop the same edges within packages and archives,
require modules of the same names and have include patterns of the same text, where no pattern
stands as the text None. -/
theorem sieves_summarised_apart (s t : Sieve) : s.summary = t.summary ↔
    s.dropSameArchive = t.dropSameArchive ∧ s.dropSamePackage = t.dropSamePackage ∧
      (∀ name, name ∈ s.requires ↔ name ∈ t.requires) ∧ s.includedText = t.includedText := by
  rw [s.summary_eq_lines, t.summary_eq_lines, Sieve.lines_eq_iff]
  constructor
  · rintro ⟨⟨⟨included, archive⟩, package⟩, requires⟩
    exact ⟨archive, package, requires, included⟩
  · rintro ⟨archive, package, requires, included⟩
    exact ⟨⟨⟨included, archive⟩, package⟩, requires⟩

end EdgeSieve
