import EdgeSieve.NameSet
import EdgeSieve.Pattern

namespace EdgeSieve

namespace Pattern

def systemNames : Pattern where
  text := "java\\..*|jdk\\..*|javafx\\..*"
  regex := .spelled ['j'] (.lines ["ava.".toList, "dk.".toList, "avafx.".toList])
  written := ⟨⟨fun _ => none⟩, rfl⟩

def systemStarts : List String := ["java.", "jdk.", "javafx."]

theorem matchesAll_systemNames {name : String} :
    systemNames.matchesAll name = true ↔
      ∃ start ∈ systemStarts, ∃ rest, name.toList = start.toList ++ rest ∧ '\n' ∉ rest := by
  simp [matchesAll, systemNames, Regex.fullMatch_spelled_lines, systemStarts]

end Pattern

structure ModuleInfo : Type where
  name : String
  isSystem : Bool
  isPlatform : Bool
  exports : NameSet
  deriving DecidableEq

namespace ModuleInfo

def unnamed : ModuleInfo := ⟨"", false, false, ∅⟩

def isSystemName (name : String) : Bool := name ≠ "" && Pattern.systemNames.matchesAll name

def named (name : String) (exports : List String) (isPlatform : Option Bool) : ModuleInfo where
  name := name
  isSystem := isSystemName name
  isPlatform := isPlatform.getD (isSystemName name)
  exports := .ofList exports

def isJdk (m : ModuleInfo) : Bool := m.isSystem || m.isPlatform

def isExported (m : ModuleInfo) (package : String) : Bool := decide (package ∈ m.exports)

end ModuleInfo

end EdgeSieve
