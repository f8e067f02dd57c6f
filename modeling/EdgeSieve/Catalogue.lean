namespace EdgeSieve

structure Catalogue : Type where
  modules : List (String × List String)
  distinct : (modules.map (·.1)).Nodup
  deriving DecidableEq

namespace Catalogue

instance : EmptyCollection Catalogue := ⟨⟨[], .nil⟩⟩

def packages? (c : Catalogue) (name : String) : Option (List String) := c.modules.lookup name

def size (c : Catalogue) : Nat := c.modules.length

def insert (c : Catalogue) (name : String) (packages : List String) : Catalogue where
  modules := (name, packages) :: c.modules.filter (·.1 != name)
  distinct := by
    refine List.nodup_cons.mpr ⟨?_, ?_⟩
    · simp only [List.mem_map, List.mem_filter, bne_iff_ne]
      rintro ⟨m, ⟨_, other⟩, same⟩
      exact other same
    · exact c.distinct.sublist (List.filter_sublist.map _)

def ofList (modules : List (String × List String)) : Catalogue :=
  modules.foldl (fun c (name, packages) => c.insert name packages) ∅

end Catalogue

structure UnknownModule : Type where
  name : String
  known : Int
  deriving DecidableEq

namespace UnknownModule

def message (u : UnknownModule) : String :=
  "Module '" ++ u.name ++ "' not found; cannot expand it to packages (" ++ u.known.repr ++
    " modules known)"

end UnknownModule

end EdgeSieve
