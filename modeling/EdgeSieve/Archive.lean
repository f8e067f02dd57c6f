import EdgeSieve.ClassName
import EdgeSieve.ModuleInfo
import EdgeSieve.Text.Quoted

/-!
Archives of classes, and the world in which classes are found in them. Two archives may read the
same and still be different ones; what tells them apart is their place in the world.
-/

namespace EdgeSieve

structure Archive : Type where
  name : String
  module : ModuleInfo
  entries : List String
  deriving DecidableEq

namespace Archive

def display (a : Archive) : String :=
  "Archive(" ++ Text.quoted a.name ++ ", module=" ++ Text.quoted a.module.name ++ ")"

end Archive

structure Placed : Type where
  slot : Nat
  archive : Archive
  deriving DecidableEq

def Placed.same (a b : Placed) : Bool := a.slot == b.slot

structure World : Type where
  archives : List Archive
  slotOf : ClassName → Option Nat

namespace World

def placed? (w : World) (slot : Nat) : Option Placed := w.archives[slot]?.map (⟨slot, ·⟩)

def locate (w : World) (c : ClassName) : Option Placed := (w.slotOf c).bind w.placed?

def allPlaced (w : World) : List Placed := w.archives.zipIdx.map fun (a, i) => ⟨i, a⟩

end World

end EdgeSieve
