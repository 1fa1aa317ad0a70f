import TextureAtlas.Failure
import TextureAtlas.Table

/-! # A registry of labels

Remembers for each id the first label that claimed it. A second label on the same id is a fault and
leaves the registry as it was. -/
set_option autoImplicit false

namespace TextureAtlas

structure LabelRegistry where
  labels : Table FragmentId String

namespace LabelRegistry

def empty : LabelRegistry := ⟨Table.empty⟩

def size (registry : LabelRegistry) : Nat := registry.labels.size

def isEmpty (registry : LabelRegistry) : Bool := registry.labels.isEmpty

def claim (registry : LabelRegistry) (id : FragmentId) (label : String) :
    Except Fault Unit × LabelRegistry :=
  match registry.labels.get? id with
  | none => (.ok (), ⟨registry.labels.insert id label⟩)
  | some known =>
    (if known = label then .ok () else .error (.collision id known label), registry)

end LabelRegistry
end TextureAtlas
