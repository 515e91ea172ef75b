import IrradianceField.Description.Buffer
import IrradianceField.DistanceField.Shape
import IrradianceField.DistanceField.Voxels

/-!
Descriptions of scenes: shapes, fields of distances, and the radiance of the sky by direction.
-/

namespace IrradianceField

open Datum

variable {α : Type} [Scalar α] [Readable α]

instance : Readable (Shape α) := ⟨fun d => do
  let vector (i : Nat) : Answer (Vec3 α) := Readable.triple d i
  match (← d.nth 0 : String) with
  | "sphere" => return .sphere (← vector 1) (← d.nth 4)
  | "plane" => return .plane (← vector 1) (← d.nth 4)
  | "box" => return .box (← vector 1) (← vector 4)
  | "room" => return .room (← vector 1) (← vector 4)
  | "const" => return .constant (← d.nth 1)
  | _ => .malformed⟩

instance : Readable (Cube α) := ⟨fun d => do
  let v : Vec4 α ← d.as
  return ⟨v.xyz, v.w⟩⟩

instance : Readable (VoxelLayout α) := ⟨fun d => do
  let cubes ← d.get "cascades"
  return ⟨Readable.vectorOf _ cubes ⟨.zero, 0.0⟩, ← d.get "res", cubes.length⟩⟩

/-- The values of voxels are listed, or measured in a scene of shapes. -/
instance : Readable (Voxels α) := ⟨fun d => do
  let layout : VoxelLayout α ← d.as
  match d.field? "scene" with
  | some shapes => Voxels.ofDistance layout (Shape.nearest (← shapes.as))
  | none =>
    let layer := layout.resolution * layout.resolution
    return ⟨layout, ← d.scalars "voxels" (layer * layout.resolution * layout.cascades)⟩⟩

/-- A field of shapes or of voxels, with the layout of the latter. -/
instance : Readable (DistanceField α × Option (VoxelLayout α)) := ⟨fun d => do
  match d.field? "grid" with
  | some grid =>
    let v : Voxels α ← grid.as
    return (v.field, some v.layout)
  | none => return (Shape.field (← d.get "scene") (← d.get "voxel"), none)⟩

instance : Readable (Vec3 α → Vec3 α) := ⟨fun d => do
  match (← d.nth 0 : String) with
  | "const" =>
    let color : Vec3 α ← d.nth 1
    return fun _ => color
  | "linear" =>
    let rows : Vec3 (Vec3 α) ← d.nth 1
    let base ← d.nth 2
    return fun dir => Vec3.map (·.dot dir) rows + base
  | "step" =>
    let above ← d.nth 1
    let below ← d.nth 2
    return fun dir => if Scalar.lt 0.0 dir.y then above else below
  | _ => .malformed⟩

end IrradianceField
