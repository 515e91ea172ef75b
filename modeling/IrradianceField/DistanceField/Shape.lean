import IrradianceField.DistanceField.Basic

/-!
Analytic distance fields: the nearest of a list of shapes.
-/

namespace IrradianceField

inductive Shape (α : Type) where
  | sphere (center : Vec3 α) (radius : α)
  | plane (normal : Vec3 α) (offset : α)
  | box (center extent : Vec3 α)
  | room (center extent : Vec3 α)
  | constant (distance : α)
  deriving Repr

namespace Shape

open Scalar

variable {α : Type} [Scalar α]

def boxDistance (center extent pos : Vec3 α) : α := ((pos - center).abs - extent).maxElement

def distance (pos : Vec3 α) : Shape α → α
  | sphere center radius => (pos - center).length - radius
  | plane normal offset => pos.dot normal - offset
  | box center extent => boxDistance center extent pos
  | room center extent => -boxDistance center extent pos
  | constant d => d

def nearest (shapes : List (Shape α)) (pos : Vec3 α) : α :=
  shapes.foldl (fun best shape => minNum best (shape.distance pos)) (1.0 / 0.0)

def field (shapes : List (Shape α)) (voxelSize : α) : DistanceField α where
  sample pos := .ok (nearest shapes pos)
  voxelSize _ := .ok voxelSize
  cascadeAt _ := .ok 0

end Shape

end IrradianceField
