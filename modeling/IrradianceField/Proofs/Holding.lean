import IrradianceField.Proofs.Mirroring

/-!
Holding: whatever is called of a renderer, the tiles that its registry hands out lie apart from each
other, within an atlas of the configured size.
-/

namespace IrradianceField

variable {A α : Type} [RectAllocator A] {laws : RectAllocator.Laws A}

def RectAllocator.Laws.RefusesOthers (laws : RectAllocator.Laws A) : Prop :=
  ∀ a size, laws.Valid a → ¬IsTileSize size → RectAllocator.allocate a size = (none, a)

namespace Registry

variable {r : Registry A α} {id : Nat}

theorem answered (refuses : laws.RefusesOthers) (sizes : Vector (Vec2 Nat) directionsCount) :
    AreAnswered laws sizes := by
  intro dir _
  by_cases proper : IsTileSize (sizeIn sizes dir)
  · exact .inl proper
  · exact .inr fun a valid => refuses a _ valid proper

@[simp] theorem resolution_setObject [Scalar α] (desc : ObjectDesc α) :
    (r.setObject id desc).1.resolution = r.resolution := by
  rcases setObject_cases r id desc with ⟨e, -, -, changed⟩ | ⟨-, -, -, added⟩ | ⟨-, same⟩
  · rw [changed]
    rfl
  · rw [added]
    rfl
  · rw [same]

@[simp] theorem resolution_removeObject : (r.removeObject id).1.resolution = r.resolution := by
  rw [removeObject]
  split <;> rfl

theorem Holds.reconfigure {resolution maxObjects : Nat}
    {result : Registry A α × List RegistryMessage} (holds : Holds laws r)
    (refuses : laws.RefusesOthers) (changed : r.reconfigure resolution maxObjects = .ok result) :
    Holds laws result.1 ∧ result.1.resolution = resolution := by
  have after := holds.reallocated (fun e _ => answered refuses e.desc.tileSizes) changed
  exact ⟨after.holds holds.unique, after.size⟩

end Registry

namespace Renderer

open Recorded

variable {r r' : Renderer A α} {config : Config α} {generation : Nat} {action : Action α}
  {actions : List (Action α)}

/-- The registry of a renderer holds its tiles, and the atlas has a size that is known everywhere. -/
structure HoldsTiles (laws : RectAllocator.Laws A) (r : Renderer A α) : Prop where
  registry : Registry.Holds laws r.registry
  resolution : r.registry.resolution = r.config.atlasResolution
  constants : r.atlas.value.resolution = r.config.atlasResolution
  positive : 0 < r.config.atlasResolution
  small : r.config.atlasResolution * r.config.atlasResolution ≤ 8388608

variable [Scalar α]

omit [RectAllocator A] in
theorem resolution_of_createResources
    (done : (createResources config generation).result = .ok ()) :
    0 < config.atlasResolution ∧ config.atlasResolution * config.atlasResolution ≤ 8388608 := by
  obtain ⟨problems, validated, done⟩ := result_bind_eq_ok.mp done
  obtain ⟨usable, -⟩ := result_andThen_eq_ok.mp done
  have valid := result_checked_eq_ok.mp validated
  rw [List.isEmpty_iff.mp (result_ensure_eq_ok.mp usable)] at valid
  obtain ⟨probes, -, done⟩ := bind_eq_ok.mp valid
  obtain ⟨bytes, counted, done⟩ := bind_eq_ok.mp done
  obtain ⟨texels, squared, scaled⟩ := bind_eq_ok.mp counted
  obtain ⟨rfl, -⟩ := Size.mul_eq_ok.mp squared
  obtain ⟨rfl, -⟩ := Size.mul_eq_ok.mp scaled
  simp only [pure_eq_ok, Except.ok.injEq, List.append_eq_nil_iff, Config.reportIf] at done
  have fits : ¬(config.atlasResolution = 0 ∨
      maxBindingSize < config.atlasResolution * config.atlasResolution * 16) := by
    simpa using done.1.1.1.1.1.2
  rw [maxBindingSize] at fits
  omega

theorem HoldsTiles.start {registry : Registry A α} (holds : Registry.Holds laws registry)
    (same : registry.resolution = config.atlasResolution)
    (resources : (createResources config generation).result = .ok ()) :
    (start config generation registry).HoldsTiles laws where
  registry := holds
  resolution := same
  constants := rfl
  positive := (resolution_of_createResources resources).1
  small := (resolution_of_createResources resources).2

theorem holdsTiles_create (done : (create config : Recorded α (Renderer A α)).result = .ok r) :
    r.HoldsTiles laws := by
  obtain ⟨resources, done⟩ := result_andThen_eq_ok.mp done
  obtain ⟨registry, made, ended⟩ := result_bind_eq_ok.mp done
  obtain ⟨holds, same, -⟩ : Registry.Holds laws registry ∧ _ :=
    Registry.holds_create (result_checked_eq_ok.mp made)
  obtain rfl := Except.ok.inj ended
  exact .start holds same resources

theorem HoldsTiles.reconfigure (holds : r.HoldsTiles laws) (refuses : laws.RefusesOthers)
    (done : (r.reconfigure config).result = .ok r') : r'.HoldsTiles laws := by
  rw [Renderer.reconfigure] at done
  by_cases unchanged : config.same r.config = true
  · rw [if_pos unchanged] at done
    obtain rfl := Except.ok.inj done
    exact holds
  · rw [if_neg unchanged] at done
    obtain ⟨resources, done⟩ := result_andThen_eq_ok.mp done
    obtain ⟨⟨registry, log⟩, resized, done⟩ := result_bind_eq_ok.mp done
    obtain ⟨-, ended⟩ := result_andThen_eq_ok.mp done
    obtain rfl := Except.ok.inj ended
    obtain ⟨held, same⟩ := holds.registry.reconfigure refuses (result_checked_eq_ok.mp resized)
    exact { HoldsTiles.start held same resources with }

theorem HoldsTiles.flush (holds : r.HoldsTiles laws) (done : r.flush.result = .ok r') :
    r'.HoldsTiles laws := by
  obtain ⟨r₁, objects, done⟩ := result_bind_eq_ok.mp done
  obtain ⟨r₂, sky, done⟩ := result_bind_eq_ok.mp done
  have first : r₁.HoldsTiles laws := by
    rcases flushObjects_eq_ok.mp objects with ⟨-, rfl⟩ | ⟨-, -, rfl⟩
    · exact holds
    · obtain ⟨unique, sized, ledger⟩ := holds.registry
      exact { holds with registry := ⟨unique, sized, ledger⟩ }
  have second : r₂.HoldsTiles laws := by
    rw [flushSky] at sky
    cases dirty : r₁.skyIsDirty with
    | false =>
        rw [dirty] at sky
        obtain rfl := Except.ok.inj sky
        exact first
    | true =>
        rw [dirty] at sky
        obtain ⟨-, ended⟩ := result_andThen_eq_ok.mp sky
        obtain rfl := Except.ok.inj ended
        exact { first with }
  simp only [result_bind_eq_ok, result_flushStaged, Except.ok.injEq, exists_eq_left'] at done
  obtain rfl := Except.ok.inj done
  exact { second with }

theorem HoldsTiles.act (holds : r.HoldsTiles laws) (refuses : laws.RefusesOthers)
    (done : (r.act action).result = .ok r') : r'.HoldsTiles laws := by
  cases action with
  | call c =>
      cases c with
      | reconfigure config => exact holds.reconfigure refuses done
      | set id desc =>
          obtain rfl := Except.ok.inj (result_andThen_eq_ok.mp done).2
          exact { holds with
            registry := holds.registry.setObject (Registry.answered refuses _)
            resolution := (Registry.resolution_setObject desc).trans holds.resolution }
      | remove id =>
          obtain rfl := Except.ok.inj (result_andThen_eq_ok.mp done).2
          exact { holds with
            registry := holds.registry.removeObject id
            resolution := Registry.resolution_removeObject.trans holds.resolution }
      | takeDirtyTiles =>
          obtain rfl := Except.ok.inj done
          obtain ⟨unique, sized, ledger⟩ := holds.registry
          exact { holds with registry := ⟨unique, sized, ledger⟩ }
      | flush => exact holds.flush done
  | update viewPos raysRotation =>
      obtain ⟨cascades, -, done⟩ := result_bind_eq_ok.mp done
      obtain ⟨volume, -, ended⟩ := result_bind_eq_ok.mp done
      obtain rfl := Except.ok.inj ended
      exact { holds with }
  | writeField cubes values =>
      obtain ⟨-, done⟩ := result_andThen_eq_ok.mp done
      obtain ⟨expected, -, done⟩ := result_bind_eq_ok.mp done
      obtain ⟨-, done⟩ := result_andThen_eq_ok.mp done
      obtain ⟨-, ended⟩ := result_andThen_eq_ok.mp done
      obtain rfl := Except.ok.inj ended
      exact { holds with }
  | writeTile rect c =>
      obtain rfl := Except.ok.inj (result_andThen_eq_ok.mp done).2
      exact holds
  | writeAtlas c =>
      obtain rfl := Except.ok.inj (result_andThen_eq_ok.mp done).2
      exact holds
  | writeSky radiance =>
      obtain ⟨sky, -, ended⟩ := result_bind_eq_ok.mp done
      obtain rfl := Except.ok.inj ended
      exact { holds with }
  | writeScreen clipToWorld c =>
      obtain ⟨pixels, -, done⟩ := result_bind_eq_ok.mp done
      obtain ⟨-, done⟩ := result_andThen_eq_ok.mp done
      obtain ⟨-, done⟩ := result_andThen_eq_ok.mp done
      obtain ⟨-, done⟩ := result_andThen_eq_ok.mp done
      obtain ⟨-, ended⟩ := result_andThen_eq_ok.mp done
      obtain rfl := Except.ok.inj ended
      exact { holds with }

theorem HoldsTiles.along (holds : r.HoldsTiles laws) (refuses : laws.RefusesOthers)
    (done : (actions.foldlM Renderer.act r).result = .ok r') : r'.HoldsTiles laws := by
  induction actions generalizing r with
  | nil =>
      obtain rfl := Except.ok.inj done
      exact holds
  | cons action rest ih =>
      rw [List.foldlM_cons] at done
      obtain ⟨r₁, first, others⟩ := result_bind_eq_ok.mp done
      exact ih (holds.act refuses first) others

theorem holdsTiles_of_session (refuses : laws.RefusesOthers)
    (done : (session config actions : Recorded α (Renderer A α)).result = .ok r) :
    r.HoldsTiles laws := by
  obtain ⟨start, created, called⟩ := result_bind_eq_ok.mp done
  exact (holdsTiles_create created).along refuses called

end Renderer

end IrradianceField
