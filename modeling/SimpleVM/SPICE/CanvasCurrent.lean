import Mathlib.Data.Set.Insert
import SimpleVM.Raster.Mirror
import SimpleVM.SPICE.CSDisplay
import SimpleVM.Transition.Run
/-!
# The texture of a canvas

While a display shows a canvas, its texture agrees with the canvas on every visible cell but those
that are accounted for: reported by no invalidation yet, gathered in the dirty rectangle, copied by
a command still to be executed, or drawn when there was nothing to copy with. What is gathered is
never forgotten: as long as there is any, a completion is due that will draw it.
-/
namespace SimpleVM.SPICE.Display

open Raster Transition

namespace MTLCommandBuffer

variable {source : BlitSource} {destination : MTLTexture} {origin c : Cell} {width height : Nat}
  {b : MTLCommandBuffer} {offset other : Nat × Nat}

theorem mem_offsets : offset ∈ offsets width height ↔ offset.1 < width ∧ offset.2 < height := by
  obtain ⟨i, j⟩ := offset
  simp only [offsets, List.mem_flatMap, List.mem_map, List.mem_range, Prod.mk.injEq]
  constructor
  · rintro ⟨_, row, _, column, rfl, rfl⟩
    exact ⟨column, row⟩
  · rintro ⟨column, row⟩
    exact ⟨j, row, i, column, rfl, rfl⟩

theorem target_injective (same : b.target offset = b.target other) : offset = other := by
  simp only [target, Prod.mk.injEq] at same
  exact Prod.ext (by omega) (by omega)

/-- A blit still has its whole region to copy. -/
theorem pending_blit :
    (blit source destination origin width height).pending =
      (⟨origin.1, origin.2, width, height⟩ : CGRect).cells := by
  ext c
  simp only [pending, blit, Set.mem_ofPred_eq, mem_offsets, CGRect.mem_cells]
  constructor
  · rintro ⟨offset, inside, rfl⟩
    simp only [target]
    omega
  · rintro ⟨left, right, top, bottom⟩
    have column : ((c.1 - origin.1).toNat : Int) = c.1 - origin.1 := Int.toNat_of_nonneg (by omega)
    have row : ((c.2 - origin.2).toNat : Int) = c.2 - origin.2 := Int.toNat_of_nonneg (by omega)
    exact ⟨((c.1 - origin.1).toNat, (c.2 - origin.2).toNat), by omega,
      Prod.ext (by simp only [target]; omega) (by simp only [target]; omega)⟩

/-- One texel less is to be copied. -/
theorem pending_filter :
    ({ b with uncopied := b.uncopied.filter (· ≠ offset) } : MTLCommandBuffer).pending =
      b.pending \ {b.target offset} := by
  ext c
  simp only [pending, Set.mem_ofPred_eq, Set.mem_sdiff, Set.mem_singleton_iff, List.mem_filter,
    decide_eq_true_eq]
  constructor
  · rintro ⟨left, ⟨listed, differs⟩, rfl⟩
    exact ⟨⟨left, listed, rfl⟩, fun same => differs (target_injective same)⟩
  · rintro ⟨⟨left, listed, rfl⟩, differs⟩
    refine ⟨left, ⟨listed, ?_⟩, rfl⟩
    rintro rfl
    exact differs rfl

theorem pending_nil (done : b.uncopied = []) : b.pending = ∅ := by
  simp [pending, done]

end MTLCommandBuffer

namespace Session

variable {s t : Session} {rect : CGRect} {texture : MTLTexture} {grants : Grants} {c : Cell}

/-! ### What drawing does -/

/-- The copy that `drawRegion:` commits. -/
def copyOf (s : Session) (buffer : MTLBuffer) (texture : MTLTexture) (rect : CGRect) :
    MTLCommandBuffer :=
  .blit
    (.buffer (buffer.contents + (s.display.canvasBufferOffset +
      (rect.y * s.display.canvasStride + rect.x * s.display.pixelSize))) s.display.canvasStride)
    texture (rect.x - s.display.visibleArea.x, rect.y - s.display.visibleArea.y) rect.width
    rect.height

/-- A region is not drawn without a buffer, is committed as a copy, or is lost with all that was
gathered. -/
theorem drawRegion_cases (s : Session) (rect : CGRect) :
    ((s.display.canvasBuffer = none ∨ s.display.canvasData = 0) ∧ s.drawRegion rect = s) ∨
    (∃ buffer texture, s.display.canvasBuffer = some buffer ∧
      s.display.copyDestination = some texture ∧
      s.drawRegion rect = { s with
        display := { s.display with canvasIsBusy := true }
        commands := s.commands ++ [s.copyOf buffer texture rect]
        drawsPending := s.drawsPending + 1
        lost := s.lost \ rect.cells }) ∨
    (s.display.copyDestination = none ∧
      ∃ lost, lost = s.lost ∪ rect.cells ∪ s.display.canvasDirtyRect.cells ∧
      s.drawRegion rect = { s with
        display := { s.display with canvasDirtyRect := .zero, canvasIsBusy := false }
        lost := lost }) := by
  cases buffer : s.display.canvasBuffer with
  | none =>
    left
    rw [drawRegion]
    simp [buffer]
  | some memory =>
    by_cases data : s.display.canvasData = 0
    · left
      rw [drawRegion]
      simp [buffer, data]
    · right
      cases target : s.display.copyDestination with
      | some texture =>
        left
        refine ⟨memory, texture, rfl, rfl, ?_⟩
        rw [drawRegion]
        simp [buffer, data, target, copyOf]
      | none =>
        right
        refine ⟨rfl, _, rfl, ?_⟩
        rw [drawRegion]
        simp only [buffer, data, if_false, target]
        split
        · next empty =>
          have none : s.display.canvasDirtyRect.cells = ∅ :=
            Set.eq_empty_of_forall_notMem fun c => CGRect.notMem_of_isEmpty empty
          rw [none, Set.union_empty]
          simp [loseRegion, buffer]
        · simp [loseRegion, buffer]

/-! ### The invariant -/

/-- Where the texture keeps a visible cell. -/
def place (s : Session) (c : Cell) : Cell :=
  (c.1 - s.display.visibleArea.x, c.2 - s.display.visibleArea.y)

/-- The cells a texture shows. -/
def shown (s : Session) (texture : MTLTexture) (c : Cell) : Pixel :=
  s.texels texture.storage (s.place c)

/-- The cells that a command is still to copy into a texture. -/
def copying (s : Session) (texture : MTLTexture) : Set Cell :=
  {c | ∃ b ∈ s.commands, b.destination.storage = texture.storage ∧ s.place c ∈ b.pending}

/-- The cells a texture need not show: the accounts of what is not shown yet. -/
def stale (s : Session) (texture : MTLTexture) : Set Cell :=
  s.display.visibleArea.cellsᶜ ∪ s.unreported ∪ s.display.canvasDirtyRect.cells ∪ s.lost ∪
    s.copying texture

/-- The bookkeeping that does not depend on where the canvas is. -/
structure Kept (s : Session) : Prop where
  canvasOnly : s.display.isGLEnabled = false → ∀ b ∈ s.commands, b.isScanoutCopy = false
  targets : ∀ b ∈ s.commands, ∀ id, b.destination.storage = .device id → id < s.allocated
  regions : ∀ b ∈ s.commands, b.pending ⊆ b.region.cells
  own : ∀ texture, s.display.canvasTexture = some texture ∨ s.display.shadowTexture = some texture →
    ∃ id < s.allocated, texture.storage = .device id
  wrapped : ∀ texture, s.display.glTexture = some texture →
    ∃ surface, texture.storage = .surface surface
  presented : ∀ texture, s.display.presentTexture = some texture →
    s.display.shadowTexture = some texture
  device : s.display.canvasBuffer.isSome → s.display.device.isSome
  data : s.display.canvasData = 0 → s.display.canvasBuffer = none
  base : ∀ buffer, s.display.canvasBuffer = some buffer →
    buffer.contents + s.display.canvasBufferOffset = s.display.canvasData
  busy : s.display.canvasIsBusy = true → 0 < s.drawsPending
  gathered : s.display.canvasDirtyRect.isEmpty = false → s.display.canvasIsBusy = true

/-- A command copies the canvas where it stands now. -/
def Placed (s : Session) (texture : MTLTexture) (b : MTLCommandBuffer) : Prop :=
  b.source = .buffer (s.display.address
      (b.origin.1 + s.display.visibleArea.x, b.origin.2 + s.display.visibleArea.y))
    s.display.canvasStride ∧ b.destination = texture

/-- The texture follows the canvas, but for the cells accounted for and some more. -/
structure Follows (extra : Set Cell) (s : Session) (texture : MTLTexture) : Prop where
  format : texture.pixelFormat.bytes = s.display.pixelSize
  placed : ∀ b ∈ s.commands, b.destination.storage = texture.storage → s.Placed texture b
  mirrors : Mirrors (s.stale texture ∪ extra) (s.shown texture) s.canvas

/-- The invariant: where a canvas is shown, its texture follows it. -/
structure Tracked (extra : Set Cell) (s : Session) : Prop extends Kept s where
  follows : s.display.isGLEnabled = false → s.display.canvasBuffer.isSome →
    ∀ texture, s.display.canvasTexture = some texture →
      s.display.visibleArea.isEmpty = false → Follows extra s texture

variable {extra : Set Cell}

/-- A copy goes into memory that exists. -/
theorem Kept.destination (kept : Kept s) (target : s.display.copyDestination = some texture) (id : Nat)
    (storage : texture.storage = .device id) : id < s.allocated := by
  have held : ∀ id', texture.storage = .device id' → id' < s.allocated → id < s.allocated := by
    intro id' other below
    rw [storage] at other
    cases other
    exact below
  unfold CSDisplay.copyDestination at target
  split at target
  · cases target
  · unfold CSDisplay.renderSource CSDisplay.texture at target
    split at target
    · split at target
      · -- A scanout is shown: its shadow, or the surface, which the device did not allocate.
        cases present : s.display.presentTexture with
        | some shown =>
          rw [present] at target
          cases target
          obtain ⟨id', below, other⟩ := kept.own texture (.inr (kept.presented texture present))
          exact held id' other below
        | none =>
          rw [present] at target
          obtain ⟨surface, other⟩ := kept.wrapped texture target
          rw [storage] at other
          cases other
      · obtain ⟨id', below, other⟩ := kept.own texture (.inl target)
        exact held id' other below
    · cases target

/-- What a canvas is copied into is its texture. -/
theorem canvasTexture_of_copyDestination (canvas : s.display.isGLEnabled = false)
    (target : s.display.copyDestination = some texture) :
    s.display.canvasTexture = some texture := by
  unfold CSDisplay.copyDestination at target
  split at target
  · cases target
  · unfold CSDisplay.renderSource CSDisplay.texture at target
    split at target
    · rw [canvas] at target
      exact target
    · cases target

/-- The copy reads the canvas where it stands. -/
theorem placed_copyOf (kept : Kept s) {buffer : MTLBuffer}
    (present : s.display.canvasBuffer = some buffer) (texture : MTLTexture) (rect : CGRect) :
    s.Placed texture (s.copyOf buffer texture rect) := by
  refine ⟨?_, rfl⟩
  have base := kept.base buffer present
  have column : rect.x - s.display.visibleArea.x + s.display.visibleArea.x = rect.x := by omega
  have row : rect.y - s.display.visibleArea.y + s.display.visibleArea.y = rect.y := by omega
  simp only [copyOf, MTLCommandBuffer.blit, CSDisplay.address, column, row]
  congr 1
  omega

/-- The copy has all of its region to copy. -/
theorem place_mem_copyOf {buffer : MTLBuffer} :
    s.place c ∈ (s.copyOf buffer texture rect).pending ↔ c ∈ rect.cells := by
  rw [copyOf, MTLCommandBuffer.pending_blit]
  simp only [place, CGRect.mem_cells]
  omega

/-- Drawing a region settles it. -/
theorem Tracked.drawRegion (tracked : Tracked rect.cells s) : Tracked ∅ (s.drawRegion rect) := by
  rcases s.drawRegion_cases rect with ⟨nothing, same⟩ | ⟨buffer, texture, present, target, drawn⟩ |
    ⟨target, lost, rfl, drawn⟩
  · have none : s.display.canvasBuffer = none := nothing.elim id tracked.data
    rw [same]
    refine { tracked.toKept with follows := ?_ }
    intro _ some
    rw [none] at some
    cases some
  · rw [drawn]
    refine { tracked.toKept with
      canvasOnly := ?_, targets := ?_, regions := ?_, busy := ?_, gathered := ?_, follows := ?_ }
    · intro canvas b listed
      rcases List.mem_append.mp listed with old | new
      · exact tracked.canvasOnly canvas b old
      · cases List.mem_singleton.mp new
        rfl
    · intro b listed id storage
      rcases List.mem_append.mp listed with old | new
      · exact tracked.targets b old id storage
      · cases List.mem_singleton.mp new
        exact tracked.toKept.destination target id storage
    · intro b listed
      rcases List.mem_append.mp listed with old | new
      · exact tracked.regions b old
      · cases List.mem_singleton.mp new
        exact (MTLCommandBuffer.pending_blit).le
    · intro _
      exact Nat.succ_pos _
    · intro _
      rfl
    · intro canvas some other shownTexture visible
      have follows := tracked.follows canvas some other shownTexture visible
      have same : texture = other := by
        have held := canvasTexture_of_copyDestination canvas target
        rw [shownTexture] at held
        exact (Option.some.inj held).symm
      subst same
      refine ⟨follows.format, ?_, ?_⟩
      · intro b listed storage
        rcases List.mem_append.mp listed with old | new
        · exact follows.placed b old storage
        · cases List.mem_singleton.mp new
          exact placed_copyOf tracked.toKept present texture rect
      · -- The cells of the region go from every other account to the copy's.
        apply follows.mirrors.mono
        rintro c ((((((hidden | unreported) | dirty) | lost) | copying)) | inside)
        · exact .inl (.inl (.inl (.inl (.inl hidden))))
        · exact .inl (.inl (.inl (.inl (.inr unreported))))
        · exact .inl (.inl (.inl (.inr dirty)))
        · by_cases drawn : c ∈ rect.cells
          · exact .inl (.inr ⟨_, List.mem_append_right _ List.mem_cons_self, rfl,
              place_mem_copyOf.mpr drawn⟩)
          · exact .inl (.inl (.inr ⟨lost, drawn⟩))
        · obtain ⟨b, listed, storage, pending⟩ := copying
          exact .inl (.inr ⟨b, List.mem_append_left _ listed, storage, pending⟩)
        · exact .inl (.inr ⟨_, List.mem_append_right _ List.mem_cons_self, rfl,
            place_mem_copyOf.mpr inside⟩)
  · rw [drawn]
    refine { tracked.toKept with busy := ?_, gathered := ?_, follows := ?_ }
    · intro busy
      cases busy
    · intro dirty
      cases dirty
    · intro canvas some texture shownTexture visible
      have follows := tracked.follows canvas some texture shownTexture visible
      refine ⟨follows.format, follows.placed, ?_⟩
      apply follows.mirrors.mono
      rintro c ((((((hidden | unreported) | dirty) | lost) | copying)) | inside)
      · exact .inl (.inl (.inl (.inl (.inl hidden))))
      · exact .inl (.inl (.inl (.inl (.inr unreported))))
      · exact .inl (.inl (.inr (.inr dirty)))
      · exact .inl (.inl (.inr (.inl (.inl lost))))
      · exact .inl (.inr copying)
      · exact .inl (.inl (.inr (.inl (.inr inside))))

/-- Where there is no canvas to show, nothing has to follow it. -/
theorem Kept.tracked (kept : Kept s) (none : s.display.canvasBuffer.isSome → False) :
    Tracked extra s :=
  { kept with follows := fun _ some => (none some).elim }

/-! ### A new texture -/

/-- The state with a texture nothing has been copied into. -/
def withTexture (s : Session) (texture : Option MTLTexture) : Session :=
  { s with
    display := { s.display with canvasTexture := texture }
    allocated := s.allocated + 1
    lost := Set.univ }

/-- The state with a buffer around the canvas. -/
def withBuffer (s : Session) (buffer : Option MTLBuffer) (offset : Int) : Session :=
  { s with display := { s.display with canvasBufferOffset := offset, canvasBuffer := buffer } }

theorem rebuildCanvasTexture_cases (s : Session) (grants : Grants) :
    ((s.display.visibleArea.isEmpty = true ∨ s.display.device = none) ∧
      s.rebuildCanvasTexture grants = s) ∨
    (s.display.visibleArea.isEmpty = false ∧ s.display.device ≠ none ∧ ∃ texture,
      (∀ t, texture = some t → t.storage = .device s.allocated ∧
        t.pixelFormat = s.display.canvasPixelFormat ∧
        t.bounds = ⟨0, 0, s.display.visibleArea.width, s.display.visibleArea.height⟩) ∧
      (s.rebuildCanvasTexture grants = s.withTexture texture ∨
        ∃ buffer, s.display.canvasData ≠ 0 ∧
          (∀ b, buffer = some b → b.contents = truncPage s.display.canvasData) ∧
          s.rebuildCanvasTexture grants =
            ((s.withTexture texture).withBuffer buffer
              (s.display.canvasData - truncPage s.display.canvasData)).drawRegion
              s.display.visibleArea)) := by
  unfold rebuildCanvasTexture
  simp only [Bool.or_eq_true, Option.isNone_iff_eq_none]
  split
  · next absent => exact .inl ⟨absent, rfl⟩
  · next present =>
    right
    refine ⟨Bool.eq_false_iff.mpr fun empty => present (.inl empty),
      fun none => present (.inr none),
      if grants.texture then some ⟨.device s.allocated, s.display.canvasPixelFormat,
        s.display.visibleArea.width, s.display.visibleArea.height⟩ else none, ?_, ?_⟩
    · intro t granted
      split at granted
      · cases granted
        exact ⟨rfl, rfl, rfl⟩
      · cases granted
    · split
      · exact .inl rfl
      · next aligned =>
        right
        refine ⟨_, ?_, ?_, rfl⟩
        · intro null
          apply aligned
          left
          rw [null]
          decide
        · intro b granted
          split at granted
          · cases granted
            rfl
          · cases granted

/-- A texture that nothing is copied into follows a canvas of which everything is lost. -/
theorem follows_of_lost (format : texture.pixelFormat = s.display.canvasPixelFormat)
    (fresh : ∀ b ∈ s.commands, b.destination.storage ≠ texture.storage)
    (lost : s.lost = Set.univ) : Follows extra s texture := by
  refine ⟨?_, ?_, ?_⟩
  · rw [format]
    unfold CSDisplay.canvasPixelFormat CSDisplay.pixelSize
    split <;> rfl
  · intro b listed same
    exact absurd same (fresh b listed)
  · apply mirrors_univ.mono
    intro c _
    have inside : c ∈ s.lost := by
      rw [lost]
      trivial
    exact .inl (.inl (.inr inside))

/-- Nothing is copied into memory that has not been allocated yet. -/
theorem Kept.unallocated (kept : Kept s) (storage : texture.storage = .device s.allocated) :
    ∀ b ∈ s.commands, b.destination.storage ≠ texture.storage := by
  intro b listed same
  rw [storage] at same
  exact Nat.lt_irrefl _ (kept.targets b listed _ same)

/-- A new texture shows nothing, and is the target of nothing. -/
theorem Kept.withTexture (kept : Kept s) {new : Option MTLTexture}
    (fresh : ∀ t, new = some t → t.storage = .device s.allocated ∧
      t.pixelFormat = s.display.canvasPixelFormat) : Tracked extra (s.withTexture new) := by
  refine { kept with targets := ?_, own := ?_, follows := ?_ }
  · intro b listed id storage
    exact Nat.lt_succ_of_lt (kept.targets b listed id storage)
  · rintro texture (drawn | shadow)
    · exact ⟨s.allocated, Nat.lt_succ_self _, (fresh texture drawn).1⟩
    · obtain ⟨id, below, storage⟩ := kept.own texture (.inr shadow)
      exact ⟨id, Nat.lt_succ_of_lt below, storage⟩
  · intro _ _ texture granted _
    obtain ⟨storage, format⟩ := fresh texture granted
    exact follows_of_lost format (kept.unallocated storage) rfl

/-- A buffer around the canvas, for a texture that shows nothing of it yet. -/
theorem Kept.withBuffer (kept : Kept s) {new : Option MTLTexture} {buffer : Option MTLBuffer}
    (fresh : ∀ t, new = some t → t.storage = .device s.allocated ∧
      t.pixelFormat = s.display.canvasPixelFormat)
    (device : s.display.device ≠ none) (data : s.display.canvasData ≠ 0)
    (contents : ∀ b, buffer = some b → b.contents = truncPage s.display.canvasData) :
    Tracked extra ((s.withTexture new).withBuffer buffer
      (s.display.canvasData - truncPage s.display.canvasData)) := by
  have tracked : Tracked extra (s.withTexture new) := kept.withTexture fresh
  refine { tracked.toKept with device := ?_, data := ?_, base := ?_, follows := ?_ }
  · intro _
    exact Option.isSome_iff_ne_none.mpr device
  · intro null
    exact absurd null data
  · intro b granted
    show b.contents + (s.display.canvasData - truncPage s.display.canvasData) = s.display.canvasData
    rw [contents b granted]
    omega
  · -- Everything is lost in the new texture, so any buffer will do.
    intro _ _ texture granted _
    obtain ⟨storage, format⟩ := fresh texture granted
    exact follows_of_lost format (kept.unallocated storage) rfl

/-- A rebuilt texture follows the canvas. -/
theorem Kept.rebuildCanvasTexture (kept : Kept s) : Tracked ∅ (s.rebuildCanvasTexture grants) := by
  rcases s.rebuildCanvasTexture_cases grants with ⟨absent, same⟩ | ⟨_, device, new, fresh, rebuilt⟩
  · rw [same]
    refine { kept with follows := ?_ }
    intro _ some _ _ visible
    rcases absent with empty | none
    · rw [empty] at visible
      cases visible
    · have present := kept.device some
      rw [none] at present
      cases present
  · have plain := fun t granted => (⟨(fresh t granted).1, (fresh t granted).2.1⟩ : _ ∧ _)
    rcases rebuilt with same | ⟨buffer, data, contents, same⟩
    · rw [same]
      exact kept.withTexture plain
    · rw [same]
      exact Tracked.drawRegion (kept.withBuffer plain device data contents)

/-! ### The events -/

/-- Vertices and readiness have no part in what a texture shows. -/
theorem Tracked.rebuildDisplayVertices (tracked : Tracked extra s) (ready : Bool) :
    Tracked extra { s with
      display := { s.display.rebuildDisplayVertices with ready := ready } } := by
  unfold CSDisplay.rebuildDisplayVertices
  split
  · exact { tracked.toKept with
      follows := fun canvas some texture shown visible =>
        let follows := tracked.follows canvas some texture shown visible
        ⟨follows.format, follows.placed, follows.mirrors⟩ }
  · exact { tracked.toKept with
      follows := fun canvas some texture shown visible =>
        let follows := tracked.follows canvas some texture shown visible
        ⟨follows.format, follows.placed, follows.mirrors⟩ }

/-- Wherever the visible area comes to lie, a new texture is made for it. -/
theorem Kept.updateVisibleArea (kept : Kept s) (rect : CGRect) (grants : Grants) :
    Tracked ∅ (s.updateVisibleArea rect grants) := by
  have rebuilt : ∀ placed : Session, Kept placed → Tracked ∅ (if placed.display.isGLEnabled then placed
      else placed.rebuildCanvasTexture grants) := by
    intro placed kept
    split
    · next enabled =>
      refine { kept with follows := ?_ }
      intro canvas
      rw [enabled] at canvas
      cases canvas
    · exact kept.rebuildCanvasTexture
  unfold Session.updateVisibleArea
  apply Tracked.rebuildDisplayVertices
  apply rebuilt
  split
  · exact { kept with }
  · exact { kept with }

theorem Tracked.updateMonitorArea (tracked : Tracked ∅ s) {monitors : List MonitorConfig}
    (taken : s.updateMonitorArea monitors grants = some t) : Tracked ∅ t := by
  have waiting : Tracked ∅ { s with display := { s.display with ready := false } } :=
    { tracked.toKept with
      follows := fun canvas some texture shown visible =>
        let follows := tracked.follows canvas some texture shown visible
        ⟨follows.format, follows.placed, follows.mirrors⟩ }
  unfold Session.updateMonitorArea at taken
  split at taken
  · cases taken
    exact tracked.toKept.updateVisibleArea _ _
  · split at taken
    · split at taken
      · cases taken
        exact waiting
      · cases taken
        exact waiting.toKept.updateVisibleArea _ _
    · split at taken
      · cases taken
        exact tracked.toKept.updateVisibleArea _ _
      · split at taken
        · cases taken
          exact tracked.toKept.updateVisibleArea _ _
        · cases taken
          exact tracked.toKept.updateVisibleArea _ _
    · cases taken

/-- A new canvas is shown once it has a texture of its own. -/
theorem Kept.primaryCreate (kept : Kept s) {format : SurfaceFormat} {width height stride : Nat}
    {imgdata : Int} {monitors : List MonitorConfig}
    (taken : s.primaryCreate format width height stride imgdata monitors grants = some t) :
    Tracked ∅ t := by
  unfold Session.primaryCreate at taken
  split at taken
  · next null =>
    have none := kept.data null
    apply Tracked.updateMonitorArea _ taken
    apply Kept.tracked
    · refine { kept with data := ?_, base := ?_ }
      · intro _
        exact none
      · intro buffer present
        rw [none] at present
        cases present
    · intro present
      rw [none] at present
      cases present
  · cases taken

theorem Kept.primaryDestroy (kept : Kept s) : Tracked ∅ s.primaryDestroy := by
  apply Kept.tracked
  · refine { kept with own := ?_, device := ?_, data := ?_, base := ?_, presented := ?_ }
    · rintro texture (canvas | shadow)
      · exact kept.own texture (.inl canvas)
      · cases shadow
    · intro texture present
      cases present
    · intro present
      cases present
    · intro _
      rfl
    · intro buffer present
      cases present
  · intro present
    cases present

theorem Tracked.mono {more : Set Cell} (tracked : Tracked extra s) (subset : extra ⊆ more) :
    Tracked more s := by
  refine { tracked.toKept with follows := ?_ }
  intro canvas some texture shown visible
  have follows := tracked.follows canvas some texture shown visible
  exact ⟨follows.format, follows.placed,
    follows.mirrors.mono (Set.union_subset_union_right _ subset)⟩

/-- What an invalidation reports is drawn, or gathered for when the copy under way is done. -/
theorem Tracked.invalidate (tracked : Tracked ∅ s) (taken : s.invalidate rect = some t) :
    Tracked ∅ t := by
  have reported : Tracked (rect.cells ∩ s.display.visibleArea.cells)
      { s with unreported := s.unreported \ rect.cells } := by
    refine { tracked.toKept with follows := ?_ }
    intro canvas some texture shown visible
    have follows := tracked.follows canvas some texture shown visible
    refine ⟨follows.format, follows.placed, follows.mirrors.mono ?_⟩
    rintro c ((((((hidden | unreported) | dirty) | lost) | copying)) | none)
    · exact .inl (.inl (.inl (.inl (.inl hidden))))
    · by_cases inside : c ∈ rect.cells
      · by_cases visible : c ∈ s.display.visibleArea.cells
        · exact .inr ⟨inside, visible⟩
        · exact .inl (.inl (.inl (.inl (.inl visible))))
      · exact .inl (.inl (.inl (.inl (.inr ⟨unreported, inside⟩))))
    · exact .inl (.inl (.inl (.inr dirty)))
    · exact .inl (.inl (.inr lost))
    · exact .inl (.inr copying)
    · cases none
  unfold Session.invalidate at taken
  split at taken
  · cases taken
  · split at taken
    · next apart =>
      cases taken
      exact reported.mono fun c both => (CGRect.notMem_of_null apart both).elim
    · next shown shared =>
      split at taken
      · next empty =>
        cases taken
        exact reported.mono fun c both =>
          (CGRect.notMem_of_isEmpty empty ((CGRect.mem_intersection shared).mpr both)).elim
      · split at taken
        · next busy =>
          cases taken
          refine { tracked.toKept with gathered := ?_, follows := ?_ }
          · intro _
            exact busy
          · intro canvas some texture present visible
            have follows := reported.follows canvas some texture present visible
            refine ⟨follows.format, follows.placed, follows.mirrors.mono ?_⟩
            rintro c ((((((hidden | unreported) | dirty) | lost) | copying)) | both)
            · exact .inl (.inl (.inl (.inl (.inl hidden))))
            · exact .inl (.inl (.inl (.inl (.inr unreported))))
            · exact .inl (.inl (.inl (.inr (CGRect.mem_union_left dirty))))
            · exact .inl (.inl (.inr lost))
            · exact .inl (.inr copying)
            · exact .inl (.inl (.inl (.inr
                (CGRect.mem_union_right ((CGRect.mem_intersection shared).mpr both)))))
        · cases taken
          apply Tracked.drawRegion
          exact reported.mono fun c both => (CGRect.mem_intersection shared).mpr both

/-- A completion draws what was gathered. -/
theorem Tracked.drawCompleted (tracked : Tracked ∅ s) (n : Nat) :
    Tracked ∅ { s with drawsPending := n }.drawCompleted := by
  have emptied : Tracked s.display.canvasDirtyRect.cells { s with
      drawsPending := n
      display := { s.display with canvasDirtyRect := .zero, canvasIsBusy := false } } := by
    refine { tracked.toKept with busy := ?_, gathered := ?_, follows := ?_ }
    · intro busy
      cases busy
    · intro dirty
      cases dirty
    · intro canvas some texture shown visible
      have follows := tracked.follows canvas some texture shown visible
      refine ⟨follows.format, follows.placed, follows.mirrors.mono ?_⟩
      rintro c ((((((hidden | unreported) | dirty) | lost) | copying)) | none)
      · exact .inl (.inl (.inl (.inl (.inl hidden))))
      · exact .inl (.inl (.inl (.inl (.inr unreported))))
      · exact .inr dirty
      · exact .inl (.inl (.inr lost))
      · exact .inl (.inr copying)
      · cases none
  unfold Session.drawCompleted
  simp only
  split
  · next empty => exact emptied.mono fun c inside => (CGRect.notMem_of_isEmpty empty inside).elim
  · exact Tracked.drawRegion emptied

/-! ### The graphics processor -/

theorem mem_set_or {α : Type} {list : List α} {index : Nat} {a b new : α} (listed : a ∈ list)
    (taken : list[index]? = some b) : a ∈ list.set index new ∨ a = b := by
  obtain ⟨i, here⟩ := List.mem_iff_getElem?.mp listed
  by_cases same : index = i
  · subst same
    rw [here] at taken
    exact .inr (Option.some.inj taken)
  · exact .inl (List.mem_iff_getElem?.mpr ⟨i, by rw [List.getElem?_set_ne same, here]⟩)

theorem mem_eraseIdx_or {α : Type} {list : List α} {index : Nat} {a b : α} (listed : a ∈ list)
    (taken : list[index]? = some b) : a ∈ list.eraseIdx index ∨ a = b := by
  obtain ⟨i, here⟩ := List.mem_iff_getElem?.mp listed
  by_cases same : i = index
  · subst same
    rw [here] at taken
    exact .inr (Option.some.inj taken)
  · exact .inl (List.mem_eraseIdx_iff_getElem?.mpr ⟨i, same, here⟩)

/-- A command that copies the canvas reads the cell that its texel shows. -/
theorem Follows.read_eq (follows : Follows extra s texture) {b : MTLCommandBuffer}
    (listed : b ∈ s.commands) (storage : b.destination.storage = texture.storage)
    {offset : Nat × Nat} (place : s.place c = b.target offset) : s.read b offset = s.canvas c := by
  obtain ⟨source, destination⟩ := follows.placed b listed storage
  simp only [Session.place, MTLCommandBuffer.target, Prod.mk.injEq] at place
  have column : c.1 = b.origin.1 + s.display.visibleArea.x + offset.1 := by omega
  have row : c.2 = b.origin.2 + s.display.visibleArea.y + offset.2 := by omega
  have address : s.display.address c = s.display.address (b.origin.1 + s.display.visibleArea.x,
      b.origin.2 + s.display.visibleArea.y) + offset.2 * s.display.canvasStride +
        offset.1 * s.display.pixelSize := by
    simp only [CSDisplay.address, column, row, Int.add_mul]
    omega
  rw [Session.read, source]
  simp only [Session.canvas, destination, follows.format, address]

theorem Tracked.copyTexel (tracked : Tracked ∅ s) {index : Nat} {offset : Nat × Nat}
    (taken : s.copyTexel index offset = some t) : Tracked ∅ t := by
  unfold Session.copyTexel at taken
  split at taken
  · cases taken
  · next b found =>
    split at taken
    · next uncopied =>
      cases taken
      have listed : b ∈ s.commands := List.mem_of_getElem? found
      have member : ∀ d ∈ s.commands.set index
          { b with uncopied := b.uncopied.filter (· ≠ offset) },
          d ∈ s.commands ∨ d = { b with uncopied := b.uncopied.filter (· ≠ offset) } :=
        fun d inside => List.mem_or_eq_of_mem_set inside
      refine { tracked.toKept with
        canvasOnly := ?_, targets := ?_, regions := ?_, follows := ?_ }
      · intro canvas d inside
        rcases member d inside with old | rfl
        · exact tracked.canvasOnly canvas d old
        · exact tracked.canvasOnly canvas b listed
      · intro d inside
        rcases member d inside with old | rfl
        · exact tracked.targets d old
        · exact tracked.targets b listed
      · intro d inside
        rcases member d inside with old | rfl
        · exact tracked.regions d old
        · rw [MTLCommandBuffer.pending_filter]
          exact fun c left => tracked.regions b listed left.1
      · intro canvas some texture shown visible
        have follows := tracked.follows canvas some texture shown visible
        refine ⟨follows.format, ?_, ?_⟩
        · intro d inside
          rcases member d inside with old | rfl
          · exact follows.placed d old
          · exact follows.placed b listed
        · -- The texel now shows its cell, and is no longer to be copied.
          have copied : Mirrors ((s.stale texture ∪ ∅) \ {c |
              texture.storage = b.destination.storage ∧ s.place c = b.target offset})
              (fun c => if texture.storage = b.destination.storage ∧ s.place c = b.target offset
                then s.read b offset else s.texels texture.storage (s.place c)) s.canvas := by
            apply follows.mirrors.copied
            · intro c inside
              exact (if_pos inside).trans (follows.read_eq listed inside.1.symm inside.2)
            · intro c outside
              exact if_neg outside
          apply copied.mono
          rintro c ⟨((((hidden | unreported) | dirty) | lost) | copying) | none, left⟩
          · exact .inl (.inl (.inl (.inl (.inl hidden))))
          · exact .inl (.inl (.inl (.inl (.inr unreported))))
          · exact .inl (.inl (.inl (.inr dirty)))
          · exact .inl (.inl (.inr lost))
          · obtain ⟨d, inside, storage, pending⟩ := copying
            rcases mem_set_or inside found with kept | rfl
            · exact .inl (.inr ⟨d, kept, storage, pending⟩)
            · refine .inl (.inr ⟨_, List.mem_set (by
                obtain ⟨below, _⟩ := List.getElem?_eq_some_iff.mp found
                exact below) _, storage, ?_⟩)
              rw [MTLCommandBuffer.pending_filter]
              exact ⟨pending, fun same => left ⟨storage.symm, same⟩⟩
          · cases none
    · cases taken

theorem Tracked.commandCompleted (tracked : Tracked ∅ s) {index : Nat}
    (taken : s.commandCompleted index = some t) : Tracked ∅ t := by
  unfold Session.commandCompleted at taken
  split at taken
  · cases taken
  · next b found =>
    split at taken
    · next done =>
      cases taken
      refine { tracked.toKept with
        canvasOnly := ?_, targets := ?_, regions := ?_, follows := ?_ }
      · intro canvas d inside
        exact tracked.canvasOnly canvas d (List.mem_of_mem_eraseIdx inside)
      · intro d inside
        exact tracked.targets d (List.mem_of_mem_eraseIdx inside)
      · intro d inside
        exact tracked.regions d (List.mem_of_mem_eraseIdx inside)
      · intro canvas some texture shown visible
        have follows := tracked.follows canvas some texture shown visible
        refine ⟨follows.format, ?_, follows.mirrors.mono ?_⟩
        · intro d inside
          exact follows.placed d (List.mem_of_mem_eraseIdx inside)
        · rintro c ((((((hidden | unreported) | dirty) | lost) | copying)) | none)
          · exact .inl (.inl (.inl (.inl (.inl hidden))))
          · exact .inl (.inl (.inl (.inl (.inr unreported))))
          · exact .inl (.inl (.inl (.inr dirty)))
          · exact .inl (.inl (.inr lost))
          · obtain ⟨d, inside, storage, pending⟩ := copying
            rcases mem_eraseIdx_or inside found with kept | rfl
            · exact .inl (.inr ⟨d, kept, storage, pending⟩)
            · rw [MTLCommandBuffer.pending_nil done] at pending
              cases pending
          · cases none
    · cases taken

/-- What a failed command left undefined is lost. -/
theorem Tracked.commandFailed (tracked : Tracked ∅ s) {index : Nat} {garbage : Cell → Pixel}
    (taken : s.commandFailed index garbage = some t) : Tracked ∅ t := by
  unfold Session.commandFailed at taken
  split at taken
  · cases taken
  · next b found =>
    cases taken
    have listed : b ∈ s.commands := List.mem_of_getElem? found
    refine { tracked.toKept with
      canvasOnly := ?_, targets := ?_, regions := ?_, follows := ?_ }
    · intro canvas d inside
      exact tracked.canvasOnly canvas d (List.mem_of_mem_eraseIdx inside)
    · intro d inside
      exact tracked.targets d (List.mem_of_mem_eraseIdx inside)
    · intro d inside
      exact tracked.regions d (List.mem_of_mem_eraseIdx inside)
    · intro canvas some texture shown visible
      have follows := tracked.follows canvas some texture shown visible
      refine ⟨follows.format, ?_, ?_⟩
      · intro d inside
        exact follows.placed d (List.mem_of_mem_eraseIdx inside)
      · have ofCanvas : ¬ b.isScanoutCopy = true :=
          Bool.eq_false_iff.mp (tracked.canvasOnly canvas b listed)
        have spoilt : Mirrors ((s.stale texture ∪ ∅) ∪ {c |
            texture.storage = b.destination.storage ∧ s.place c ∈ b.region.cells})
            (fun c => if texture.storage = b.destination.storage ∧ s.place c ∈ b.region.cells
              then garbage (s.place c) else s.texels texture.storage (s.place c)) s.canvas :=
          follows.mirrors.overwritten fun c outside => if_neg outside
        apply spoilt.mono
        simp only [stale, if_neg ofCanvas]
        rintro c ((((((hidden | unreported) | dirty) | lost) | copying) | none) | inside)
        · exact .inl (.inl (.inl (.inl (.inl hidden))))
        · exact .inl (.inl (.inl (.inl (.inr unreported))))
        · exact .inl (.inl (.inl (.inr dirty)))
        · exact .inl (.inl (.inr (.inl lost)))
        · obtain ⟨d, inside, storage, pending⟩ := copying
          rcases mem_eraseIdx_or inside found with kept | rfl
          · exact .inl (.inr ⟨d, kept, storage, pending⟩)
          · exact .inl (.inl (.inr (.inr (tracked.regions d listed pending))))
        · cases none
        · exact .inl (.inl (.inr (.inr inside.2)))

/-! ### Memory and surfaces -/

theorem Tracked.writeMemory (tracked : Tracked ∅ s) (memory : Int → UInt8) :
    Tracked ∅ (s.writeMemory memory) := by
  refine { tracked.toKept with follows := ?_ }
  intro canvas some texture shown visible
  have follows := tracked.follows canvas some texture shown visible
  refine ⟨follows.format, follows.placed, ?_⟩
  have changed : Mirrors ((s.stale texture ∪ ∅) ∪ {c | (s.writeMemory memory).canvas c ≠ s.canvas c})
      (s.shown texture) (s.writeMemory memory).canvas :=
    follows.mirrors.source_changed fun c outside => not_not.mp outside
  apply changed.mono
  rintro c ((((((hidden | unreported) | dirty) | lost) | copying) | none) | altered)
  · exact .inl (.inl (.inl (.inl (.inl hidden))))
  · exact .inl (.inl (.inl (.inl (.inr (.inl unreported)))))
  · exact .inl (.inl (.inl (.inr dirty)))
  · exact .inl (.inl (.inr lost))
  · exact .inl (.inr copying)
  · cases none
  · exact .inl (.inl (.inl (.inl (.inr (.inr altered)))))

/-- A surface is no texture of a canvas. -/
theorem Tracked.writeSurface (tracked : Tracked ∅ s) (surface : IOSurface)
    (contents : Cell → Pixel) : Tracked ∅ (s.writeSurface surface contents) := by
  refine { tracked.toKept with follows := ?_ }
  intro canvas some texture shown visible
  have follows := tracked.follows canvas some texture shown visible
  refine ⟨follows.format, follows.placed, ?_⟩
  obtain ⟨id, _, storage⟩ := tracked.own texture (.inl shown)
  have same : ∀ c, (s.writeSurface surface contents).shown texture c = s.shown texture c := by
    intro c
    have other : texture.storage ≠ .surface surface := by
      rw [storage]
      exact fun h => nomatch h
    exact congrFun (if_neg other) _
  intro c current
  rw [same c]
  exact follows.mirrors c current

/-! ### Scanouts and renderers -/

/-- Once a scanout is shown, no canvas is. -/
theorem Kept.tracked_of_gl (kept : Kept s) (enabled : s.display.isGLEnabled = true) :
    Tracked extra s := by
  refine { kept with follows := ?_ }
  intro canvas
  rw [enabled] at canvas
  cases canvas

theorem Kept.rebuildShadowTexture (kept : Kept s) (width height : Nat) {allocates : Bool} :
    Kept (s.rebuildShadowTexture width height allocates) := by
  unfold Session.rebuildShadowTexture
  split
  · exact kept
  · refine { kept with targets := ?_, own := ?_, presented := ?_ }
    · intro b listed id storage
      exact Nat.lt_succ_of_lt (kept.targets b listed id storage)
    · rintro texture (canvas | shadow)
      · obtain ⟨id, below, storage⟩ := kept.own texture (.inl canvas)
        exact ⟨id, Nat.lt_succ_of_lt below, storage⟩
      · simp only at shadow
        split at shadow
        · cases shadow
          exact ⟨s.allocated, Nat.lt_succ_self _, rfl⟩
        · cases shadow
    · intro texture present
      cases present

theorem Kept.rebuildScanoutTexture (kept : Kept s) (surface : IOSurface) (width height : Nat) :
    Kept (s.rebuildScanoutTexture surface width height grants) := by
  unfold Session.rebuildScanoutTexture
  simp only
  have wrapped : Kept { s with
      display := { s.display with
        canvasArea := ⟨0, 0, width, height⟩
        glTexture := if grants.texture then some ⟨.surface surface,
          if surface.rgba then MTLPixelFormat.rgba8Unorm else .bgra8Unorm, width, height⟩
          else none } } := by
    refine { kept with wrapped := ?_ }
    intro texture present
    simp only at present
    split at present
    · cases present
      exact ⟨surface, rfl⟩
    · cases present
  exact { wrapped.rebuildShadowTexture width height with }

theorem isGLEnabled_rebuildShadowTexture (s : Session) (width height : Nat) (allocates : Bool) :
    (s.rebuildShadowTexture width height allocates).display.isGLEnabled = s.display.isGLEnabled := by
  unfold Session.rebuildShadowTexture
  split
  · rfl
  · rfl

/-- The mode is not changed by what is rebuilt. -/
theorem isGLEnabled_rebuildScanoutTexture (s : Session) (surface : IOSurface)
    (width height : Nat) (grants : Grants) :
    (s.rebuildScanoutTexture surface width height grants).display.isGLEnabled =
      s.display.isGLEnabled :=
  isGLEnabled_rebuildShadowTexture _ width height grants.companion

theorem Kept.glScanout (kept : Kept s) (found : Option IOSurface) (width height : Nat) :
    Tracked ∅ (s.glScanout found width height grants) := by
  have enabled : Kept { s with display := { s.display with isGLEnabled := true } } := by
    refine { kept with canvasOnly := ?_ }
    intro canvas
    cases canvas
  unfold Session.glScanout
  cases found with
  | none => exact enabled.tracked_of_gl rfl
  | some surface =>
    simp only
    split
    · apply (Kept.tracked_of_gl _ _).rebuildDisplayVertices
      · exact enabled.rebuildScanoutTexture surface width height
      · exact isGLEnabled_rebuildScanoutTexture _ _ _ _ _
    · exact Kept.tracked_of_gl { enabled with } rfl

theorem Kept.glDraw (kept : Kept s) (taken : s.glDraw rect = some t) : Tracked ∅ t := by
  unfold Session.glDraw at taken
  simp only at taken
  split at taken
  · cases taken
  · next allowed =>
    have enabled : s.display.isGLEnabled = true := by
      cases mode : s.display.isGLEnabled with
      | true => rfl
      | false => exact absurd mode allowed
    split at taken
    · next source destination _ _ _ _ shadow _ =>
      cases taken
      refine Kept.tracked_of_gl ?_ enabled
      refine { kept with canvasOnly := ?_, targets := ?_, regions := ?_ }
      · intro canvas
        rw [enabled] at canvas
        cases canvas
      · intro b listed id storage
        rcases List.mem_append.mp listed with old | new
        · exact kept.targets b old id storage
        · cases List.mem_singleton.mp new
          obtain ⟨id', below, other⟩ := kept.own destination (.inr shadow)
          have same : Storage.device id' = .device id := other.symm.trans storage
          cases same
          exact below
      · intro b listed
        rcases List.mem_append.mp listed with old | new
        · exact kept.regions b old
        · cases List.mem_singleton.mp new
          exact (MTLCommandBuffer.pending_blit).le
    · split at taken
      · cases taken
        exact Kept.tracked_of_gl { kept with } enabled
      · cases taken
        exact Kept.tracked_of_gl { kept with } enabled

theorem Tracked.scanoutCopied (tracked : Tracked ∅ s) (taken : s.scanoutCopied = some t) :
    Tracked ∅ t := by
  unfold Session.scanoutCopied at taken
  split at taken
  · cases taken
  · next destination succeeded handlers _ =>
    cases taken
    simp only [glDrawDone]
    split
    · next published =>
      simp only [Bool.and_eq_true, decide_eq_true_eq] at published
      refine { tracked.toKept with presented := ?_, follows := ?_ }
      · intro texture present
        cases present
        exact published.2
      · intro canvas some texture shown visible
        have follows := tracked.follows canvas some texture shown visible
        exact ⟨follows.format, follows.placed, follows.mirrors⟩
    · exact { tracked.toKept with
        follows := fun canvas some texture shown visible =>
          let follows := tracked.follows canvas some texture shown visible
          ⟨follows.format, follows.placed, follows.mirrors⟩ }

theorem Tracked.invalidateCompleted (tracked : Tracked ∅ s)
    (taken : s.invalidateCompleted = some t) : Tracked ∅ t := by
  unfold Session.invalidateCompleted at taken
  split at taken
  · cases taken
  · cases taken
    exact { tracked.toKept with
      follows := fun canvas some texture shown visible =>
        let follows := tracked.follows canvas some texture shown visible
        ⟨follows.format, follows.placed, follows.mirrors⟩ }

/-- Which renderers there are matters to the next copy only. -/
theorem Tracked.withRenderers (tracked : Tracked ∅ s) (renderers : List CSRenderer)
    (tasks : List Nat) : Tracked ∅ { s with
      display := { s.display with renderers := renderers }
      deviceTasks := tasks } :=
  { tracked.toKept with
    follows := fun canvas some texture shown visible =>
      let follows := tracked.follows canvas some texture shown visible
      ⟨follows.format, follows.placed, follows.mirrors⟩ }

theorem Tracked.addRenderer (tracked : Tracked ∅ s) {renderer : CSRenderer}
    (taken : s.addRenderer renderer = some t) : Tracked ∅ t := by
  unfold Session.addRenderer at taken
  simp only at taken
  split at taken
  · cases taken
    exact tracked.withRenderers _ _
  · split at taken
    · cases taken
      exact tracked.withRenderers _ _
    · cases taken

theorem Kept.setDevice (kept : Kept s) (taken : s.setDevice grants = some t) : Tracked ∅ t := by
  unfold Session.setDevice at taken
  simp only at taken
  split at taken
  · cases taken
  · next device tasks _ =>
    cases taken
    have set : Kept { s with
        deviceTasks := tasks
        display := { s.display with
          device := some device
          shadowTexture := none
          presentTexture := none } } := by
      refine { kept with own := ?_, presented := ?_, device := ?_ }
      · rintro texture (canvas | shadow)
        · exact kept.own texture (.inl canvas)
        · cases shadow
      · intro texture present
        cases present
      · intro _
        rfl
    apply Tracked.rebuildDisplayVertices
    split
    · next enabled =>
      split
      · next surface width height _ =>
        apply Kept.tracked_of_gl
        · exact { set.rebuildScanoutTexture surface width height with }
        · exact (isGLEnabled_rebuildScanoutTexture _ _ _ _ _).trans enabled
      · split
        · next surface _ width height _ =>
          apply Kept.tracked_of_gl
          · exact set.rebuildScanoutTexture surface width height
          · exact (isGLEnabled_rebuildScanoutTexture _ _ _ _ _).trans enabled
        · exact set.tracked_of_gl enabled
    · exact set.rebuildCanvasTexture

/-! ### Runs -/

theorem tracked_initial (monitorID : Int) (monitorsConfig : Bool) (memory : Int → UInt8)
    (texels : Storage → Cell → Pixel) :
    Tracked ∅ (initial monitorID monitorsConfig memory texels) := by
  apply Kept.tracked
  · constructor
    · intro _ b listed
      cases listed
    · intro b listed
      cases listed
    · intro b listed
      cases listed
    · rintro texture (canvas | shadow)
      · cases canvas
      · cases shadow
    · intro texture present
      cases present
    · intro texture present
      cases present
    · intro present
      cases present
    · intro _
      rfl
    · intro buffer present
      cases present
    · intro busy
      cases busy
    · intro dirty
      cases dirty
  · intro present
    cases present

/-- Every event keeps the invariant. -/
theorem Tracked.step (tracked : Tracked ∅ s) {event : DisplayEvent}
    (taken : s.step event = some t) : Tracked ∅ t := by
  cases event with
  | primaryCreate => exact tracked.toKept.primaryCreate taken
  | primaryDestroy =>
    cases taken
    exact tracked.toKept.primaryDestroy
  | invalidate => exact tracked.invalidate taken
  | monitors => exact tracked.updateMonitorArea taken
  | glScanout =>
    cases taken
    exact tracked.toKept.glScanout _ _ _
  | glDraw => exact tracked.toKept.glDraw taken
  | addRenderer => exact tracked.addRenderer taken
  | removeRenderer =>
    cases taken
    exact tracked.withRenderers _ _
  | setDevice => exact tracked.toKept.setDevice taken
  | drawCompleted =>
    simp only [Session.step] at taken
    split at taken
    · cases taken
    · cases taken
      exact tracked.drawCompleted _
  | scanoutCopied => exact tracked.scanoutCopied taken
  | invalidateCompleted => exact tracked.invalidateCompleted taken
  | copyTexel => exact tracked.copyTexel taken
  | commandCompleted => exact tracked.commandCompleted taken
  | commandFailed => exact tracked.commandFailed taken
  | writeMemory =>
    cases taken
    exact tracked.writeMemory _
  | writeSurface =>
    cases taken
    exact tracked.writeSurface _ _

end Session

end SimpleVM.SPICE.Display
