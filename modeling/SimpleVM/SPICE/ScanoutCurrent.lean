import SimpleVM.SPICE.DrawsAnswered
/-!
# The shadow of a scanout

A scanout is presented from its shadow. The shadow holds the frame of the last draw wherever a copy
is not still under way, as long as the server keeps to what the copies build on: it draws only once
it was told that the draw before is done, writes the scanout only between draws and reports all it
wrote, a draw onto a shadow that holds a frame is copied, no copy fails, and the canvas before has
nothing left to draw. After a failed or a skipped copy only a new scanout makes the shadow whole
again.
-/
namespace SimpleVM.SPICE.Display

open Raster Transition

/-- What a copy of the damage alone relies on. -/
def Served (s : Session) : DisplayEvent → Prop
  | .glScanout _ _ _ _ => s.display.isGLEnabled = true ∨ s.display.canvasDirtyRect.isEmpty = true
  | .glDraw x y width height => s.drawsReceived = s.drawsDone ∧
      (s.display.shadowTexture.isSome → s.display.shadowNeedsFullCopy = false →
        s.display.ready = true ∧ s.display.renderers ≠ [] ∧
          s.changed ⊆ (⟨x, y, width, height⟩ : CGRect).cells)
  | .commandFailed index _ => ∀ b, s.commands[index]? = some b → b.isScanoutCopy = false
  | .writeSurface surface _ => s.drawsReceived = s.drawsDone ∨
      ∀ source, s.display.glTexture = some source → source.storage ≠ .surface surface
  | _ => True

namespace Session

variable {s t : Session} {rect : CGRect} {shadow source : MTLTexture} {grants : Grants} {c : Cell}

/-- The cells that copies under way are still to write into a shadow. -/
def copyingScanout (s : Session) (shadow : MTLTexture) : Set Cell :=
  {c | ∃ b ∈ s.commands, b.isScanoutCopy = true ∧
    b.destination.storage = shadow.storage ∧ c ∈ b.pending}

/-- The invariant: the shadow follows the frame, and the frame is what the scanout was. -/
structure Presented (s : Session) : Prop where
  idle : s.display.isGLEnabled = false →
    s.display.glTexture = none ∧ s.display.shadowTexture = none
  settled : s.display.isGLEnabled = true → s.display.canvasDirtyRect.isEmpty = true
  allocated : ∀ b ∈ s.commands, ∃ id, b.destination.storage = .device id
  apart : ∀ b ∈ s.commands, b.isScanoutCopy = false → ∀ shadow,
    s.display.shadowTexture = some shadow → b.destination.storage ≠ shadow.storage
  size : ∀ source shadow, s.display.glTexture = some source →
    s.display.shadowTexture = some shadow → source.bounds = shadow.bounds
  held : s.display.shadowNeedsFullCopy = false → s.display.shadowTexture.isSome →
    s.display.glTexture.isSome
  copies : ∀ b ∈ s.commands, b.isScanoutCopy = true →
    ∃ surface, b.source = .texture (.surface surface) b.origin ∧
      ∀ c ∈ b.pending, s.texels (.surface surface) c = s.frame c ∨ c ∈ s.missing
  reads : s.display.shadowNeedsFullCopy = false → ∀ b ∈ s.commands, b.isScanoutCopy = true →
    ∃ source, s.display.glTexture = some source ∧ b.source = .texture source.storage b.origin
  shadow : ∀ shadow, s.display.shadowTexture = some shadow →
    Mirrors (s.missing ∪ s.copyingScanout shadow) (s.texels shadow.storage) s.frame
  source : s.display.shadowNeedsFullCopy = false → ∀ source,
    s.display.glTexture = some source → Mirrors s.changed (s.texels source.storage) s.frame
  whole : s.display.shadowNeedsFullCopy = false → ∀ shadow,
    s.display.shadowTexture = some shadow → ∀ c ∈ shadow.bounds.cells, c ∉ s.missing

/-- No copy is under way once every draw is acknowledged. -/
theorem Answered.no_copies (answered : Answered s) (told : s.drawsReceived = s.drawsDone) :
    ∀ b ∈ s.commands, b.isScanoutCopy = false := by
  have each := answered.each
  simp only [underWay] at each
  have none : s.commands.countP MTLCommandBuffer.isScanoutCopy = 0 := by omega
  intro b listed
  exact Bool.eq_false_iff.mpr (List.countP_eq_zero.mp none b listed)

theorem copyingScanout_eq_empty (none : ∀ b ∈ s.commands, b.isScanoutCopy = false) :
    s.copyingScanout shadow = ∅ := by
  apply Set.eq_empty_of_forall_notMem
  rintro c ⟨b, listed, copy, _⟩
  rw [none b listed] at copy
  cases copy

/-! ### The canvas -/

/-- While a canvas is shown there is no scanout to follow. -/
theorem Presented.of_canvas (presented : Presented s) (kept : Kept t) (beside : Beside s t)
    (canvas : s.display.isGLEnabled = false) : Presented t := by
  have canvas' : t.display.isGLEnabled = false := beside.mode.trans canvas
  have ofCanvas := kept.canvasOnly canvas'
  have noSource : t.display.glTexture = none := beside.scanout.trans (presented.idle canvas).1
  have noShadow : t.display.shadowTexture = none := beside.shadow.trans (presented.idle canvas).2
  have unshadowed : ∀ shadow, t.display.shadowTexture = some shadow → False := by
    intro shadow present
    rw [noShadow] at present
    cases present
  have none : ∀ b ∈ t.commands, b.isScanoutCopy = true → False := by
    intro b listed copy
    rw [ofCanvas b listed] at copy
    cases copy
  refine ⟨fun _ => ⟨noSource, noShadow⟩, ?_, ?_, ?_, ?_, ?_, ?_, ?_, ?_, ?_, ?_⟩
  · intro enabled
    rw [canvas'] at enabled
    cases enabled
  · intro b listed
    obtain ⟨copies, grown, new⟩ := beside.commands
    rw [grown] at listed
    rcases List.mem_append.mp listed with old | drawn
    · exact presented.allocated b old
    · exact (new b drawn).2 canvas
  · intro _ _ _ shadow present
    exact (unshadowed shadow present).elim
  · intro _ shadow _ present
    exact (unshadowed shadow present).elim
  · intro _ present
    rw [noShadow] at present
    cases present
  · intro b listed copy
    exact (none b listed copy).elim
  · intro _ b listed copy
    exact (none b listed copy).elim
  · intro shadow present
    exact (unshadowed shadow present).elim
  · intro _ source present
    rw [noSource] at present
    cases present
  · intro _ shadow present
    exact (unshadowed shadow present).elim

theorem Presented.rebuildDisplayVertices (presented : Presented s) (ready : Bool) :
    Presented { s with
      display := { s.display.rebuildDisplayVertices with ready := ready } } := by
  unfold CSDisplay.rebuildDisplayVertices
  split
  · exact { presented with }
  · exact { presented with }

/-- The area that is shown of a scanout has no part in what its shadow holds. -/
theorem Presented.updateVisibleArea (presented : Presented s) (kept : Kept s) (rect : CGRect)
    (grants : Grants) : Presented (s.updateVisibleArea rect grants) := by
  cases mode : s.display.isGLEnabled with
  | false =>
    exact presented.of_canvas (kept.updateVisibleArea rect grants).toKept
      (kept.updateVisibleArea_beside rect grants) mode
  | true =>
    have placed : ∀ placed : Session, placed.display.isGLEnabled = true → Presented placed →
        Presented (if placed.display.isGLEnabled then placed
          else placed.rebuildCanvasTexture grants) := by
      intro placed enabled presented
      rw [if_pos enabled]
      exact presented
    unfold Session.updateVisibleArea
    apply Presented.rebuildDisplayVertices
    apply placed
    · split
      · exact mode
      · exact mode
    · split
      · exact { presented with }
      · exact { presented with }

theorem Presented.updateMonitorArea (presented : Presented s) (kept : Kept s)
    {monitors : List MonitorConfig} (taken : s.updateMonitorArea monitors grants = some t) :
    Presented t := by
  have waiting : Presented { s with display := { s.display with ready := false } } :=
    { presented with }
  have waits : Kept { s with display := { s.display with ready := false } } := { kept with }
  unfold Session.updateMonitorArea at taken
  split at taken
  · cases taken
    exact presented.updateVisibleArea kept _ _
  · split at taken
    · split at taken
      · cases taken
        exact waiting
      · cases taken
        exact waiting.updateVisibleArea waits _ _
    · split at taken
      · cases taken
        exact presented.updateVisibleArea kept _ _
      · split at taken
        · cases taken
          exact presented.updateVisibleArea kept _ _
        · cases taken
          exact presented.updateVisibleArea kept _ _
    · cases taken

theorem Presented.primaryCreate (presented : Presented s) (kept : Kept s)
    {format : SurfaceFormat} {width height stride : Nat} {imgdata : Int}
    {monitors : List MonitorConfig}
    (taken : s.primaryCreate format width height stride imgdata monitors grants = some t) :
    Presented t := by
  unfold Session.primaryCreate at taken
  split at taken
  · next null =>
    have none := kept.data null
    have created : Presented { s with
        display := { s.display with
          canvasArea := ⟨0, 0, width, height⟩
          canvasFormat := some format
          canvasStride := stride
          canvasData := imgdata } } := { presented with }
    refine created.updateMonitorArea ?_ taken
    refine { kept with data := ?_, base := ?_ }
    · intro _
      exact none
    · intro buffer present
      rw [none] at present
      cases present
  · cases taken

/-- Without a shadow nothing has to follow the frame. -/
theorem Presented.unshadow (presented : Presented s) (tasks : List Nat) (device : Option Nat) :
    Presented { s with
      deviceTasks := tasks
      display := { s.display with
        device := device
        shadowTexture := none
        presentTexture := none } } := by
  refine { presented with
    idle := ?_, apart := ?_, size := ?_, held := ?_, shadow := ?_, whole := ?_ }
  · intro canvas
    exact ⟨(presented.idle canvas).1, rfl⟩
  · intro _ _ _ shadow present
    cases present
  · intro _ shadow _ present
    cases present
  · intro _ present
    cases present
  · intro shadow present
    cases present
  · intro _ shadow present
    cases present

theorem Presented.primaryDestroy (presented : Presented s) : Presented s.primaryDestroy :=
  { presented.unshadow s.deviceTasks s.display.device with }

/-- With the mode of a scanout nothing is drawn into the canvas any more. -/
theorem Presented.drawCompleted (presented : Presented s) (kept : Kept s) (n : Nat)
    (next : Kept { s with drawsPending := n }.drawCompleted) :
    Presented { s with drawsPending := n }.drawCompleted := by
  cases mode : s.display.isGLEnabled with
  | false => exact presented.of_canvas next (kept.drawCompleted_beside n) mode
  | true =>
    unfold Session.drawCompleted
    rw [if_pos (presented.settled mode)]
    exact { presented with settled := fun _ => CGRect.isEmpty_zero }

/-! ### Scanouts -/

theorem rebuildShadowTexture_cases (s : Session) (width height : Nat) (allocates : Bool) :
    (∃ shadow, s.display.shadowTexture = some shadow ∧ shadow.bounds = ⟨0, 0, width, height⟩ ∧
      s.rebuildShadowTexture width height allocates = s) ∨
    (∃ new, (∀ shadow, new = some shadow →
        shadow.storage = .device s.allocated ∧ shadow.bounds = ⟨0, 0, width, height⟩) ∧
      s.rebuildShadowTexture width height allocates = { s with
        display := { s.display with shadowTexture := new, presentTexture := none }
        allocated := s.allocated + 1
        missing := Set.univ }) := by
  unfold Session.rebuildShadowTexture
  split
  · next keeps =>
    left
    unfold CSDisplay.keepsShadow at keeps
    split at keeps
    · next shadow present =>
      simp only [Bool.and_eq_true, beq_iff_eq] at keeps
      refine ⟨shadow, present, ?_, rfl⟩
      simp only [MTLTexture.bounds, keeps.1.1, keeps.1.2]
    · cases keeps
  · right
    refine ⟨_, ?_, rfl⟩
    intro shadow granted
    split at granted
    · cases granted
      exact ⟨rfl, rfl⟩
    · cases granted

/-- A rebuilt scanout is copied whole into its old shadow, or into a new one. -/
theorem rebuildScanoutTexture_cases (s : Session) (surface : IOSurface) (width height : Nat)
    (grants : Grants) :
    ∃ wrapped, (∀ source, wrapped = some source →
        source.storage = .surface surface ∧ source.bounds = ⟨0, 0, width, height⟩) ∧
      ((∃ shadow, s.display.shadowTexture = some shadow ∧
        shadow.bounds = ⟨0, 0, width, height⟩ ∧
        s.rebuildScanoutTexture surface width height grants = { s with
          display := { s.display with
            canvasArea := ⟨0, 0, width, height⟩
            glTexture := wrapped
            shadowNeedsFullCopy := true } }) ∨
      (∃ new, (∀ shadow, new = some shadow →
          shadow.storage = .device s.allocated ∧ shadow.bounds = ⟨0, 0, width, height⟩) ∧
        s.rebuildScanoutTexture surface width height grants = { s with
          display := { s.display with
            canvasArea := ⟨0, 0, width, height⟩
            glTexture := wrapped
            shadowTexture := new
            presentTexture := none
            shadowNeedsFullCopy := true }
          allocated := s.allocated + 1
          missing := Set.univ })) := by
  refine ⟨if grants.texture then some ⟨.surface surface,
    if surface.rgba then MTLPixelFormat.rgba8Unorm else .bgra8Unorm, width, height⟩ else none,
    ?_, ?_⟩
  · intro source granted
    split at granted
    · cases granted
      exact ⟨rfl, rfl⟩
    · cases granted
  · unfold Session.rebuildScanoutTexture
    simp only
    rcases rebuildShadowTexture_cases { s with
        display := { s.display with
          canvasArea := ⟨0, 0, width, height⟩
          glTexture := if grants.texture then some ⟨.surface surface,
            if surface.rgba then MTLPixelFormat.rgba8Unorm else .bgra8Unorm, width, height⟩
            else none } } width height grants.companion with
      ⟨shadow, present, bounds, same⟩ | ⟨new, allocated, fresh⟩
    · rw [same]
      exact .inl ⟨shadow, present, bounds, rfl⟩
    · rw [fresh]
      exact .inr ⟨new, allocated, rfl⟩

theorem Presented.rebuildScanoutTexture (presented : Presented s) (kept : Kept s)
    (enabled : s.display.isGLEnabled = true) (surface : IOSurface) (width height : Nat)
    (grants : Grants) : Presented (s.rebuildScanoutTexture surface width height grants) := by
  obtain ⟨wrapped, of, same | fresh⟩ :=
    s.rebuildScanoutTexture_cases surface width height grants
  · obtain ⟨shadow, present, bounds, rebuilt⟩ := same
    rw [rebuilt]
    refine { presented with
      idle := ?_, size := ?_, held := ?_, reads := ?_, source := ?_, whole := ?_ }
    · intro canvas
      rw [enabled] at canvas
      cases canvas
    · intro source other drawn present'
      have present'' : s.display.shadowTexture = some other := present'
      rw [present] at present''
      cases present''
      exact (of source drawn).2.trans bounds.symm
    · intro needs
      cases needs
    · intro needs
      cases needs
    · intro needs
      cases needs
    · intro needs
      cases needs
  · obtain ⟨new, allocated, rebuilt⟩ := fresh
    rw [rebuilt]
    refine { presented with
      idle := ?_, apart := ?_, size := ?_, held := ?_, copies := ?_, reads := ?_, shadow := ?_,
      source := ?_, whole := ?_ }
    · intro canvas
      rw [enabled] at canvas
      cases canvas
    · intro b listed _ shadow granted
      exact kept.unallocated (allocated shadow granted).1 b listed
    · intro source shadow drawn granted
      exact (of source drawn).2.trans (allocated shadow granted).2.symm
    · intro needs
      cases needs
    · intro b listed copy
      obtain ⟨surface, reads, _⟩ := presented.copies b listed copy
      exact ⟨surface, reads, fun c _ => .inr trivial⟩
    · intro needs
      cases needs
    · intro shadow granted
      exact mirrors_univ.mono fun c _ => .inl trivial
    · intro needs
      cases needs
    · intro needs
      cases needs

/-- The mode changes while nothing is left to be drawn of the canvas. -/
theorem Presented.enable (presented : Presented s)
    (settled : s.display.isGLEnabled = true ∨ s.display.canvasDirtyRect.isEmpty = true) :
    Presented { s with display := { s.display with isGLEnabled := true } } := by
  refine { presented with idle := ?_, settled := ?_ }
  · intro canvas
    cases canvas
  · intro _
    exact settled.elim presented.settled id

theorem Presented.glScanout (presented : Presented s) (kept : Kept s)
    (settled : s.display.isGLEnabled = true ∨ s.display.canvasDirtyRect.isEmpty = true)
    (found : Option IOSurface) (width height : Nat) (grants : Grants) :
    Presented (s.glScanout found width height grants) := by
  have enabled := presented.enable settled
  have kept' : Kept { s with display := { s.display with isGLEnabled := true } } := by
    refine { kept with canvasOnly := ?_ }
    intro canvas
    cases canvas
  unfold Session.glScanout
  cases found with
  | none => exact enabled
  | some surface =>
    simp only
    split
    · apply Presented.rebuildDisplayVertices
      exact enabled.rebuildScanoutTexture kept' rfl surface width height grants
    · exact { enabled with }

theorem Presented.setDevice (presented : Presented s) (kept : Kept s)
    (taken : s.setDevice grants = some t) : Presented t := by
  unfold Session.setDevice at taken
  simp only at taken
  split at taken
  · cases taken
  · next device tasks _ =>
    cases taken
    have set := presented.unshadow tasks (some device)
    have kept' : Kept { s with
        deviceTasks := tasks
        display := { s.display with
          device := some device
          shadowTexture := none
          presentTexture := none } } := by
      refine { kept with own := ?_, presented := ?_, device := ?_ }
      · rintro texture (canvas | shadow)
        · exact kept.own texture (.inl canvas)
        · cases shadow
      · intro texture present
        cases present
      · intro _
        rfl
    apply Presented.rebuildDisplayVertices
    split
    · next enabled =>
      split
      · next surface width height _ =>
        exact { set.rebuildScanoutTexture kept' enabled surface width height grants with }
      · split
        · next surface _ width height _ =>
          exact set.rebuildScanoutTexture kept' enabled surface width height grants
        · exact set
    · next disabled =>
      exact set.of_canvas kept'.rebuildCanvasTexture.toKept
        (kept'.rebuildCanvasTexture_beside grants) (Bool.eq_false_iff.mpr disabled)

/-! ### Draws -/

/-- The cells that a scanout and its shadow share. -/
def shared (source shadow : MTLTexture) : CGRect :=
  ⟨0, 0, min source.width shadow.width, min source.height shadow.height⟩

/-- What `copyScanoutRect:withCompletion:` copies for a damaged rectangle. -/
def damagedRect (s : Session) (source shadow : MTLTexture) (rect : CGRect) : CGRect :=
  if s.display.shadowNeedsFullCopy then shared source shadow
  else match rect.intersection (shared source shadow) with
    | none => .zero
    | some damaged => damaged

/-- The copy that `copyScanoutRect:withCompletion:` commits. -/
def scanoutCopy (source shadow : MTLTexture) (damaged : CGRect) : MTLCommandBuffer :=
  .blit (.texture source.storage (damaged.x, damaged.y)) shadow (damaged.x, damaged.y)
    damaged.width damaged.height

theorem pending_scanoutCopy {damaged : CGRect} :
    (scanoutCopy source shadow damaged).pending = damaged.cells :=
  MTLCommandBuffer.pending_blit

/-- A draw is copied into the shadow, or onto the screen without it. -/
theorem glDraw_cases (taken : s.glDraw rect = some t) :
    s.display.isGLEnabled = true ∧
    ((∃ source shadow damaged missing, s.display.glTexture = some source ∧
      s.display.shadowTexture = some shadow ∧
      (s.display.shadowNeedsFullCopy = true → missing = damaged.cellsᶜ ∧
        damaged = shared source shadow) ∧
      (s.display.shadowNeedsFullCopy = false →
        missing = (s.missing ∪ s.changed) \ damaged.cells ∧
        ∀ c, c ∈ rect.cells → c ∈ (shared source shadow).cells → c ∈ damaged.cells) ∧
      t = { s with
        display := { s.display with shadowNeedsFullCopy := false }
        commands := s.commands ++ [scanoutCopy source shadow damaged]
        drawsReceived := s.drawsReceived + 1
        frame := s.texels source.storage
        changed := ∅
        missing := missing }) ∨
    (¬ (s.display.ready = true ∧ s.display.glTexture.isSome ∧
        s.display.shadowTexture.isSome ∧ s.display.renderers ≠ []) ∧
      ∃ done frames frame, (∀ source, s.display.glTexture = some source →
          frame = s.texels source.storage) ∧
        t = { s with
          drawsReceived := s.drawsReceived + 1
          drawsDone := done
          invalidatesPending := frames
          frame := frame
          changed := ∅
          missing := if s.display.shadowNeedsFullCopy then Set.univ
            else s.missing ∪ s.changed })) := by
  unfold Session.glDraw at taken
  simp only at taken
  split at taken
  · cases taken
  · next allowed =>
    refine ⟨Bool.eq_true_of_not_eq_false allowed, ?_⟩
    split at taken
    · next source shadow _ _ _ wrapped present _ =>
      left
      cases taken
      refine ⟨source, shadow, s.damagedRect source shadow rect,
        if s.display.shadowNeedsFullCopy then (shared source shadow).cellsᶜ
          else (s.missing ∪ s.changed) \ (s.damagedRect source shadow rect).cells,
        wrapped, present, ?_, ?_, ?_⟩
      · intro needs
        simp only [damagedRect, if_pos needs, and_self]
      · intro builds
        have builds' : ¬ s.display.shadowNeedsFullCopy = true := Bool.eq_false_iff.mp builds
        simp only [damagedRect, if_neg builds', true_and]
        intro c inRect inBounds
        split
        · next apart => exact (CGRect.notMem_of_null apart ⟨inRect, inBounds⟩).elim
        · next common => exact (CGRect.mem_intersection common).mpr ⟨inRect, inBounds⟩
      · simp only [wrapped]
        rfl
    · next unmatched =>
      right
      constructor
      · rintro ⟨ready, wrapped, present, some⟩
        obtain ⟨source, wrapped⟩ := Option.isSome_iff_exists.mp wrapped
        obtain ⟨shadow, present⟩ := Option.isSome_iff_exists.mp present
        obtain ⟨first, rest, renderers⟩ := List.exists_cons_of_ne_nil some
        exact unmatched source shadow first rest ready wrapped present renderers
      · split at taken
        · cases taken
          refine ⟨_, _, _, ?_, rfl⟩
          intro source wrapped
          rw [wrapped]
        · cases taken
          refine ⟨_, _, _, ?_, rfl⟩
          intro source wrapped
          rw [wrapped]

theorem shared_eq (same : source.bounds = shadow.bounds) :
    shared source shadow = shadow.bounds := by
  simp only [MTLTexture.bounds, CGRect.mk.injEq, true_and] at same
  simp only [shared, MTLTexture.bounds, same.1, same.2, Nat.min_self]

/-- A copy of the damage brings the shadow to the new frame. -/
theorem Presented.glDraw (presented : Presented s) (kept : Kept s) (answered : Answered s)
    {x y : Int} {width height : Nat} (served : Served s (.glDraw x y width height))
    (taken : s.glDraw ⟨x, y, width, height⟩ = some t) : Presented t := by
  obtain ⟨told, served⟩ := served
  obtain ⟨enabled, copied | skipped⟩ := glDraw_cases taken
  · obtain ⟨source, shadow, damaged, missing, wrapped, present, full, partly, rfl⟩ := copied
    have none := answered.no_copies told
    have bounds := shared_eq (presented.size source shadow wrapped present)
    rw [bounds] at full partly
    obtain ⟨surface, ofSurface⟩ := kept.wrapped source wrapped
    have member : ∀ b ∈ s.commands ++ [scanoutCopy source shadow damaged],
        b ∈ s.commands ∨ b = scanoutCopy source shadow damaged := by
      intro b listed
      exact (List.mem_append.mp listed).imp_right List.mem_singleton.mp
    have only : ∀ other, s.display.shadowTexture = some other → other = shadow := by
      intro other drawn
      rw [present] at drawn
      exact (Option.some.inj drawn).symm
    refine { presented with
      allocated := ?_, apart := ?_, held := ?_, copies := ?_, reads := ?_, shadow := ?_,
      source := ?_, whole := ?_ }
    · intro b listed
      rcases member b listed with old | rfl
      · exact presented.allocated b old
      · obtain ⟨id, _, storage⟩ := kept.own shadow (.inr present)
        exact ⟨id, storage⟩
    · intro b listed canvas
      rcases member b listed with old | rfl
      · exact presented.apart b old canvas
      · cases canvas
    · intro _ _
      exact Option.isSome_iff_exists.mpr ⟨source, wrapped⟩
    · intro b listed copy
      rcases member b listed with old | rfl
      · rw [none b old] at copy
        cases copy
      · refine ⟨surface, ?_, fun c _ => .inl ?_⟩
        · rw [← ofSurface]
          rfl
        · exact congrFun (congrArg s.texels ofSurface.symm) c
    · intro _ b listed copy
      rcases member b listed with old | rfl
      · rw [none b old] at copy
        cases copy
      · exact ⟨source, wrapped, rfl⟩
    · intro other drawn
      cases only other drawn
      intro c current
      have untouched : c ∉ damaged.cells := by
        intro inside
        refine current (.inr ⟨_, List.mem_append_right _ List.mem_cons_self, rfl, rfl, ?_⟩)
        rw [pending_scanoutCopy]
        exact inside
      cases needs : s.display.shadowNeedsFullCopy with
      | true =>
        refine absurd (.inl ?_) current
        rw [(full needs).1]
        exact untouched
      | false =>
        -- Neither the shadow nor the scanout has left the frame before.
        have outside : c ∉ s.missing ∪ s.changed := by
          intro inside
          refine current (.inl ?_)
          rw [(partly needs).1]
          exact ⟨inside, untouched⟩
        have before : c ∉ s.missing ∪ s.copyingScanout shadow := by
          rw [copyingScanout_eq_empty none, Set.union_empty]
          exact fun inside => outside (.inl inside)
        calc s.texels shadow.storage c = s.frame c := presented.shadow shadow present c before
          _ = s.texels source.storage c :=
            (presented.source needs source wrapped c fun inside => outside (.inr inside)).symm
    · intro _ other drawn
      have drawn' : s.display.glTexture = some other := drawn
      rw [wrapped] at drawn'
      cases drawn'
      exact fun c _ => rfl
    · intro _ other drawn c inside
      cases only other drawn
      cases needs : s.display.shadowNeedsFullCopy with
      | true =>
        show c ∉ missing
        rw [(full needs).1, (full needs).2]
        exact fun outside => outside inside
      | false =>
        show c ∉ missing
        rw [(partly needs).1]
        rintro ⟨left | altered, untouched⟩
        · exact presented.whole needs shadow present c inside left
        · have reported := (served (Option.isSome_iff_exists.mpr ⟨shadow, present⟩) needs).2.2
          exact untouched ((partly needs).2 c (reported altered) inside)
  · obtain ⟨uncopied, done, frames, frame, framed, rfl⟩ := skipped
    have none := answered.no_copies told
    -- A shadow that is left out has to be copied whole anyway.
    have owed : ∀ shadow, s.display.shadowTexture = some shadow →
        s.display.shadowNeedsFullCopy = true := by
      intro shadow present
      cases needs : s.display.shadowNeedsFullCopy with
      | true => rfl
      | false =>
        have some : s.display.shadowTexture.isSome :=
          Option.isSome_iff_exists.mpr ⟨shadow, present⟩
        obtain ⟨ready, renderers, _⟩ := served some needs
        exact absurd ⟨ready, presented.held needs some, some, renderers⟩ uncopied
    refine { presented with copies := ?_, shadow := ?_, source := ?_, whole := ?_ }
    · intro b listed copy
      rw [none b listed] at copy
      cases copy
    · intro shadow present
      refine mirrors_univ.mono fun c _ => .inl ?_
      rw [if_pos (owed shadow present)]
      trivial
    · intro _ source wrapped c _
      exact (congrFun (framed source wrapped) c).symm
    · intro builds shadow present
      have builds' : s.display.shadowNeedsFullCopy = false := builds
      rw [owed shadow present] at builds'
      cases builds'

theorem Presented.scanoutCopied (presented : Presented s) (taken : s.scanoutCopied = some t) :
    Presented t := by
  unfold Session.scanoutCopied at taken
  split at taken
  · cases taken
  · cases taken
    simp only [glDrawDone]
    split
    · exact { presented with }
    · exact { presented with }

/-! ### The graphics processor -/

/-- A texture of the device is no surface. -/
theorem Presented.surface_kept (presented : Presented s) {b : MTLCommandBuffer}
    (listed : b ∈ s.commands) (surface : IOSurface) :
    Storage.surface surface ≠ b.destination.storage := by
  obtain ⟨id, storage⟩ := presented.allocated b listed
  rw [storage]
  exact fun same => nomatch same

theorem Presented.copyTexel (presented : Presented s) (kept : Kept s) {index : Nat}
    {offset : Nat × Nat} (taken : s.copyTexel index offset = some t) : Presented t := by
  unfold Session.copyTexel at taken
  split at taken
  · cases taken
  · next b found =>
    split at taken
    · next uncopied =>
      cases taken
      have listed : b ∈ s.commands := List.mem_of_getElem? found
      obtain ⟨below, _⟩ := List.getElem?_eq_some_iff.mp found
      have member : ∀ d ∈ s.commands.set index
          { b with uncopied := b.uncopied.filter (· ≠ offset) },
          d ∈ s.commands ∨ d = { b with uncopied := b.uncopied.filter (· ≠ offset) } :=
        fun d inside => List.mem_or_eq_of_mem_set inside
      have surface_same : ∀ surface c, (if Storage.surface surface = b.destination.storage ∧
          c = b.target offset then s.read b offset else s.texels (.surface surface) c) =
            s.texels (.surface surface) c :=
        fun surface c => if_neg fun hit => presented.surface_kept listed surface hit.1
      refine { presented with
        allocated := ?_, apart := ?_, copies := ?_, reads := ?_, shadow := ?_, source := ?_ }
      · intro d inside
        rcases member d inside with old | rfl
        · exact presented.allocated d old
        · exact presented.allocated b listed
      · intro d inside
        rcases member d inside with old | rfl
        · exact presented.apart d old
        · exact presented.apart b listed
      · intro d inside copy
        rcases member d inside with old | rfl
        · obtain ⟨surface, reads, held⟩ := presented.copies d old copy
          refine ⟨surface, reads, fun c pending => ?_⟩
          simp only [surface_same]
          exact held c pending
        · obtain ⟨surface, reads, held⟩ := presented.copies b listed copy
          refine ⟨surface, reads, fun c pending => ?_⟩
          rw [MTLCommandBuffer.pending_filter] at pending
          simp only [surface_same]
          exact held c pending.1
      · intro builds d inside
        rcases member d inside with old | rfl
        · exact presented.reads builds d old
        · exact presented.reads builds b listed
      · intro shadow present c current
        simp only
        split
        · next hit =>
          -- The texel is the shadow's, so the command copies the scanout.
          have copy : b.isScanoutCopy = true := by
            cases canvas : b.isScanoutCopy with
            | true => rfl
            | false => exact absurd hit.1.symm (presented.apart b listed canvas shadow present)
          obtain ⟨surface, reads, held⟩ := presented.copies b listed copy
          have pending : c ∈ b.pending := ⟨offset, uncopied, hit.2.symm⟩
          have value : s.read b offset = s.texels (.surface surface) c := by
            rw [Session.read, reads, hit.2]
            rfl
          rw [value]
          exact (held c pending).resolve_right fun left => current (.inl left)
        · next miss =>
          apply presented.shadow shadow present c
          rintro (left | ⟨d, old, copy, storage, pending⟩)
          · exact current (.inl left)
          · apply current
            right
            rcases mem_set_or old found with stays | rfl
            · exact ⟨d, stays, copy, storage, pending⟩
            · refine ⟨_, List.mem_set below _, copy, storage, ?_⟩
              rw [MTLCommandBuffer.pending_filter]
              exact ⟨pending, fun same => miss ⟨storage.symm, same⟩⟩
      · intro builds source wrapped c unchanged
        obtain ⟨surface, storage⟩ := kept.wrapped source wrapped
        have before := presented.source builds source wrapped c unchanged
        simp only [storage, surface_same] at before ⊢
        exact before
    · cases taken

theorem Presented.commandCompleted (presented : Presented s) {index : Nat}
    (taken : s.commandCompleted index = some t) : Presented t := by
  unfold Session.commandCompleted at taken
  split at taken
  · cases taken
  · next b found =>
    split at taken
    · next done =>
      cases taken
      refine { presented with
        allocated := ?_, apart := ?_, copies := ?_, reads := ?_, shadow := ?_ }
      · intro d inside
        exact presented.allocated d (List.mem_of_mem_eraseIdx inside)
      · intro d inside
        exact presented.apart d (List.mem_of_mem_eraseIdx inside)
      · intro d inside
        exact presented.copies d (List.mem_of_mem_eraseIdx inside)
      · intro builds d inside
        exact presented.reads builds d (List.mem_of_mem_eraseIdx inside)
      · intro shadow present
        apply (presented.shadow shadow present).mono
        rintro c (left | ⟨d, old, copy, storage, pending⟩)
        · exact .inl left
        · rcases mem_eraseIdx_or old found with stays | rfl
          · exact .inr ⟨d, stays, copy, storage, pending⟩
          · rw [MTLCommandBuffer.pending_nil done] at pending
            cases pending
    · cases taken

/-- What fails is a copy of the canvas before, and leaves the shadow alone. -/
theorem Presented.commandFailed (presented : Presented s) (kept : Kept s) {index : Nat}
    {garbage : Cell → Pixel}
    (served : ∀ b, s.commands[index]? = some b → b.isScanoutCopy = false)
    (taken : s.commandFailed index garbage = some t) : Presented t := by
  unfold Session.commandFailed at taken
  split at taken
  · cases taken
  · next b found =>
    cases taken
    have listed : b ∈ s.commands := List.mem_of_getElem? found
    have canvas : ¬ b.isScanoutCopy = true := Bool.eq_false_iff.mp (served b found)
    simp only [if_neg canvas]
    have surface_same : ∀ surface c, (if Storage.surface surface = b.destination.storage ∧
        c ∈ b.region.cells then garbage c else s.texels (.surface surface) c) =
          s.texels (.surface surface) c :=
      fun surface c => if_neg fun hit => presented.surface_kept listed surface hit.1
    refine { presented with
      allocated := ?_, apart := ?_, copies := ?_, reads := ?_, shadow := ?_, source := ?_ }
    · intro d inside
      exact presented.allocated d (List.mem_of_mem_eraseIdx inside)
    · intro d inside
      exact presented.apart d (List.mem_of_mem_eraseIdx inside)
    · intro d inside copy
      obtain ⟨surface, reads, held⟩ :=
        presented.copies d (List.mem_of_mem_eraseIdx inside) copy
      refine ⟨surface, reads, fun c pending => ?_⟩
      simp only [surface_same]
      exact held c pending
    · intro builds d inside
      exact presented.reads builds d (List.mem_of_mem_eraseIdx inside)
    · intro shadow present c current
      have other : ¬ (shadow.storage = b.destination.storage ∧ c ∈ b.region.cells) :=
        fun hit => presented.apart b listed (served b found) shadow present hit.1.symm
      simp only [if_neg other]
      apply presented.shadow shadow present c
      rintro (left | ⟨d, old, copy, storage, pending⟩)
      · exact current (.inl left)
      · rcases mem_eraseIdx_or old found with stays | rfl
        · exact current (.inr ⟨d, stays, copy, storage, pending⟩)
        · exact canvas copy
    · intro builds source wrapped c unchanged
      obtain ⟨surface, storage⟩ := kept.wrapped source wrapped
      have before := presented.source builds source wrapped c unchanged
      simp only [storage, surface_same] at before ⊢
      exact before

/-! ### The server writes -/

theorem Presented.writeSurface (presented : Presented s) (kept : Kept s) (answered : Answered s)
    {surface : IOSurface} {contents : Cell → Pixel}
    (served : Served s (.writeSurface surface contents)) :
    Presented (s.writeSurface surface contents) := by
  unfold Session.writeSurface
  refine { presented with copies := ?_, shadow := ?_, source := ?_, whole := ?_ }
  · intro b listed copy
    obtain ⟨other, reads, held⟩ := presented.copies b listed copy
    refine ⟨other, reads, fun c pending => ?_⟩
    by_cases same : other = surface
    · subst same
      simp only [if_true]
      by_cases altered : contents c = s.texels (.surface other) c
      · rw [altered]
        exact (held c pending).imp_right .inl
      · exact .inr (.inr ⟨altered, b, listed, ⟨b.origin, reads⟩, pending⟩)
    · have apart : Storage.surface other ≠ .surface surface := fun equal =>
        same (Storage.surface.inj equal)
      simp only [if_neg apart]
      exact (held c pending).imp_right .inl
  · intro shadow present
    obtain ⟨id, _, storage⟩ := kept.own shadow (.inr present)
    have apart : shadow.storage ≠ .surface surface := by
      rw [storage]
      exact fun same => nomatch same
    simp only [if_neg apart]
    apply (presented.shadow shadow present).mono
    rintro c (left | copying)
    · exact .inl (.inl left)
    · exact .inr copying
  · intro builds source wrapped c unchanged
    have drawn : s.display.glTexture = some source := wrapped
    simp only [drawn] at unchanged
    by_cases same : source.storage = .surface surface
    · simp only [if_pos same]
      have before : c ∉ s.changed := fun altered => unchanged (.inl altered)
      have kept : contents c = s.texels (.surface surface) c :=
        not_not.mp fun altered => unchanged (.inr ⟨same, altered⟩)
      rw [kept, ← same]
      exact presented.source builds source wrapped c before
    · simp only [if_neg same]
      exact presented.source builds source wrapped c fun altered => unchanged (.inl altered)
  · intro builds shadow present c inside
    rintro (left | ⟨_, b, listed, ⟨origin, reads⟩, _⟩)
    · exact presented.whole builds shadow present c inside left
    · -- No copy reads what the server writes.
      have copy : b.isScanoutCopy = true := by
        rw [MTLCommandBuffer.isScanoutCopy, reads]
      rcases served with told | other
      · have canvas := answered.no_copies told b listed
        rw [copy] at canvas
        cases canvas
      · obtain ⟨source, wrapped, reads'⟩ := presented.reads builds b listed copy
        rw [reads] at reads'
        exact other source wrapped (BlitSource.texture.inj reads').1.symm

/-! ### Runs -/

/-- Every event that the server and the device keep to preserves the invariant. -/
theorem Presented.step (presented : Presented s) (tracked : Tracked ∅ s) (answered : Answered s)
    {event : DisplayEvent} (served : Served s event) (taken : s.step event = some t) :
    Presented t := by
  have next : Tracked ∅ t := tracked.step taken
  have kept := tracked.toKept
  cases event with
  | primaryCreate => exact presented.primaryCreate kept taken
  | primaryDestroy =>
    cases taken
    exact presented.primaryDestroy
  | invalidate =>
    have taken' := taken
    simp only [Session.step, Session.invalidate] at taken'
    split at taken'
    · cases taken'
    · next disabled =>
      exact presented.of_canvas next.toKept (kept.invalidate_beside taken)
        (Bool.eq_false_iff.mpr disabled)
  | monitors => exact presented.updateMonitorArea kept taken
  | glScanout =>
    cases taken
    exact presented.glScanout kept served _ _ _ _
  | glDraw => exact presented.glDraw kept answered served taken
  | addRenderer renderer =>
    simp only [Session.step, Session.addRenderer] at taken
    split at taken
    · cases taken
      exact { presented with }
    · split at taken
      · cases taken
        exact { presented with }
      · cases taken
  | removeRenderer =>
    cases taken
    exact { presented with }
  | setDevice => exact presented.setDevice kept taken
  | drawCompleted =>
    simp only [Session.step] at taken
    split at taken
    · cases taken
    · cases taken
      exact presented.drawCompleted kept _ next.toKept
  | scanoutCopied => exact presented.scanoutCopied taken
  | invalidateCompleted =>
    simp only [Session.step, Session.invalidateCompleted] at taken
    split at taken
    · cases taken
    · cases taken
      exact { presented with }
  | copyTexel => exact presented.copyTexel kept taken
  | commandCompleted => exact presented.commandCompleted taken
  | commandFailed => exact presented.commandFailed kept served taken
  | writeMemory =>
    cases taken
    exact { presented with }
  | writeSurface =>
    cases taken
    exact presented.writeSurface kept answered served

theorem presented_initial (monitorID : Int) (monitorsConfig : Bool) (memory : Int → UInt8)
    (texels : Storage → Cell → Pixel) :
    Presented (initial monitorID monitorsConfig memory texels) := by
  constructor
  · intro _
    exact ⟨rfl, rfl⟩
  · intro enabled
    cases enabled
  · intro b listed
    cases listed
  · intro b listed
    cases listed
  · intro source shadow wrapped
    cases wrapped
  · intro _ present
    cases present
  · intro b listed
    cases listed
  · intro _ b listed
    cases listed
  · intro shadow present
    cases present
  · intro _ source wrapped
    cases wrapped
  · intro _ shadow present
    cases present

/-- **The shadow presents the frame**: in a run that keeps to what the copies rely on, every texel
of a presented shadow that is not owed a whole copy is the last drawn frame's, or is still to be
written by a copy under way; once the server is told, it is the frame's. -/
theorem scanout_presented {monitorID : Int} {monitorsConfig : Bool} {memory : Int → UInt8}
    {texels : Storage → Cell → Pixel} {events : List DisplayEvent}
    (run : Run Session.step (initial monitorID monitorsConfig memory texels) events s)
    (served : Meets Session.step Served (initial monitorID monitorsConfig memory texels) events)
    (present : s.display.presentTexture = some shadow)
    (builds : s.display.shadowNeedsFullCopy = false) :
    (∀ c ∈ shadow.bounds.cells,
      s.texels shadow.storage c = s.frame c ∨ c ∈ s.copyingScanout shadow) ∧
    (s.drawsReceived = s.drawsDone →
      ∀ c ∈ shadow.bounds.cells, s.texels shadow.storage c = s.frame c) := by
  obtain ⟨tracked, answered, presented⟩ := run.invariant (V := fun _ => True)
    (I := fun s => Tracked ∅ s ∧ Answered s ∧ Presented s)
    (fun _ _ _ inv _ served taken => ⟨inv.1.step taken, inv.2.1.step inv.1.toKept taken,
      inv.2.2.step inv.1 inv.2.1 served taken⟩)
    (fun _ _ => trivial) served
    ⟨tracked_initial _ _ _ _, answered_initial _ _ _ _, presented_initial _ _ _ _⟩
  have held := tracked.presented shadow present
  have follows : ∀ c ∈ shadow.bounds.cells,
      s.texels shadow.storage c = s.frame c ∨ c ∈ s.copyingScanout shadow := by
    intro c inside
    by_cases copying : c ∈ s.copyingScanout shadow
    · exact .inr copying
    · left
      apply presented.shadow shadow held c
      rintro (left | copying')
      · exact presented.whole builds shadow held c inside left
      · exact copying copying'
  refine ⟨follows, fun told c inside => ?_⟩
  apply (follows c inside).resolve_right
  rw [copyingScanout_eq_empty (answered.no_copies told)]
  exact fun none => none

/-- A scanout of one cell, copied whole and published. -/
theorem scanout_presented_one_cell :
    ∃ s shadow, Run Session.step (initial 0 false (fun _ => 0) fun _ _ => [])
      [.addRenderer ⟨0, 0⟩, .setDevice ⟨true, true⟩, .glScanout (some ⟨0, false⟩) 1 1 ⟨true, true⟩,
        .monitors [] ⟨true, true⟩, .writeSurface ⟨0, false⟩ fun _ => [7], .glDraw 0 0 1 1,
        .copyTexel 0 (0, 0), .commandCompleted 0, .scanoutCopied] s ∧
      s.display.presentTexture = some shadow ∧
      ∀ c ∈ shadow.bounds.cells, s.texels shadow.storage c = s.frame c := by
  have run : Run Session.step (initial 0 false (fun _ => 0) fun _ _ => [])
      [.addRenderer ⟨0, 0⟩, .setDevice ⟨true, true⟩, .glScanout (some ⟨0, false⟩) 1 1 ⟨true, true⟩,
        .monitors [] ⟨true, true⟩, .writeSurface ⟨0, false⟩ fun _ => [7], .glDraw 0 0 1 1,
        .copyTexel 0 (0, 0), .commandCompleted 0, .scanoutCopied] _ := run_of_execute rfl
  refine ⟨_, ⟨.device 0, .bgra8Unorm, 1, 1⟩, run, rfl, ?_⟩
  apply (scanout_presented run _ rfl rfl).2 rfl
  apply Meets.next rfl trivial
  apply Meets.next rfl trivial
  apply Meets.next rfl (.inr rfl)
  apply Meets.next rfl trivial
  apply Meets.next rfl (.inl rfl)
  apply Meets.next rfl ⟨rfl, fun _ builds => nomatch builds⟩
  apply Meets.next rfl trivial
  apply Meets.next rfl trivial
  apply Meets.next rfl trivial
  trivial

end Session

end SimpleVM.SPICE.Display
