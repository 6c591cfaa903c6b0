import SimpleVM.SPICE.CanvasCurrent
/-!
# Copies stay in their textures

A committed copy writes inside its texture, and one of the canvas reads inside the canvas, as long
as the visible area and the mode change only while nothing is gathered, and a device is set only
while the visible area is one of the canvas. What was gathered before a change of the area is drawn
after it, wherever it then lies; that is what the condition keeps out.
-/
namespace SimpleVM.SPICE.Display

open Raster Transition

/-- A copy writes inside its texture, and reads inside the canvas if it reads a buffer. -/
def InBounds (s : Session) (b : MTLCommandBuffer) : Prop :=
  b.region.Within b.destination.bounds ∧
    ∀ address bytesPerRow, b.source = .buffer address bytesPerRow → ∀ offset ∈ b.uncopied,
      s.display.canvasData ≤
        address + offset.2 * bytesPerRow + offset.1 * b.destination.pixelFormat.bytes ∧
      address + offset.2 * bytesPerRow + offset.1 * b.destination.pixelFormat.bytes +
          b.destination.pixelFormat.bytes ≤
        s.display.canvasData + s.display.canvasStride * s.display.canvasArea.height

/-- The bytes of one cell. -/
def SurfaceFormat.bytes : SurfaceFormat → Nat
  | .xRGB32 => 4
  | .rgb555 => 2

/-- Nothing is gathered, or the visible area stays where it is. -/
def AreaStays (s : Session) (event : DisplayEvent) : Prop :=
  s.display.canvasDirtyRect = .zero ∨
    ∀ t, s.step event = some t → t.display.visibleArea = s.display.visibleArea

/-- What the server promises of a surface, and what has to be settled before the area changes. -/
def Settled (s : Session) (event : DisplayEvent) : Prop :=
  match event with
  | .primaryCreate format width _ stride _ _ _ =>
    width * format.bytes ≤ stride ∧ AreaStays s event
  | .monitors _ _ => AreaStays s event
  | .glScanout _ _ _ _ => s.display.canvasDirtyRect = .zero
  | .setDevice _ => s.display.visibleArea.isEmpty = true ∨
      s.display.visibleArea.Within s.display.canvasArea
  | _ => True

namespace Session

variable {s t : Session} {rect : CGRect} {texture : MTLTexture} {grants : Grants}

/-- Where the canvas, its visible part and what is gathered of it lie. -/
structure Framed (s : Session) : Prop where
  origin : s.display.isGLEnabled = false →
    s.display.canvasArea.x = 0 ∧ s.display.canvasArea.y = 0 ∧
      s.display.visibleArea.x = 0 ∧ s.display.visibleArea.y = 0
  rows : s.display.isGLEnabled = false → s.display.canvasData ≠ 0 →
    s.display.canvasArea.width * s.display.pixelSize ≤ s.display.canvasStride
  gathered : s.display.canvasDirtyRect = .zero ∨
    (s.display.isGLEnabled = false ∧ s.display.canvasDirtyRect.Within s.display.visibleArea)
  inside : s.display.isGLEnabled = false → s.display.canvasBuffer.isSome →
    s.display.visibleArea.isEmpty = false →
      s.display.visibleArea.Within s.display.canvasArea ∧
      ∀ texture, s.display.canvasTexture = some texture →
        texture.bounds = ⟨0, 0, s.display.visibleArea.width, s.display.visibleArea.height⟩ ∧
        texture.pixelFormat.bytes = s.display.pixelSize

/-- A cell of the canvas has its bytes in the canvas. -/
theorem address_bounds {x y stride width height bytes : Nat} (data : Int) (column : x < width)
    (row : y < height) (fits : width * bytes ≤ stride) :
    data ≤ data + y * stride + x * bytes ∧
      data + (y * stride + x * bytes : Int) + bytes ≤ data + stride * height := by
  have inRow : x * bytes + bytes ≤ stride := by
    calc x * bytes + bytes = (x + 1) * bytes := (Nat.succ_mul x bytes).symm
      _ ≤ width * bytes := Nat.mul_le_mul_right bytes column
      _ ≤ stride := fits
  have rows : y * stride + stride ≤ stride * height := by
    calc y * stride + stride = (y + 1) * stride := (Nat.succ_mul y stride).symm
      _ ≤ height * stride := Nat.mul_le_mul_right stride row
      _ = stride * height := Nat.mul_comm height stride
  constructor
  · have nonneg := Int.natCast_nonneg (y * stride + x * bytes)
    push_cast at nonneg
    omega
  · have both : y * stride + x * bytes + bytes ≤ stride * height := by omega
    have casted : ((y * stride + x * bytes + bytes : Nat) : Int) ≤ (stride * height : Nat) :=
      Int.ofNat_le.mpr both
    push_cast at casted
    omega

/-- A region of the visible area is copied inside both the texture and the canvas. -/
theorem Framed.inBounds (framed : Framed s) (kept : Kept s) (canvas : s.display.isGLEnabled = false)
    {buffer : MTLBuffer} (present : s.display.canvasBuffer = some buffer)
    (target : s.display.copyDestination = some texture) (data : s.display.canvasData ≠ 0)
    (within : rect.Within s.display.visibleArea) (some : rect.isEmpty = false) :
    InBounds s (s.copyOf buffer texture rect) := by
  obtain ⟨left, top, column, row⟩ := framed.origin canvas
  have visible : s.display.visibleArea.isEmpty = false := by
    cases empty : s.display.visibleArea.isEmpty with
    | false => rfl
    | true =>
      rcases CGRect.isEmpty_iff.mp empty with none | none
      · have narrow : rect.width = 0 := by
          simp only [CGRect.Within] at within
          omega
        rw [CGRect.isEmpty_iff.mpr (.inl narrow)] at some
        cases some
      · have low : rect.height = 0 := by
          simp only [CGRect.Within] at within
          omega
        rw [CGRect.isEmpty_iff.mpr (.inr low)] at some
        cases some
  obtain ⟨area, textures⟩ := framed.inside canvas (by rw [present]; rfl) visible
  obtain ⟨bounds, format⟩ := textures texture (canvasTexture_of_copyDestination canvas target)
  have fits := framed.rows canvas data
  have base := kept.base buffer present
  refine ⟨?_, ?_⟩
  · show (⟨rect.x - s.display.visibleArea.x, rect.y - s.display.visibleArea.y, rect.width,
      rect.height⟩ : CGRect).Within texture.bounds
    rw [bounds]
    simp only [CGRect.Within] at within ⊢
    omega
  · intro address bytesPerRow source offset listed
    cases source
    obtain ⟨i, j⟩ := offset
    obtain ⟨inColumn, inRow⟩ := MTLCommandBuffer.mem_offsets.mp listed
    simp only at inColumn inRow
    -- The texel shows a cell of the canvas, which has its bytes there.
    obtain ⟨x, column'⟩ : ∃ x : Nat, rect.x + i = x :=
      ⟨(rect.x + i).toNat, by simp only [CGRect.Within] at within; omega⟩
    obtain ⟨y, row'⟩ : ∃ y : Nat, rect.y + j = y :=
      ⟨(rect.y + j).toNat, by simp only [CGRect.Within] at within; omega⟩
    have inWidth : x < s.display.canvasArea.width := by
      simp only [CGRect.Within] at within area
      omega
    have inHeight : y < s.display.canvasArea.height := by
      simp only [CGRect.Within] at within area
      omega
    obtain ⟨above, below⟩ := address_bounds s.display.canvasData inWidth inHeight fits
    show _ ≤ _ + (j : Int) * _ + (i : Int) * texture.pixelFormat.bytes ∧
      _ + (j : Int) * _ + (i : Int) * texture.pixelFormat.bytes + texture.pixelFormat.bytes ≤ _
    rw [format]
    have place : buffer.contents + (s.display.canvasBufferOffset +
        (rect.y * s.display.canvasStride + rect.x * s.display.pixelSize)) +
        (j : Int) * s.display.canvasStride + (i : Int) * s.display.pixelSize =
        s.display.canvasData + y * s.display.canvasStride + x * s.display.pixelSize := by
      rw [← base, ← column', ← row', Int.add_mul, Int.add_mul]
      omega
    rw [place]
    omega

/-- Drawing a region of the visible area leaves everything in its place. -/
theorem Framed.drawRegion (framed : Framed s) (rect : CGRect) : Framed (s.drawRegion rect) := by
  rcases s.drawRegion_cases rect with ⟨_, same⟩ | ⟨_, _, _, _, drawn⟩ | ⟨_, _, _, drawn⟩
  · rw [same]
    exact framed
  · rw [drawn]
    exact { framed with }
  · rw [drawn]
    exact { framed with gathered := .inl rfl }

/-- What an event commits is in bounds. -/
def Commits (s t : Session) : Prop := ∀ b, t.commands = s.commands ++ [b] → InBounds t b

/-- An event that commits nothing. -/
theorem commits_of_le (fewer : t.commands.length ≤ s.commands.length) : Commits s t := by
  intro b grown
  rw [grown, List.length_append] at fewer
  exact absurd fewer (by simp)

/-- Where a region of the visible area is drawn, its copy is in bounds. -/
theorem Framed.commits (framed : Framed s) (kept : Kept s) (canvas : s.display.isGLEnabled = false)
    (within : rect.Within s.display.visibleArea) (some : rect.isEmpty = false) :
    Commits s (s.drawRegion rect) := by
  rcases s.drawRegion_cases rect with ⟨_, same⟩ | ⟨buffer, texture, present, target, drawn⟩ |
    ⟨_, _, _, drawn⟩
  · rw [same]
    exact commits_of_le (Nat.le_refl _)
  · have data : s.display.canvasData ≠ 0 := by
      intro null
      rw [kept.data null] at present
      cases present
    intro b grown
    rw [drawn] at grown ⊢
    cases List.singleton_inj.mp (List.append_cancel_left grown)
    exact framed.inBounds kept canvas present target data within some
  · rw [drawn]
    exact commits_of_le (Nat.le_refl _)

/-- The same before there is a texture: the visible area is one of the canvas. -/
structure Laid (s : Session) : Prop where
  origin : s.display.isGLEnabled = false →
    s.display.canvasArea.x = 0 ∧ s.display.canvasArea.y = 0 ∧
      s.display.visibleArea.x = 0 ∧ s.display.visibleArea.y = 0
  rows : s.display.isGLEnabled = false → s.display.canvasData ≠ 0 →
    s.display.canvasArea.width * s.display.pixelSize ≤ s.display.canvasStride
  gathered : s.display.canvasDirtyRect = .zero ∨
    (s.display.isGLEnabled = false ∧ s.display.canvasDirtyRect.Within s.display.visibleArea)
  area : s.display.isGLEnabled = false → s.display.visibleArea.isEmpty = false →
    s.display.visibleArea.Within s.display.canvasArea

theorem Laid.framed (laid : Laid s) (none : s.display.canvasBuffer.isSome → False) : Framed s :=
  ⟨laid.origin, laid.rows, laid.gathered, fun _ some => (none some).elim⟩

/-- A texture as large as the visible area frames what is drawn into it. -/
theorem Laid.framed_of_texture (laid : Laid s)
    (fresh : ∀ t, s.display.canvasTexture = some t →
      t.bounds = ⟨0, 0, s.display.visibleArea.width, s.display.visibleArea.height⟩ ∧
      t.pixelFormat = s.display.canvasPixelFormat) : Framed s := by
  refine ⟨laid.origin, laid.rows, laid.gathered, ?_⟩
  intro canvas _ visible
  refine ⟨laid.area canvas visible, ?_⟩
  intro texture shown
  obtain ⟨bounds, format⟩ := fresh texture shown
  refine ⟨bounds, ?_⟩
  rw [format]
  unfold CSDisplay.canvasPixelFormat CSDisplay.pixelSize
  split <;> rfl

/-- A rebuilt texture is framed, and what is copied into it is in bounds. -/
theorem Laid.rebuildCanvasTexture (laid : Laid s) (kept : Kept s)
    (canvas : s.display.isGLEnabled = false) (grants : Grants) :
    Framed (s.rebuildCanvasTexture grants) ∧ Commits s (s.rebuildCanvasTexture grants) := by
  rcases s.rebuildCanvasTexture_cases grants with ⟨absent, same⟩ |
    ⟨visible, device, new, fresh, rebuilt⟩
  · rw [same]
    refine ⟨⟨laid.origin, laid.rows, laid.gathered, ?_⟩, commits_of_le (Nat.le_refl _)⟩
    intro _ some visible
    rcases absent with empty | none
    · rw [empty] at visible
      cases visible
    · have present := kept.device some
      rw [none] at present
      cases present
  · have textured : Laid (s.withTexture new) :=
      ⟨laid.origin, laid.rows, laid.gathered, laid.area⟩
    have framed : Framed (s.withTexture new) :=
      textured.framed_of_texture fun t shown => ⟨(fresh t shown).2.2, (fresh t shown).2.1⟩
    rcases rebuilt with same | ⟨buffer, data, contents, same⟩
    · rw [same]
      exact ⟨framed, commits_of_le (Nat.le_refl _)⟩
    · rw [same]
      have buffered : Laid ((s.withTexture new).withBuffer buffer
          (s.display.canvasData - truncPage s.display.canvasData)) :=
        ⟨laid.origin, laid.rows, laid.gathered, laid.area⟩
      have framed : Framed ((s.withTexture new).withBuffer buffer
          (s.display.canvasData - truncPage s.display.canvasData)) :=
        buffered.framed_of_texture fun t shown => ⟨(fresh t shown).2.2, (fresh t shown).2.1⟩
      have tracked : Tracked Set.univ ((s.withTexture new).withBuffer buffer
          (s.display.canvasData - truncPage s.display.canvasData)) :=
        kept.withBuffer (fun t granted => ⟨(fresh t granted).1, (fresh t granted).2.1⟩) device data
          contents
      exact ⟨framed.drawRegion _,
        framed.commits tracked.toKept canvas (CGRect.Within.refl _) visible⟩

/-! ### The visible area -/

theorem visibleArea_drawRegion (s : Session) (rect : CGRect) :
    (s.drawRegion rect).display.visibleArea = s.display.visibleArea := by
  rcases s.drawRegion_cases rect with ⟨_, same⟩ | ⟨_, _, _, _, drawn⟩ | ⟨_, _, _, drawn⟩
  · rw [same]
  · rw [drawn]
  · rw [drawn]

theorem visibleArea_rebuildCanvasTexture (s : Session) (grants : Grants) :
    (s.rebuildCanvasTexture grants).display.visibleArea = s.display.visibleArea := by
  rcases s.rebuildCanvasTexture_cases grants with ⟨_, same⟩ | ⟨_, _, _, _, same | ⟨_, _, _, same⟩⟩
  · rw [same]
  · rw [same]
    rfl
  · rw [same, visibleArea_drawRegion]
    rfl

/-- The part of the canvas that a monitor's area makes visible. -/
def visiblePart (s : Session) (rect : CGRect) : CGRect :=
  (s.display.canvasArea.intersection rect).getD .zero

/-- The display with its visible area moved. -/
def placed (s : Session) (rect : CGRect) : Session :=
  match s.display.canvasArea.intersection rect with
  | none => { s with display := { s.display with ready := false, visibleArea := .zero } }
  | some visible => { s with display := { s.display with visibleArea := visible } }

theorem updateVisibleArea_eq (s : Session) (rect : CGRect) (grants : Grants) :
    s.updateVisibleArea rect grants =
      let rebuilt := if (s.placed rect).display.isGLEnabled then s.placed rect
        else (s.placed rect).rebuildCanvasTexture grants
      { rebuilt with display := { rebuilt.display.rebuildDisplayVertices with ready := true } } :=
  rfl

theorem visibleArea_placed (s : Session) (rect : CGRect) :
    (s.placed rect).display.visibleArea = s.visiblePart rect := by
  unfold placed visiblePart
  cases s.display.canvasArea.intersection rect with
  | none => rfl
  | some visible => rfl

/-- Vertices and readiness move nothing. -/
theorem Framed.rebuildDisplayVertices (framed : Framed s) (ready : Bool) : Framed { s with
    display := { s.display.rebuildDisplayVertices with ready := ready } } := by
  unfold CSDisplay.rebuildDisplayVertices
  split
  · exact { framed with }
  · exact { framed with }

theorem commits_rebuildDisplayVertices (commits : Commits s t) (ready : Bool) : Commits s { t with
    display := { t.display.rebuildDisplayVertices with ready := ready } } := by
  intro b grown
  have inBounds := commits b grown
  unfold CSDisplay.rebuildDisplayVertices
  split
  · exact inBounds
  · exact inBounds

theorem visibleArea_updateVisibleArea (s : Session) (rect : CGRect) (grants : Grants) :
    (s.updateVisibleArea rect grants).display.visibleArea = s.visiblePart rect := by
  have vertices : ∀ d : CSDisplay, d.rebuildDisplayVertices.visibleArea = d.visibleArea := by
    intro d
    unfold CSDisplay.rebuildDisplayVertices
    split
    · rfl
    · rfl
  rw [updateVisibleArea_eq]
  simp only [vertices]
  split
  · exact visibleArea_placed s rect
  · rw [visibleArea_rebuildCanvasTexture]
    exact visibleArea_placed s rect

/-- The visible area moves while nothing is gathered, or stays. -/
theorem Framed.updateVisibleArea (framed : Framed s) (kept : Kept s) (rect : CGRect)
    (corner : s.display.isGLEnabled = false → rect.x = 0 ∧ rect.y = 0)
    (stays : s.display.canvasDirtyRect = .zero ∨ s.visiblePart rect = s.display.visibleArea)
    (grants : Grants) :
    Framed (s.updateVisibleArea rect grants) ∧ Commits s (s.updateVisibleArea rect grants) := by
  have part : s.display.isGLEnabled = false →
      (s.visiblePart rect).x = 0 ∧ (s.visiblePart rect).y = 0 ∧
        ((s.visiblePart rect).isEmpty = false → (s.visiblePart rect).Within s.display.canvasArea) := by
    intro canvas
    obtain ⟨left, top, _, _⟩ := framed.origin canvas
    obtain ⟨left', top'⟩ := corner canvas
    unfold visiblePart
    cases shared : s.display.canvasArea.intersection rect with
    | none => exact ⟨rfl, rfl, fun some => nomatch some⟩
    | some visible =>
      refine ⟨?_, ?_, fun _ => (CGRect.within_intersection shared).1⟩
      · simp only [CGRect.intersection] at shared
        split at shared
        · cases shared
          simp only [Option.getD_some]
          omega
        · cases shared
      · simp only [CGRect.intersection] at shared
        split at shared
        · cases shared
          simp only [Option.getD_some]
          omega
        · cases shared
  have gathered : s.display.canvasDirtyRect = .zero ∨ (s.display.isGLEnabled = false ∧
      s.display.canvasDirtyRect.Within (s.visiblePart rect)) := by
    rcases stays with none | same
    · exact .inl none
    · rw [same]
      exact framed.gathered
  have laid : Laid (s.placed rect) ∧ Kept (s.placed rect) ∧
      (s.placed rect).commands = s.commands ∧
      (s.placed rect).display.isGLEnabled = s.display.isGLEnabled := by
    unfold placed
    unfold visiblePart at part gathered
    cases shared : s.display.canvasArea.intersection rect with
    | none =>
      rw [shared] at part gathered
      refine ⟨⟨?_, framed.rows, gathered, fun canvas => (part canvas).2.2⟩, { kept with }, rfl, rfl⟩
      exact fun canvas => ⟨(framed.origin canvas).1, (framed.origin canvas).2.1, rfl, rfl⟩
    | some visible =>
      rw [shared] at part gathered
      refine ⟨⟨?_, framed.rows, gathered, fun canvas => (part canvas).2.2⟩, { kept with }, rfl, rfl⟩
      exact fun canvas => ⟨(framed.origin canvas).1, (framed.origin canvas).2.1,
        (part canvas).1, (part canvas).2.1⟩
  obtain ⟨laid, keptPlaced, commands, mode⟩ := laid
  rw [updateVisibleArea_eq]
  simp only
  split
  · next enabled =>
    refine ⟨Framed.rebuildDisplayVertices ⟨laid.origin, laid.rows, laid.gathered, ?_⟩ true,
      commits_of_le (Nat.le_of_eq (congrArg List.length commands))⟩
    intro canvas
    rw [enabled] at canvas
    cases canvas
  · next disabled =>
    obtain ⟨framed', commits⟩ := laid.rebuildCanvasTexture keptPlaced (Bool.eq_false_iff.mpr disabled)
      grants
    refine ⟨framed'.rebuildDisplayVertices true, commits_rebuildDisplayVertices ?_ true⟩
    intro b grown
    exact commits b (by rw [commands]; exact grown)

/-- A monitor's area is placed at the origin of a canvas. -/
theorem Framed.updateMonitorArea (framed : Framed s) (kept : Kept s) {monitors : List MonitorConfig}
    (stays : s.display.canvasDirtyRect = .zero ∨ ∀ t, s.updateMonitorArea monitors grants = some t →
      t.display.visibleArea = s.display.visibleArea)
    (taken : s.updateMonitorArea monitors grants = some t) : Framed t ∧ Commits s t := by
  have moved : ∀ (u : Session) (rect : CGRect), Framed u → Kept u → u.commands = s.commands →
      u.display.canvasDirtyRect = s.display.canvasDirtyRect →
      u.display.visibleArea = s.display.visibleArea →
      (u.display.isGLEnabled = false → rect.x = 0 ∧ rect.y = 0) →
      s.updateMonitorArea monitors grants = some (u.updateVisibleArea rect grants) →
      Framed (u.updateVisibleArea rect grants) ∧ Commits s (u.updateVisibleArea rect grants) := by
    intro u rect framed kept commands dirty area corner leads
    have stays' : u.display.canvasDirtyRect = .zero ∨
        u.visiblePart rect = u.display.visibleArea := by
      rw [dirty, area]
      exact stays.imp id fun stays => by
        rw [← visibleArea_updateVisibleArea u rect grants]
        exact stays _ leads
    obtain ⟨framed', commits⟩ := framed.updateVisibleArea kept rect corner stays' grants
    exact ⟨framed', fun b grown => commits b (by rw [commands]; exact grown)⟩
  have whole : s.display.isGLEnabled = false →
      s.display.canvasArea.x = 0 ∧ s.display.canvasArea.y = 0 := fun canvas =>
    ⟨(framed.origin canvas).1, (framed.origin canvas).2.1⟩
  have leads := taken
  unfold Session.updateMonitorArea at taken
  split at taken
  · cases taken
    exact moved s _ framed kept rfl rfl rfl whole leads
  · split at taken
    · split at taken
      · cases taken
        exact ⟨{ framed with }, commits_of_le (Nat.le_refl _)⟩
      · cases taken
        exact moved { s with display := { s.display with ready := false } } _ { framed with }
          { kept with } rfl rfl rfl whole leads
    · split at taken
      · cases taken
        exact moved s _ framed kept rfl rfl rfl whole leads
      · split at taken
        · next enabled =>
          cases taken
          refine moved s _ framed kept rfl rfl rfl ?_ leads
          intro canvas
          rw [enabled] at canvas
          cases canvas
        · cases taken
          exact moved s _ framed kept rfl rfl rfl (fun _ => ⟨rfl, rfl⟩) leads
    · cases taken

/-! ### The events -/

theorem Framed.primaryCreate (framed : Framed s) (kept : Kept s) {format : SurfaceFormat}
    {width height stride : Nat} {imgdata : Int} {monitors : List MonitorConfig}
    (settled : Settled s (.primaryCreate format width height stride imgdata monitors grants))
    (taken : s.primaryCreate format width height stride imgdata monitors grants = some t) :
    Framed t ∧ Commits s t := by
  obtain ⟨fits, stays⟩ := settled
  have leads := taken
  unfold Session.primaryCreate at taken
  split at taken
  · next null =>
    have none := kept.data null
    have absent : s.display.canvasBuffer.isSome → False := by
      intro present
      rw [none] at present
      cases present
    have created : Framed { s with
        display := { s.display with
          canvasArea := ⟨0, 0, width, height⟩
          canvasFormat := some format
          canvasStride := stride
          canvasData := imgdata } } := by
      refine ⟨?_, ?_, framed.gathered, fun _ present => (absent present).elim⟩
      · intro canvas
        exact ⟨rfl, rfl, (framed.origin canvas).2.2⟩
      · intro _ _
        have size : (if some format = some SurfaceFormat.xRGB32 then 4 else 2) = format.bytes := by
          cases format <;> rfl
        show width * (if some format = some SurfaceFormat.xRGB32 then 4 else 2) ≤ stride
        rw [size]
        exact fits
    have kept' : Kept { s with
        display := { s.display with
          canvasArea := ⟨0, 0, width, height⟩
          canvasFormat := some format
          canvasStride := stride
          canvasData := imgdata } } := by
      refine { kept with data := ?_, base := ?_ }
      · intro _
        exact none
      · intro buffer present
        rw [none] at present
        cases present
    have stays' : s.display.canvasDirtyRect = .zero ∨ ∀ t, Session.updateMonitorArea { s with
        display := { s.display with
          canvasArea := ⟨0, 0, width, height⟩
          canvasFormat := some format
          canvasStride := stride
          canvasData := imgdata } } monitors grants = some t →
        t.display.visibleArea = s.display.visibleArea := by
      rcases stays with empty | stays
      · exact .inl empty
      · refine .inr fun u leads' => stays u ?_
        show s.primaryCreate format width height stride imgdata monitors grants = some u
        unfold Session.primaryCreate
        rw [if_pos null]
        exact leads'
    exact created.updateMonitorArea kept' stays' taken
  · cases taken

theorem Framed.primaryDestroy (framed : Framed s) : Framed s.primaryDestroy := by
  refine ⟨?_, ?_, framed.gathered, ?_⟩
  · intro canvas
    exact ⟨rfl, rfl, (framed.origin canvas).2.2⟩
  · intro _ data
    exact absurd rfl data
  · intro _ present
    cases present

theorem Framed.invalidate (framed : Framed s) (kept : Kept s)
    (taken : s.invalidate rect = some t) : Framed t ∧ Commits s t := by
  unfold Session.invalidate at taken
  split at taken
  · cases taken
  · next disabled =>
    have canvas : s.display.isGLEnabled = false := Bool.eq_false_iff.mpr disabled
    split at taken
    · cases taken
      exact ⟨{ framed with }, commits_of_le (Nat.le_refl _)⟩
    · next shown shared =>
      have within := (CGRect.within_intersection shared).2
      split at taken
      · cases taken
        exact ⟨{ framed with }, commits_of_le (Nat.le_refl _)⟩
      · next empty =>
        split at taken
        · cases taken
          refine ⟨{ framed with gathered := .inr ⟨canvas, ?_⟩ }, commits_of_le (Nat.le_refl _)⟩
          obtain ⟨_, _, column, row⟩ := framed.origin canvas
          apply CGRect.Within.union _ within
          rcases framed.gathered with none | ⟨_, inside⟩
          · rw [none]
            exact CGRect.zero_within column row
          · exact inside
        · cases taken
          have reported : Framed { s with unreported := s.unreported \ rect.cells } :=
            { framed with }
          exact ⟨reported.drawRegion _,
            reported.commits { kept with } canvas within (Bool.eq_false_iff.mpr empty)⟩

theorem Framed.drawCompleted (framed : Framed s) (kept : Kept s) (n : Nat) :
    Framed { s with drawsPending := n }.drawCompleted ∧
      Commits s { s with drawsPending := n }.drawCompleted := by
  have emptied : Framed { s with
      drawsPending := n
      display := { s.display with canvasDirtyRect := .zero, canvasIsBusy := false } } :=
    { framed with gathered := .inl rfl }
  have kept' : Kept { s with
      drawsPending := n
      display := { s.display with canvasDirtyRect := .zero, canvasIsBusy := false } } := by
    refine { kept with busy := ?_, gathered := ?_ }
    · intro busy
      cases busy
    · intro dirty
      cases dirty
  unfold Session.drawCompleted
  simp only
  split
  · exact ⟨emptied, commits_of_le (Nat.le_refl _)⟩
  · next some =>
    refine ⟨emptied.drawRegion _, ?_⟩
    rcases framed.gathered with none | ⟨canvas, within⟩
    · rw [none] at some
      exact absurd CGRect.isEmpty_zero some
    · exact emptied.commits kept' canvas within (Bool.eq_false_iff.mpr some)

/-- A scanout is copied within both textures. -/
theorem Framed.glDraw (framed : Framed s) (taken : s.glDraw rect = some t) :
    Framed t ∧ Commits s t := by
  unfold Session.glDraw at taken
  simp only at taken
  split at taken
  · cases taken
  · split at taken
    · next source destination _ _ _ _ _ _ =>
      cases taken
      refine ⟨{ framed with }, ?_⟩
      intro b grown
      cases List.singleton_inj.mp (List.append_cancel_left grown)
      refine ⟨?_, ?_⟩
      · have bounded : ∀ damaged : CGRect, damaged.Within ⟨0, 0, min source.width destination.width,
            min source.height destination.height⟩ → damaged.Within destination.bounds := by
          intro damaged within
          simp only [CGRect.Within, MTLTexture.bounds] at within ⊢
          omega
        apply bounded
        show CGRect.Within _ _
        split
        · exact CGRect.Within.refl _
        · split
          · exact CGRect.zero_within rfl rfl
          · next damaged shared => exact (CGRect.within_intersection shared).2
      · intro address bytesPerRow buffer
        cases buffer
    · split at taken
      · cases taken
        exact ⟨{ framed with }, commits_of_le (Nat.le_refl _)⟩
      · cases taken
        exact ⟨{ framed with }, commits_of_le (Nat.le_refl _)⟩

/-- In the mode of a scanout it only matters that nothing is gathered. -/
theorem framed_of_gl (enabled : s.display.isGLEnabled = true)
    (none : s.display.canvasDirtyRect = .zero) : Framed s := by
  have never : s.display.isGLEnabled = false → False := by
    intro canvas
    rw [enabled] at canvas
    cases canvas
  exact ⟨fun canvas => (never canvas).elim, fun canvas => (never canvas).elim, .inl none,
    fun canvas => (never canvas).elim⟩

theorem rebuildScanoutTexture_same (s : Session) (surface : IOSurface) (width height : Nat)
    (grants : Grants) :
    (s.rebuildScanoutTexture surface width height grants).display.canvasDirtyRect =
        s.display.canvasDirtyRect ∧
      (s.rebuildScanoutTexture surface width height grants).commands = s.commands := by
  have shadow : ∀ (u : Session) (allocates : Bool),
      (u.rebuildShadowTexture width height allocates).display.canvasDirtyRect =
        u.display.canvasDirtyRect ∧
      (u.rebuildShadowTexture width height allocates).commands = u.commands := by
    intro u allocates
    unfold Session.rebuildShadowTexture
    split
    · exact ⟨rfl, rfl⟩
    · exact ⟨rfl, rfl⟩
  exact shadow _ _

theorem Framed.glScanout (none : s.display.canvasDirtyRect = .zero) (found : Option IOSurface)
    (width height : Nat) (grants : Grants) :
    Framed (s.glScanout found width height grants) ∧
      Commits s (s.glScanout found width height grants) := by
  unfold Session.glScanout
  cases found with
  | none => exact ⟨framed_of_gl rfl none, commits_of_le (Nat.le_refl _)⟩
  | some surface =>
    simp only
    split
    · obtain ⟨dirty, commands⟩ := rebuildScanoutTexture_same { s with
        display := { s.display with isGLEnabled := true } } surface width height grants
      constructor
      · apply Framed.rebuildDisplayVertices
        exact framed_of_gl (isGLEnabled_rebuildScanoutTexture _ _ _ _ _) (dirty.trans none)
      · exact commits_of_le (Nat.le_of_eq (congrArg List.length commands))
    · exact ⟨framed_of_gl rfl none, commits_of_le (Nat.le_refl _)⟩

theorem Framed.setDevice (framed : Framed s) (kept : Kept s)
    (settled : s.display.visibleArea.isEmpty = true ∨
      s.display.visibleArea.Within s.display.canvasArea)
    (taken : s.setDevice grants = some t) : Framed t ∧ Commits s t := by
  unfold Session.setDevice at taken
  simp only at taken
  split at taken
  · cases taken
  · next device tasks _ =>
    cases taken
    have gl : s.display.isGLEnabled = true → ∀ u : Session, u.display.isGLEnabled = true →
        u.display.canvasDirtyRect = s.display.canvasDirtyRect → u.commands = s.commands →
        Framed u ∧ Commits s u := by
      intro enabled u enabled' dirty commands
      refine ⟨framed_of_gl enabled' ?_, commits_of_le (Nat.le_of_eq (congrArg List.length commands))⟩
      rw [dirty]
      rcases framed.gathered with none | ⟨canvas, _⟩
      · exact none
      · rw [enabled] at canvas
        cases canvas
    suffices rebuilt : ∀ u : Session, Framed u ∧ Commits s u →
        Framed { u with display := u.display.rebuildDisplayVertices } ∧
          Commits s { u with display := u.display.rebuildDisplayVertices } by
      apply rebuilt
      split
      · next enabled =>
        split
        · next surface width height _ =>
          obtain ⟨dirty, commands⟩ := rebuildScanoutTexture_same { s with
            deviceTasks := tasks
            display := { s.display with
              device := some device
              shadowTexture := none
              presentTexture := none } } surface width height grants
          exact gl enabled _ ((isGLEnabled_rebuildScanoutTexture _ _ _ _ _).trans enabled) dirty
            commands
        · split
          · next surface _ width height _ =>
            obtain ⟨dirty, commands⟩ := rebuildScanoutTexture_same { s with
              deviceTasks := tasks
              display := { s.display with
                device := some device
                shadowTexture := none
                presentTexture := none } } surface width height grants
            exact gl enabled _ ((isGLEnabled_rebuildScanoutTexture _ _ _ _ _).trans enabled) dirty
              commands
          · exact gl enabled _ enabled rfl rfl
      · next disabled =>
        have set : Kept { s with
            deviceTasks := tasks
            display := { s.display with
              device := some device
              shadowTexture := none
              presentTexture := none } } := by
          refine { kept with own := ?_, presented := ?_, device := ?_ }
          · rintro texture (canvas | shadow)
            · exact kept.own texture (.inl canvas)
            · cases shadow
          · intro texture present
            cases present
          · intro _
            rfl
        have laid : Laid { s with
            deviceTasks := tasks
            display := { s.display with
              device := some device
              shadowTexture := none
              presentTexture := none } } := by
          refine ⟨framed.origin, framed.rows, framed.gathered, ?_⟩
          intro _ visible
          rcases settled with empty | within
          · exact absurd (empty.symm.trans visible) (by decide)
          · exact within
        exact laid.rebuildCanvasTexture set (Bool.eq_false_iff.mpr disabled) grants
    rintro u ⟨framed, commits⟩
    exact ⟨framed.rebuildDisplayVertices _, commits_rebuildDisplayVertices commits _⟩

/-! ### Runs -/

/-- A settled event keeps everything in its place, and commits in bounds. -/
theorem Framed.step (framed : Framed s) (tracked : Tracked ∅ s) {event : DisplayEvent}
    (settled : Settled s event) (taken : s.step event = some t) : Framed t ∧ Commits s t := by
  cases event with
  | primaryCreate => exact framed.primaryCreate tracked.toKept settled taken
  | primaryDestroy =>
    cases taken
    exact ⟨framed.primaryDestroy, commits_of_le (Nat.le_refl _)⟩
  | invalidate => exact framed.invalidate tracked.toKept taken
  | monitors => exact framed.updateMonitorArea tracked.toKept settled taken
  | glScanout =>
    cases taken
    exact Framed.glScanout settled _ _ _ _
  | glDraw => exact framed.glDraw taken
  | addRenderer renderer =>
    simp only [Session.step, Session.addRenderer] at taken
    split at taken
    · cases taken
      exact ⟨{ framed with }, commits_of_le (Nat.le_refl _)⟩
    · split at taken
      · cases taken
        exact ⟨{ framed with }, commits_of_le (Nat.le_refl _)⟩
      · cases taken
  | removeRenderer =>
    cases taken
    exact ⟨{ framed with }, commits_of_le (Nat.le_refl _)⟩
  | setDevice => exact framed.setDevice tracked.toKept settled taken
  | drawCompleted =>
    simp only [Session.step] at taken
    split at taken
    · cases taken
    · cases taken
      exact framed.drawCompleted tracked.toKept _
  | scanoutCopied =>
    simp only [Session.step, Session.scanoutCopied] at taken
    split at taken
    · cases taken
    · cases taken
      simp only [glDrawDone]
      split
      · exact ⟨{ framed with }, commits_of_le (Nat.le_refl _)⟩
      · exact ⟨{ framed with }, commits_of_le (Nat.le_refl _)⟩
  | invalidateCompleted =>
    simp only [Session.step, Session.invalidateCompleted] at taken
    split at taken
    · cases taken
    · cases taken
      exact ⟨{ framed with }, commits_of_le (Nat.le_refl _)⟩
  | copyTexel index offset =>
    simp only [Session.step, Session.copyTexel] at taken
    split at taken
    · cases taken
    · split at taken
      · cases taken
        exact ⟨{ framed with }, commits_of_le (Nat.le_of_eq (by simp))⟩
      · cases taken
  | commandCompleted index =>
    simp only [Session.step, Session.commandCompleted] at taken
    split at taken
    · cases taken
    · split at taken
      · cases taken
        exact ⟨{ framed with }, commits_of_le (List.length_eraseIdx_le _ _)⟩
      · cases taken
  | commandFailed index garbage =>
    simp only [Session.step, Session.commandFailed] at taken
    split at taken
    · cases taken
    · cases taken
      exact ⟨{ framed with }, commits_of_le (List.length_eraseIdx_le _ _)⟩
  | writeMemory memory =>
    cases taken
    exact ⟨{ framed with }, commits_of_le (Nat.le_refl _)⟩
  | writeSurface surface contents =>
    cases taken
    exact ⟨{ framed with }, commits_of_le (Nat.le_refl _)⟩

theorem framed_initial (monitorID : Int) (monitorsConfig : Bool) (memory : Int → UInt8)
    (texels : Storage → Cell → Pixel) :
    Framed (initial monitorID monitorsConfig memory texels) := by
  refine ⟨fun _ => ⟨rfl, rfl, rfl, rfl⟩, ?_, .inl rfl, ?_⟩
  · intro _ data
    exact absurd rfl data
  · intro _ present
    cases present

/-- **Copies are in bounds**: in a run whose events are settled, every copy that is committed writes
inside its texture and reads inside the canvas. -/
theorem copies_in_bounds (monitorID : Int) (monitorsConfig : Bool) (memory : Int → UInt8)
    (texels : Storage → Cell → Pixel) (events : List DisplayEvent)
    (settled : Meets Session.step Settled (initial monitorID monitorsConfig memory texels) events) :
    Along Session.step (fun s _ t => ∀ b, t.commands = s.commands ++ [b] → InBounds t b)
      (initial monitorID monitorsConfig memory texels) events :=
  along_of_meets (I := fun s => Tracked ∅ s ∧ Framed s)
    (fun _ _ _ inv allowed taken =>
      ⟨inv.1.step taken, (inv.2.step inv.1 allowed taken).1⟩)
    (fun _ _ _ inv allowed taken => (inv.2.step inv.1 allowed taken).2)
    _ _ ⟨tracked_initial _ _ _ _, framed_initial _ _ _ _⟩ settled

/-- A canvas of two cells, drawn once it has vertices. -/
theorem copies_in_bounds_two_cells : Along Session.step
    (fun s _ t => ∀ b, t.commands = s.commands ++ [b] → InBounds t b)
    (initial 0 false (fun _ => 0) fun _ _ => [])
    [.addRenderer ⟨0, 0⟩, .setDevice ⟨true, true⟩, .primaryCreate .xRGB32 2 1 8 16384 [] ⟨true, true⟩,
      .monitors [] ⟨true, true⟩] := by
  apply copies_in_bounds
  apply Meets.next rfl trivial
  apply Meets.next rfl (.inl rfl)
  apply Meets.next rfl ⟨by decide, .inl rfl⟩
  apply Meets.next rfl (.inl rfl)
  trivial

end Session

end SimpleVM.SPICE.Display
