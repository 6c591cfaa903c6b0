import SimpleVM.Raster.Rectangles
/-!
# The SPICE display

`CSDisplay` keeps Metal textures in step with what the server draws. A canvas is memory of the
process that the server's commands are drawn into; its changed regions are copied into
`canvasTexture`, one region at a time, and what changes meanwhile is gathered in one dirty
rectangle. A scanout is a surface the server draws itself; each of its frames is copied into a
shadow texture before the server is told to go on. The handlers run on the thread of the SPICE
context. The graphics processor executes a committed command in its own time, texel by texel.
-/
namespace SimpleVM.SPICE.Display

open Raster

/-- A texel's bytes. -/
abbrev Pixel := List UInt8

/-- The formats `cs_primary_create` asserts: `SPICE_SURFACE_FMT_32_xRGB` and `..._16_555`. -/
inductive SurfaceFormat
  | xRGB32
  | rgb555
  deriving DecidableEq, Repr

inductive MTLPixelFormat
  | bgra8Unorm
  | rgba8Unorm
  | bgr5A1Unorm
  deriving DecidableEq, Repr

/-- The bytes of one texel. -/
def MTLPixelFormat.bytes : MTLPixelFormat → Nat
  | .bgra8Unorm | .rgba8Unorm => 4
  | .bgr5A1Unorm => 2

/-- A surface shared with the server; `rgba` where its pixel format is `'RGBA'`. -/
structure IOSurface where
  id : Nat
  rgba : Bool
  deriving DecidableEq, Repr

/-- The memory texels live in: a shared surface, or what the device allocated. -/
inductive Storage
  | surface (surface : IOSurface)
  | device (id : Nat)
  deriving DecidableEq, Repr

structure MTLTexture where
  storage : Storage
  pixelFormat : MTLPixelFormat
  width : Nat
  height : Nat
  deriving DecidableEq, Repr

/-- The cells of a texture. -/
def MTLTexture.bounds (t : MTLTexture) : CGRect := ⟨0, 0, t.width, t.height⟩

/-- A buffer around memory of the process, without a copy. -/
structure MTLBuffer where
  contents : Int
  length : Int
  deriving DecidableEq, Repr

structure CSRenderer where
  id : Nat
  device : Nat
  deriving DecidableEq, Repr

/-- `SpiceDisplayMonitorConfig`. -/
structure MonitorConfig where
  surfaceID : Nat
  x : Nat
  y : Nat
  width : Nat
  height : Nat
  deriving DecidableEq, Repr

structure CSDisplay where
  monitorID : Int
  ready : Bool
  isGLEnabled : Bool
  delayedScanout : Option (IOSurface × Nat × Nat)
  canvasFormat : Option SurfaceFormat
  canvasStride : Nat
  /-- An address; 0 is `NULL`. -/
  canvasData : Int
  canvasArea : CGRect
  canvasBuffer : Option MTLBuffer
  canvasBufferOffset : Int
  canvasIsBusy : Bool
  canvasDirtyRect : CGRect
  visibleArea : CGRect
  shadowTexture : Option MTLTexture
  presentTexture : Option MTLTexture
  shadowNeedsFullCopy : Bool
  canvasTexture : Option MTLTexture
  glTexture : Option MTLTexture
  /-- Whether a vertex buffer has been built. -/
  vertices : Bool
  device : Option Nat
  renderers : List CSRenderer
  deriving DecidableEq, Repr

namespace CSDisplay

/-- The display of a channel, before its first event. -/
def initial (monitorID : Int) : CSDisplay where
  monitorID := monitorID
  ready := false
  isGLEnabled := false
  delayedScanout := none
  canvasFormat := none
  canvasStride := 0
  canvasData := 0
  canvasArea := .zero
  canvasBuffer := none
  canvasBufferOffset := 0
  canvasIsBusy := false
  canvasDirtyRect := .zero
  visibleArea := .zero
  shadowTexture := none
  presentTexture := none
  shadowNeedsFullCopy := false
  canvasTexture := none
  glTexture := none
  vertices := false
  device := none
  renderers := []

/-- What is rendered: the shadow of a scanout once it is filled, the scanout itself before. -/
def texture (d : CSDisplay) : Option MTLTexture :=
  if d.isGLEnabled then d.presentTexture <|> d.glTexture else d.canvasTexture

/-- `initWithRenderSource:`: a source without vertices or texture is not taken. -/
def renderSource (d : CSDisplay) : Option MTLTexture :=
  if d.vertices then d.texture else none

/-- `copyBuffer:`: the first renderer copies into the texture, if there is one and it takes the
source. -/
def copyDestination (d : CSDisplay) : Option MTLTexture :=
  if d.renderers = [] then none else d.renderSource

def isVisible (d : CSDisplay) : Bool := d.ready && d.texture.isSome && d.vertices

def pixelSize (d : CSDisplay) : Nat := if d.canvasFormat = some .xRGB32 then 4 else 2

def canvasPixelFormat (d : CSDisplay) : MTLPixelFormat :=
  if d.canvasFormat = some .xRGB32 then .bgra8Unorm else .bgr5A1Unorm

/-- A shadow has the format of the scanout, since a blit converts none. -/
def shadowFormat (d : CSDisplay) : MTLPixelFormat :=
  match d.glTexture with
  | some texture => texture.pixelFormat
  | none => .bgra8Unorm

/-- Whether the shadow is still good for a scanout of a size. -/
def keepsShadow (d : CSDisplay) (width height : Nat) : Bool :=
  match d.shadowTexture with
  | some shadow =>
    shadow.width == width && shadow.height == height && shadow.pixelFormat == d.shadowFormat
  | none => false

def rebuildDisplayVertices (d : CSDisplay) : CSDisplay :=
  if d.visibleArea.isEmpty || d.device.isNone then d else { d with vertices := true }

end CSDisplay

/-- Where a blit reads: a buffer from an address on, or a texture from a cell on. -/
inductive BlitSource
  | buffer (address : Int) (bytesPerRow : Nat)
  | texture (storage : Storage) (origin : Cell)
  deriving DecidableEq, Repr

/-- A committed command buffer with one blit; `uncopied` are the texels still to be copied, as
offsets in the blit's region. -/
structure MTLCommandBuffer where
  source : BlitSource
  destination : MTLTexture
  origin : Cell
  width : Nat
  height : Nat
  uncopied : List (Nat × Nat)
  deriving DecidableEq, Repr

/-- The offsets in a region. -/
def offsets (width height : Nat) : List (Nat × Nat) :=
  (List.range height).flatMap fun j => (List.range width).map fun i => (i, j)

namespace MTLCommandBuffer

def blit (source : BlitSource) (destination : MTLTexture) (origin : Cell) (width height : Nat) :
    MTLCommandBuffer :=
  ⟨source, destination, origin, width, height, offsets width height⟩

/-- The texel of the destination that an offset names. -/
def target (b : MTLCommandBuffer) (offset : Nat × Nat) : Cell :=
  (b.origin.1 + offset.1, b.origin.2 + offset.2)

/-- Whether the command is a copy of a scanout. -/
def isScanoutCopy (b : MTLCommandBuffer) : Bool :=
  match b.source with
  | .buffer _ _ => false
  | .texture _ _ => true

/-- The texels of the destination still to be written. -/
def pending (b : MTLCommandBuffer) : Set Cell := {c | ∃ offset ∈ b.uncopied, b.target offset = c}

/-- The texels of the destination the command writes. -/
def region (b : MTLCommandBuffer) : CGRect := ⟨b.origin.1, b.origin.2, b.width, b.height⟩

end MTLCommandBuffer

/-- A display, the memory and textures around it, and the work under way. The last fields record
what happened and are read by no handler. -/
structure Session where
  display : CSDisplay
  /-- Whether the channel has `SPICE_DISPLAY_CAP_MONITORS_CONFIG`. -/
  monitorsConfig : Bool
  memory : Int → UInt8
  texels : Storage → Cell → Pixel
  /-- Textures the device has allocated. -/
  allocated : Nat
  commands : List MTLCommandBuffer
  /-- Calls of `setDevice:` whose block has not run. -/
  deviceTasks : List Nat
  /-- Copies of the canvas whose completion has not run. -/
  drawsPending : Nat
  /-- Completed copies of a scanout whose handler has not run, and whether they succeeded. -/
  handlers : List (MTLTexture × Bool)
  /-- Frames without a copy whose completion has not run. -/
  invalidatesPending : Nat
  /-- Draws of scanouts received, and those the server was told to be done. -/
  drawsReceived : Nat
  drawsDone : Nat
  /-- Cells of the canvas changed since an invalidation last covered them. -/
  unreported : Set Cell
  /-- Cells of the canvas that were to be drawn and were not copied. -/
  lost : Set Cell
  /-- The scanout when it was last drawn. -/
  frame : Cell → Pixel
  /-- Cells of the scanout changed since. -/
  changed : Set Cell
  /-- Cells of the shadow that a copy left out, or left undefined. -/
  missing : Set Cell

/-- Where the canvas keeps a cell. -/
def CSDisplay.address (d : CSDisplay) (c : Cell) : Int :=
  d.canvasData + c.2 * d.canvasStride + c.1 * d.pixelSize

/-- The bytes from an address on. -/
def bytesAt (memory : Int → UInt8) (address : Int) (n : Nat) : Pixel :=
  (List.range n).map fun (k : Nat) => memory (address + k)

/-- `vm_kernel_page_size`. -/
def pageSize : Int := 16384

/-- `trunc_page_kernel`. -/
def truncPage (address : Int) : Int := address - address % pageSize

/-- `round_page_kernel`. -/
def roundPage (address : Int) : Int := truncPage (address + (pageSize - 1))

/-- What a device allocates of the two things it is asked for: the texture of a canvas or a scanout,
and the buffer or the shadow that goes with it. -/
structure Grants where
  texture : Bool
  companion : Bool

namespace Session

/-- The canvas, as its memory has it. -/
def canvas (s : Session) (c : Cell) : Pixel :=
  bytesAt s.memory (s.display.address c) s.display.pixelSize

/-- What a command reads for an offset. -/
def read (s : Session) (b : MTLCommandBuffer) (offset : Nat × Nat) : Pixel :=
  match b.source with
  | .buffer address bytesPerRow =>
    bytesAt s.memory
      (address + offset.2 * bytesPerRow + offset.1 * b.destination.pixelFormat.bytes)
      b.destination.pixelFormat.bytes
  | .texture storage origin => s.texels storage (origin.1 + offset.1, origin.2 + offset.2)

/-- A region is drawn with nothing to copy it: the completion runs at once, and on the context's own
thread `asyncWith:` runs its block in place. -/
def loseRegion (s : Session) (rect : CGRect) : Session :=
  { s with
    display := { s.display with canvasDirtyRect := .zero, canvasIsBusy := false }
    lost := s.lost ∪ rect.cells }

/-- `drawRegion:`. -/
def drawRegion (s : Session) (rect : CGRect) : Session :=
  let d := s.display
  match d.canvasBuffer with
  | none => s
  | some buffer =>
    if d.canvasData = 0 then
      s
    else
      match d.copyDestination with
      | some texture =>
        let offset := rect.y * d.canvasStride + rect.x * d.pixelSize
        let copy := MTLCommandBuffer.blit
          (.buffer (buffer.contents + (d.canvasBufferOffset + offset)) d.canvasStride) texture
          (rect.x - d.visibleArea.x, rect.y - d.visibleArea.y) rect.width rect.height
        { s with
          display := { d with canvasIsBusy := true }
          commands := s.commands ++ [copy]
          drawsPending := s.drawsPending + 1
          lost := s.lost \ rect.cells }
      | none =>
        -- The completion draws what was gathered, which ends the same way and finds nothing more.
        let done := s.loseRegion rect
        if d.canvasDirtyRect.isEmpty then done else done.loseRegion d.canvasDirtyRect

/-- The completion of `drawRegion:`. -/
def drawCompleted (s : Session) : Session :=
  let dirty := s.display.canvasDirtyRect
  let done := { s with
    display := { s.display with canvasDirtyRect := .zero, canvasIsBusy := false } }
  if dirty.isEmpty then done else done.drawRegion dirty

/-- `rebuildCanvasTexture`. -/
def rebuildCanvasTexture (s : Session) (grants : Grants) : Session :=
  let d := s.display
  if d.visibleArea.isEmpty || d.device.isNone then
    s
  else
    let texture : MTLTexture :=
      ⟨.device s.allocated, d.canvasPixelFormat, d.visibleArea.width, d.visibleArea.height⟩
    let fresh := { s with
      display := { d with canvasTexture := if grants.texture then some texture else none }
      allocated := s.allocated + 1
      lost := Set.univ }
    let aligned := truncPage d.canvasData
    let size := (d.canvasStride * d.canvasArea.height : Nat)
    if aligned = 0 ∨ size = 0 then
      fresh
    else
      let offset := d.canvasData - aligned
      let buffer : MTLBuffer := ⟨aligned, roundPage (size + offset)⟩
      { fresh with
        display := { fresh.display with
          canvasBufferOffset := offset
          canvasBuffer := if grants.companion then some buffer else none } }.drawRegion d.visibleArea

/-- `updateVisibleAreaWithRect:`. -/
def updateVisibleArea (s : Session) (rect : CGRect) (grants : Grants) : Session :=
  let placed := match s.display.canvasArea.intersection rect with
    | none => { s with display := { s.display with ready := false, visibleArea := .zero } }
    | some visible => { s with display := { s.display with visibleArea := visible } }
  let rebuilt := if placed.display.isGLEnabled then placed else placed.rebuildCanvasTexture grants
  { rebuilt with display := { rebuilt.display.rebuildDisplayVertices with ready := true } }

/-- `cs_update_monitor_area`; `none` where its assertion fails. -/
def updateMonitorArea (s : Session) (monitors : List MonitorConfig) (grants : Grants) :
    Option Session :=
  if s.display.monitorID < 0 then
    some (s.updateVisibleArea s.display.canvasArea grants)
  else
    match monitors with
    | [] =>
      let waiting := { s with display := { s.display with ready := false } }
      if s.monitorsConfig then
        some waiting
      else
        some (waiting.updateVisibleArea s.display.canvasArea grants)
    | [c] =>
      if c.surfaceID ≠ 0 then
        some (s.updateVisibleArea s.display.canvasArea grants)
      else if s.display.isGLEnabled then
        some (s.updateVisibleArea ⟨c.x, c.y, c.width, c.height⟩ grants)
      else
        some (s.updateVisibleArea ⟨0, 0, c.width, c.height⟩ grants)
    | _ => none

/-- `cs_primary_create`. The server creates a surface only where there is none. -/
def primaryCreate (s : Session) (format : SurfaceFormat) (width height stride : Nat)
    (imgdata : Int) (monitors : List MonitorConfig) (grants : Grants) : Option Session :=
  if s.display.canvasData = 0 then
    { s with
      display := { s.display with
        canvasArea := ⟨0, 0, width, height⟩
        canvasFormat := some format
        canvasStride := stride
        canvasData := imgdata } }.updateMonitorArea monitors grants
  else
    none

/-- `cs_primary_destroy`. It waits for a frame where a copy is under way, but a display that is
not ready has its completions called at once, so the wait is over before it begins. -/
def primaryDestroy (s : Session) : Session :=
  { s with
    display := { s.display with
      ready := false
      canvasArea := .zero
      canvasFormat := none
      canvasStride := 0
      canvasData := 0
      canvasBuffer := none
      shadowTexture := none
      presentTexture := none } }

/-- `cs_invalidate`; `none` where its assertion fails. -/
def invalidate (s : Session) (rect : CGRect) : Option Session :=
  if s.display.isGLEnabled then
    none
  else
    let reported := { s with unreported := s.unreported \ rect.cells }
    match rect.intersection s.display.visibleArea with
    | none => some reported
    | some shown =>
      if shown.isEmpty then
        some reported
      else if s.display.canvasIsBusy then
        some { reported with
          display := { s.display with
            canvasDirtyRect := s.display.canvasDirtyRect.union shown } }
      else
        some (reported.drawRegion shown)

/-- `rebuildShadowTextureWithWidth:height:`. -/
def rebuildShadowTexture (s : Session) (width height : Nat) (allocates : Bool) : Session :=
  if s.display.keepsShadow width height then
    s
  else
    let shadow : MTLTexture := ⟨.device s.allocated, s.display.shadowFormat, width, height⟩
    { s with
      display := { s.display with
        shadowTexture := if allocates then some shadow else none
        presentTexture := none }
      allocated := s.allocated + 1
      missing := Set.univ }

/-- `rebuildScanoutTextureWithSurface:width:height:`. -/
def rebuildScanoutTexture (s : Session) (surface : IOSurface) (width height : Nat)
    (grants : Grants) : Session :=
  let format := if surface.rgba then MTLPixelFormat.rgba8Unorm else .bgra8Unorm
  let wrapped := { s with
    display := { s.display with
      canvasArea := ⟨0, 0, width, height⟩
      glTexture :=
        if grants.texture then some ⟨.surface surface, format, width, height⟩ else none } }
  let shadowed := wrapped.rebuildShadowTexture width height grants.companion
  { shadowed with display := { shadowed.display with shadowNeedsFullCopy := true } }

/-- `cs_gl_scanout`; `found` is the surface its descriptor leads to, if it does. -/
def glScanout (s : Session) (found : Option IOSurface) (width height : Nat) (grants : Grants) :
    Session :=
  let enabled := { s with display := { s.display with isGLEnabled := true } }
  match found with
  | none => enabled
  | some surface =>
    if s.display.device.isSome then
      let rebuilt := enabled.rebuildScanoutTexture surface width height grants
      { rebuilt with display := rebuilt.display.rebuildDisplayVertices }
    else
      { enabled with
        display := { enabled.display with delayedScanout := some (surface, width, height) } }

/-- `spice_display_channel_gl_draw_done`. -/
def glDrawDone (s : Session) : Session := { s with drawsDone := s.drawsDone + 1 }

/-- `cs_gl_draw` and `copyScanoutRect:withCompletion:`; `none` where the assertion fails. -/
def glDraw (s : Session) (rect : CGRect) : Option Session :=
  let d := s.display
  if d.isGLEnabled = false then
    none
  else
    let received := { s with
      drawsReceived := s.drawsReceived + 1
      frame := match d.glTexture with
        | some source => s.texels source.storage
        | none => s.frame
      changed := ∅ }
    match d.ready, d.glTexture, d.shadowTexture, d.renderers with
    | true, some source, some destination, _ :: _ =>
      let bounds : CGRect :=
        ⟨0, 0, min source.width destination.width, min source.height destination.height⟩
      let damaged := if d.shadowNeedsFullCopy then bounds
        else match rect.intersection bounds with
          | none => .zero
          | some damaged => damaged
      let copy := MTLCommandBuffer.blit (.texture source.storage (damaged.x, damaged.y)) destination
        (damaged.x, damaged.y) damaged.width damaged.height
      some { received with
        display := { d with shadowNeedsFullCopy := false }
        commands := s.commands ++ [copy]
        missing := if d.shadowNeedsFullCopy then bounds.cellsᶜ
          else (s.missing ∪ s.changed) \ damaged.cells }
    | _, _, _, _ =>
      -- The frame is presented from the scanout itself, and the damage is copied nowhere.
      let skipped := { received with
        missing := if d.shadowNeedsFullCopy then Set.univ else s.missing ∪ s.changed }
      if d.renderers = [] ∨ d.isVisible = false then
        some skipped.glDrawDone
      else
        some { skipped with invalidatesPending := s.invalidatesPending + 1 }

/-- The completed handler of a scanout's copy, on the context's thread. -/
def scanoutCopied (s : Session) : Option Session :=
  match s.handlers with
  | [] => none
  | (destination, succeeded) :: handlers =>
    let published := if succeeded && s.display.shadowTexture = some destination then
        { s.display with presentTexture := some destination }
      else
        s.display
    some { s with display := published, handlers := handlers }.glDrawDone

/-- `addRenderer:`; `none` where its assertion fails. -/
def addRenderer (s : Session) (renderer : CSRenderer) : Option Session :=
  let renderers := if renderer ∈ s.display.renderers then s.display.renderers
    else s.display.renderers ++ [renderer]
  let added := { s with display := { s.display with renderers := renderers } }
  match s.display.device with
  | none => some { added with deviceTasks := s.deviceTasks ++ [renderer.device] }
  | some device => if device = renderer.device then some added else none

def removeRenderer (s : Session) (renderer : CSRenderer) : Session :=
  { s with display := { s.display with
      renderers := s.display.renderers.filter (· ≠ renderer) } }

/-- The block of `setDevice:`. -/
def setDevice (s : Session) (grants : Grants) : Option Session :=
  match s.deviceTasks with
  | [] => none
  | device :: tasks =>
    let taken := { s with
      deviceTasks := tasks
      display := { s.display with
        device := some device
        shadowTexture := none
        presentTexture := none } }
    let rebuilt := if taken.display.isGLEnabled then
        match taken.display.delayedScanout with
        | some (surface, width, height) =>
          let scanout := taken.rebuildScanoutTexture surface width height grants
          { scanout with display := { scanout.display with delayedScanout := none } }
        | none =>
          match taken.display.glTexture with
          | some ⟨.surface surface, _, width, height⟩ =>
            taken.rebuildScanoutTexture surface width height grants
          | _ => taken
      else
        taken.rebuildCanvasTexture grants
    some { rebuilt with display := rebuilt.display.rebuildDisplayVertices }

/-- The graphics processor copies one texel of a command. -/
def copyTexel (s : Session) (index : Nat) (offset : Nat × Nat) : Option Session :=
  match s.commands[index]? with
  | none => none
  | some b =>
    if offset ∈ b.uncopied then
      some { s with
        texels := fun storage cell =>
          if storage = b.destination.storage ∧ cell = b.target offset then s.read b offset
          else s.texels storage cell
        commands := s.commands.set index { b with uncopied := b.uncopied.filter (· ≠ offset) } }
    else
      none

/-- A command has been executed. -/
def commandCompleted (s : Session) (index : Nat) : Option Session :=
  match s.commands[index]? with
  | none => none
  | some b =>
    if b.uncopied = [] then
      some { s with
        commands := s.commands.eraseIdx index
        handlers := if b.isScanoutCopy then s.handlers ++ [(b.destination, true)] else s.handlers }
    else
      none

/-- A command ends with an error and leaves `garbage` in its region. -/
def commandFailed (s : Session) (index : Nat) (garbage : Cell → Pixel) : Option Session :=
  match s.commands[index]? with
  | none => none
  | some b =>
    let origin := s.display.visibleArea
    some { s with
      texels := fun storage cell =>
        if storage = b.destination.storage ∧ cell ∈ b.region.cells then garbage cell
        else s.texels storage cell
      commands := s.commands.eraseIdx index
      handlers := if b.isScanoutCopy then s.handlers ++ [(b.destination, false)] else s.handlers
      lost := if b.isScanoutCopy then s.lost
        else s.lost ∪ {c | (c.1 - origin.x, c.2 - origin.y) ∈ b.region.cells}
      missing := if b.isScanoutCopy then s.missing ∪ b.region.cells else s.missing }

/-- `fallback` of `copyScanoutRect:withCompletion:`: the frame is on the screen. -/
def invalidateCompleted (s : Session) : Option Session :=
  if s.invalidatesPending = 0 then
    none
  else
    some { s with invalidatesPending := s.invalidatesPending - 1 }.glDrawDone

/-- The memory of the process changes; the canvas is part of it. -/
def writeMemory (s : Session) (memory : Int → UInt8) : Session :=
  let written := { s with memory := memory }
  { written with unreported := s.unreported ∪ {c | written.canvas c ≠ s.canvas c} }

/-- The server writes a surface. What changes under a copy still to be made goes into the copy. -/
def writeSurface (s : Session) (surface : IOSurface) (contents : Cell → Pixel) : Session :=
  let altered := {c | contents c ≠ s.texels (.surface surface) c}
  let drawn := match s.display.glTexture with
    | some source => source.storage = .surface surface
    | none => False
  { s with
    texels := fun storage => if storage = .surface surface then contents else s.texels storage
    changed := s.changed ∪ {c | drawn ∧ c ∈ altered}
    missing := s.missing ∪ {c | c ∈ altered ∧ ∃ b ∈ s.commands,
      (∃ origin, b.source = .texture (.surface surface) origin) ∧ c ∈ b.pending} }

end Session

/-- What can happen next. -/
inductive DisplayEvent
  | primaryCreate (format : SurfaceFormat) (width height stride : Nat) (imgdata : Int)
      (monitors : List MonitorConfig) (grants : Grants)
  | primaryDestroy
  | invalidate (x y : Int) (width height : Nat)
  | monitors (monitors : List MonitorConfig) (grants : Grants)
  | glScanout (found : Option IOSurface) (width height : Nat) (grants : Grants)
  | glDraw (x y : Int) (width height : Nat)
  | addRenderer (renderer : CSRenderer)
  | removeRenderer (renderer : CSRenderer)
  | setDevice (grants : Grants)
  | drawCompleted
  | scanoutCopied
  | invalidateCompleted
  | copyTexel (index : Nat) (offset : Nat × Nat)
  | commandCompleted (index : Nat)
  | commandFailed (index : Nat) (garbage : Cell → Pixel)
  | writeMemory (memory : Int → UInt8)
  | writeSurface (surface : IOSurface) (contents : Cell → Pixel)

namespace Session

/-- The state after an event, `none` where it cannot happen or an assertion fails. -/
def step (s : Session) : DisplayEvent → Option Session
  | .primaryCreate format width height stride imgdata monitors grants =>
    s.primaryCreate format width height stride imgdata monitors grants
  | .primaryDestroy => some s.primaryDestroy
  | .invalidate x y width height => s.invalidate ⟨x, y, width, height⟩
  | .monitors monitors grants => s.updateMonitorArea monitors grants
  | .glScanout found width height grants => some (s.glScanout found width height grants)
  | .glDraw x y width height => s.glDraw ⟨x, y, width, height⟩
  | .addRenderer renderer => s.addRenderer renderer
  | .removeRenderer renderer => some (s.removeRenderer renderer)
  | .setDevice grants => s.setDevice grants
  | .drawCompleted =>
    if s.drawsPending = 0 then none
    else some { s with drawsPending := s.drawsPending - 1 }.drawCompleted
  | .scanoutCopied => s.scanoutCopied
  | .invalidateCompleted => s.invalidateCompleted
  | .copyTexel index offset => s.copyTexel index offset
  | .commandCompleted index => s.commandCompleted index
  | .commandFailed index garbage => s.commandFailed index garbage
  | .writeMemory memory => some (s.writeMemory memory)
  | .writeSurface surface contents => some (s.writeSurface surface contents)

/-- A display of a channel that has not sent anything yet. -/
def initial (monitorID : Int) (monitorsConfig : Bool) (memory : Int → UInt8)
    (texels : Storage → Cell → Pixel) : Session where
  display := .initial monitorID
  monitorsConfig := monitorsConfig
  memory := memory
  texels := texels
  allocated := 0
  commands := []
  deviceTasks := []
  drawsPending := 0
  handlers := []
  invalidatesPending := 0
  drawsReceived := 0
  drawsDone := 0
  unreported := ∅
  lost := ∅
  frame := fun _ => []
  changed := ∅
  missing := ∅

end Session

end SimpleVM.SPICE.Display
