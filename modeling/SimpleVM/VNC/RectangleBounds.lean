import SimpleVM.VNC.Refinement

/-!
# Rectangles and the edges of the framebuffer

`copy` checks each row of a rectangle against the end of the framebuffer, not against the edges
of the screen. Which pixels a rectangle may change is two-dimensional; this module says exactly
when the two agree, for every rectangle that fits its 16-bit fields.
-/
namespace SimpleVM.VNC

open Effects Failing Raster

/-- The four bytes of the pixel in a column and a row. -/
def SimpleVNCClient.pixel (c : SimpleVNCClient) (column row : Nat) : List UInt8 :=
  slice c.framebuffer ((row * c.width + column) * 4) 4

/-- The framebuffer has four bytes for every pixel of the screen. -/
def SimpleVNCClient.Full (c : SimpleVNCClient) : Prop :=
  c.framebuffer.length = c.width * c.height * 4

/-- From `c` to `d` only pixels inside the rectangle have changed. -/
structure InBounds (c d : SimpleVNCClient) (x y rectangleWidth rectangleHeight : Nat) : Prop where
  width : d.width = c.width
  height : d.height = c.height
  full : d.Full
  outside : ∀ column < c.width, ∀ row < c.height,
    ¬ ((x ≤ column ∧ column < x + rectangleWidth) ∧ y ≤ row ∧ row < y + rectangleHeight) →
    d.pixel column row = c.pixel column row

/-- A rectangle with this header, whatever follows it and whatever the screen shows. -/
def StaysInBounds (width height : Nat) (x y rectangleWidth rectangleHeight : UInt16)
    (encoding : Int32) : Prop :=
  ∀ (s : Session) (payload : List UInt8), s.client.width = width → s.client.height = height →
    s.client.Full →
    s.incoming = Rectangle.header x y rectangleWidth rectangleHeight encoding ++ payload →
    InBounds s.client (readRectangle s).2.client x.toNat y.toNat rectangleWidth.toNat
      rectangleHeight.toNat

/-- No row of the rectangle runs past the right edge into another row: the rectangle is empty,
ends before the right edge, has no row that fits the framebuffer, or covers all that is left of
it. -/
def RowsKeepApart (width height x y rectangleWidth rectangleHeight : Nat) : Prop :=
  rectangleWidth = 0 ∨ rectangleHeight = 0 ∨ x + rectangleWidth ≤ width ∨
    width * height < y * width + x + rectangleWidth ∨ (x = 0 ∧ height ≤ y + rectangleHeight)

instance (width height x y rectangleWidth rectangleHeight : Nat) :
    Decidable (RowsKeepApart width height x y rectangleWidth rectangleHeight) := by
  unfold RowsKeepApart
  infer_instance

section Rows

variable {width height x y rectangleWidth rectangleHeight : Nat}

/-- A row of the rectangle passes the check of `copy` in a framebuffer of so many pixels, and
runs over the pixel at offset `i`. -/
def RunsOver (width pixelCount x y rectangleWidth row i : Nat) : Prop :=
  ((y + row) * width + x ≤ i ∧ i < (y + row) * width + x + rectangleWidth) ∧
    (y + row) * width + x + rectangleWidth ≤ pixelCount

/-- Rows that keep apart run over pixels of the rectangle only. -/
theorem inside_of_runsOver
    (apart : RowsKeepApart width height x y rectangleWidth rectangleHeight) {row column line : Nat}
    (counted : row < rectangleHeight) (columns : column < width) (lines : line < height)
    (over' : RunsOver width (width * height) x y rectangleWidth row (line * width + column)) :
    (x ≤ column ∧ column < x + rectangleWidth) ∧ y ≤ line ∧ line < y + rectangleHeight := by
  obtain ⟨run, fits⟩ := over'
  -- Within the edges a run of cells stays in its row.
  have within (columns' : x + rectangleWidth ≤ width) :
      (x ≤ column ∧ column < x + rectangleWidth) ∧ y ≤ line ∧ line < y + rectangleHeight := by
    obtain ⟨line', left, right⟩ := (run_iff columns' _).mp run
    obtain ⟨mod, div⟩ := cell_index columns line
    rw [div] at line'
    rw [mod] at left right
    omega
  rcases apart with none | none | columns' | beyond | ⟨rfl, rest⟩
  · omega
  · omega
  · exact within columns'
  · have lower : y * width ≤ (y + row) * width := Nat.mul_le_mul_right width (Nat.le_add_right y row)
    omega
  · by_cases columns' : 0 + rectangleWidth ≤ width
    · exact within columns'
    · -- The rectangle is wider than the screen, so only the row matters.
      have later : y ≤ line := by
        apply Nat.le_of_not_lt
        intro above
        have lower : (line + 1) * width ≤ (y + row) * width :=
          Nat.mul_le_mul_right width (Nat.le_trans above (Nat.le_add_right y row))
        rw [Nat.succ_mul] at lower
        omega
      omega

/-- The last row that fits before the framebuffer ends comes within a row of its end. -/
theorem exists_last_fitting_row {pixelCount rows : Nat} (nonempty : 0 < rows)
    (first : y * width + x + rectangleWidth ≤ pixelCount) :
    ∃ row < rows, (y + row) * width + x + rectangleWidth ≤ pixelCount ∧
      (row + 1 = rows ∨ pixelCount < (y + row + 1) * width + x + rectangleWidth) := by
  induction rows with
  | zero => omega
  | succ rows ih =>
    rcases Nat.eq_zero_or_pos rows with rfl | more
    · exact ⟨0, nonempty, first, .inl rfl⟩
    · obtain ⟨row, below, fits, last⟩ := ih more
      by_cases next : (y + row + 1) * width + x + rectangleWidth ≤ pixelCount
      · have ended : row + 1 = rows := by omega
        subst ended
        exact ⟨row + 1, Nat.lt_succ_self _, next, .inl rfl⟩
      · exact ⟨row, Nat.lt_succ_of_lt below, fits, .inr (Nat.not_le.mp next)⟩

/-- Rows that do not keep apart run over a pixel outside the rectangle. -/
theorem exists_runsOver_outside
    (crossing : ¬ RowsKeepApart width height x y rectangleWidth rectangleHeight) :
    ∃ row < rectangleHeight, ∃ column < width, ∃ line < height,
      RunsOver width (width * height) x y rectangleWidth row (line * width + column) ∧
      ¬ ((x ≤ column ∧ column < x + rectangleWidth) ∧ y ≤ line ∧ line < y + rectangleHeight) := by
  unfold RowsKeepApart at crossing
  have wide : width < x + rectangleWidth := by omega
  have first : y * width + x + rectangleWidth ≤ width * height := by omega
  have rows : 0 < rectangleHeight := by omega
  have filled : 0 < rectangleWidth := by omega
  -- Any offset below the size of the screen is a column and a row of it.
  have cell (i : Nat) (inside : i < width * height) :
      i % width < width ∧ i / width < height ∧ i / width * width + i % width = i := by
    refine ⟨mod_lt_of_lt_mul inside, div_lt_of_lt_mul inside, ?_⟩
    rw [Nat.mul_comm]
    exact Nat.div_add_mod i width
  by_cases past : width ≤ x
  · -- All columns of the rectangle lie past the edge.
    obtain ⟨columns, lines, split⟩ := cell (y * width + x) (by omega)
    refine ⟨0, rows, _, columns, _, lines, ?_, by omega⟩
    unfold RunsOver
    rw [split, Nat.add_zero]
    exact ⟨by omega, first⟩
  · by_cases left : x = 0
    · subst left
      -- The rectangle starts at the left edge: the pixel below it on the left.
      have below : y + rectangleHeight < height := by omega
      obtain ⟨row, counted, fits, last⟩ := exists_last_fitting_row (x := 0) rows first
      refine ⟨row, counted, 0, by omega, y + rectangleHeight, below, ⟨⟨?_, ?_⟩, fits⟩, by omega⟩
      · have lower : (y + row) * width ≤ (y + rectangleHeight) * width :=
          Nat.mul_le_mul_right width (by omega)
        omega
      · rcases last with final | full
        · have next : (y + rectangleHeight) * width = (y + row) * width + width := by
            rw [← final, ← Nat.add_assoc, Nat.succ_mul]
          omega
        · have upper : (y + rectangleHeight + 1) * width ≤ height * width :=
            Nat.mul_le_mul_right width below
          rw [Nat.mul_comm height width, Nat.succ_mul] at upper
          rw [Nat.succ_mul] at full
          omega
    · -- The first row runs on into the start of the next one.
      have next : (y + 1) * width = y * width + width := Nat.succ_mul y width
      have lines : y + 1 < height := by
        apply Nat.lt_of_mul_lt_mul_left (a := width)
        rw [Nat.mul_comm width (y + 1)]
        omega
      refine ⟨0, rows, 0, by omega, y + 1, lines, ?_, by omega⟩
      unfold RunsOver
      rw [Nat.add_zero]
      exact ⟨by omega, first⟩

end Rows

section Copying

variable {width pixelCount x y rectangleWidth : Nat} {pixels framebuffer : List UInt8}

theorem getElem?_slice {cells : List UInt8} (start n k : Nat) :
    (slice cells start n)[k]? = if k < n then cells[start + k]? else none := by
  unfold slice
  rw [List.getElem?_take, List.getElem?_drop]

theorem length_slice {cells : List UInt8} {start n : Nat} (fits : start + n ≤ cells.length) :
    (slice cells start n).length = n := by
  unfold slice
  rw [List.length_take, List.length_drop]
  omega

/-- Writing `n` bytes over `n` bytes. -/
theorem replace_run {cells new : List UInt8} {start n : Nat} (sized : new.length = n)
    (fits : start + n ≤ cells.length) :
    (replace cells start (start + n) new).length = cells.length ∧
      ∀ i, (replace cells start (start + n) new)[i]? =
        if start ≤ i ∧ i < start + n then new[i - start]? else cells[i]? := by
  subst sized
  exact ⟨length_replace fits, getElem?_replace fits⟩

theorem length_copyRow (row : Nat) :
    (copyRow width pixels x y rectangleWidth framebuffer row).length = framebuffer.length := by
  unfold copyRow
  dsimp only
  split
  · next fits =>
    exact (replace_run (length_slice fits.2) fits.1).1
  · rfl

/-- A byte of a pixel that the row does not run over stays; one that it runs over comes out of
the pixels sent. -/
theorem getElem?_copyRow (size : framebuffer.length = pixelCount * 4) {row : Nat} {i k : Nat}
    (byte : k < 4) :
    (RunsOver width pixelCount x y rectangleWidth row i →
        (row + 1) * (rectangleWidth * 4) ≤ pixels.length →
        ∃ sent < pixels.length,
          (copyRow width pixels x y rectangleWidth framebuffer row)[i * 4 + k]? = pixels[sent]?) ∧
      (¬ RunsOver width pixelCount x y rectangleWidth row i →
        (copyRow width pixels x y rectangleWidth framebuffer row)[i * 4 + k]? =
          framebuffer[i * 4 + k]?) := by
  unfold copyRow
  dsimp only
  rw [size, Nat.succ_mul]
  by_cases fits : ((y + row) * width + x) * 4 + rectangleWidth * 4 ≤ pixelCount * 4 ∧
      row * (rectangleWidth * 4) + rectangleWidth * 4 ≤ pixels.length
  · rw [if_pos fits]
    rw [(replace_run (length_slice fits.2) (size ▸ fits.1)).2]
    constructor
    · rintro ⟨run, -⟩ enough
      rw [if_pos (by omega), getElem?_slice, if_pos (by omega)]
      exact ⟨_, by omega, rfl⟩
    · intro apart
      rw [if_neg]
      intro inside
      exact apart ⟨by omega, by omega⟩
  · rw [if_neg fits]
    refine ⟨?_, fun _ => rfl⟩
    rintro ⟨run, ends⟩ enough
    exact absurd ⟨by omega, enough⟩ fits

theorem length_copyRows (rows : List Nat) :
    (rows.foldl (copyRow width pixels x y rectangleWidth) framebuffer).length =
      framebuffer.length := by
  induction rows generalizing framebuffer with
  | nil => rfl
  | cons row rows ih => rw [List.foldl_cons, ih, length_copyRow]

/-- **Frame lemma.** A pixel that no row runs over stays as it was. -/
theorem copyRows_frame (size : framebuffer.length = pixelCount * 4) (rows : List Nat) {i k : Nat}
    (byte : k < 4)
    (apart : ∀ row ∈ rows, ¬ RunsOver width pixelCount x y rectangleWidth row i) :
    (rows.foldl (copyRow width pixels x y rectangleWidth) framebuffer)[i * 4 + k]? =
      framebuffer[i * 4 + k]? := by
  induction rows generalizing framebuffer with
  | nil => rfl
  | cons row rows ih =>
    rw [List.foldl_cons, ih ((length_copyRow row).trans size)
      fun later member => apart later (List.mem_cons_of_mem row member)]
    exact (getElem?_copyRow size byte).2 (apart row List.mem_cons_self)

/-- A pixel that some row runs over ends up with bytes of the pixels sent. -/
theorem copyRows_painted (size : framebuffer.length = pixelCount * 4) (rows : List Nat)
    {i k : Nat} {colour : UInt8} (byte : k < 4)
    (one : ∀ j < pixels.length, pixels[j]? = some colour)
    (enough : ∀ row ∈ rows, (row + 1) * (rectangleWidth * 4) ≤ pixels.length)
    (painted : framebuffer[i * 4 + k]? = some colour ∨
      ∃ row ∈ rows, RunsOver width pixelCount x y rectangleWidth row i) :
    (rows.foldl (copyRow width pixels x y rectangleWidth) framebuffer)[i * 4 + k]? =
      some colour := by
  induction rows generalizing framebuffer with
  | nil =>
    rcases painted with already | ⟨row, member, _⟩
    · exact already
    · cases member
  | cons row rows ih =>
    rw [List.foldl_cons]
    apply ih ((length_copyRow row).trans size)
      fun later member => enough later (List.mem_cons_of_mem row member)
    by_cases run : RunsOver width pixelCount x y rectangleWidth row i
    · obtain ⟨sent, inside, same⟩ :=
        (getElem?_copyRow size byte).1 run (enough row List.mem_cons_self)
      exact .inl (same.trans (one sent inside))
    · rcases painted with already | ⟨later, member, run'⟩
      · exact .inl (((getElem?_copyRow size byte).2 run).trans already)
      · rcases List.mem_cons.mp member with rfl | member
        · exact absurd run' run
        · exact .inr ⟨later, member, run'⟩

end Copying

namespace InBounds

variable {c : SimpleVNCClient} {x y rectangleWidth rectangleHeight : Nat}

theorem refl (full : c.Full) : InBounds c c x y rectangleWidth rectangleHeight where
  width := rfl
  height := rfl
  full := full
  outside _ _ _ _ _ := rfl

/-- Whatever pixels are copied, rows that keep apart change the rectangle only. -/
theorem copy (full : c.Full) (pixels : List UInt8)
    (apart : RowsKeepApart c.width c.height x y rectangleWidth rectangleHeight) :
    InBounds c (c.copy pixels x y rectangleWidth rectangleHeight) x y rectangleWidth
      rectangleHeight where
  width := rfl
  height := rfl
  full := (length_copyRows _).trans full
  outside column columns line lines outside := by
    refine List.ext_getElem? fun k => ?_
    unfold SimpleVNCClient.pixel
    rw [getElem?_slice, getElem?_slice]
    by_cases byte : k < 4
    · rw [if_pos byte, if_pos byte]
      apply copyRows_frame full _ byte
      intro row member run
      exact outside (inside_of_runsOver apart (List.mem_range.mp member) columns lines run)
    · rw [if_neg byte, if_neg byte]

/-- The source checks both dimensions before it copies within the framebuffer. -/
theorem copyRectangle (full : c.Full) (sourceX sourceY : Nat) :
    InBounds c (c.copyRectangle sourceX sourceY x y rectangleWidth rectangleHeight) x y
      rectangleWidth rectangleHeight := by
  unfold SimpleVNCClient.copyRectangle
  split
  · next checked => exact .copy full _ (.inr (.inr (.inl checked.2.2.2.1)))
  · exact .refl full

end InBounds

section Reading

variable {x y rectangleWidth rectangleHeight : UInt16} {encoding : Int32}

/-- The fields of the header reach `readEncoding`. -/
theorem readRectangle_header {s : Session} {payload : List UInt8}
    (stream : s.incoming =
      Rectangle.header x y rectangleWidth rectangleHeight encoding ++ payload) :
    readRectangle s = readEncoding x.toNat y.toNat rectangleWidth.toNat rectangleHeight.toNat
      encoding { s with incoming := payload } := by
  refine (bind_of_ok _ (receiveExactly_append stream rfl)).trans ?_
  have column : readUInt16BigEndian
      (Rectangle.header x y rectangleWidth rectangleHeight encoding) 0 = x :=
    readUInt16_at x [] _ rfl
  have row : readUInt16BigEndian
      (Rectangle.header x y rectangleWidth rectangleHeight encoding) 2 = y :=
    readUInt16_at y (bigEndian16 x) _ rfl
  have columns : readUInt16BigEndian
      (Rectangle.header x y rectangleWidth rectangleHeight encoding) 4 = rectangleWidth :=
    readUInt16_at rectangleWidth (bigEndian16 x ++ bigEndian16 y) _ rfl
  have rows : readUInt16BigEndian
      (Rectangle.header x y rectangleWidth rectangleHeight encoding) 6 = rectangleHeight :=
    readUInt16_at rectangleHeight (bigEndian16 x ++ bigEndian16 y ++ bigEndian16 rectangleWidth)
      _ rfl
  have kind : readUInt32BigEndian
      (Rectangle.header x y rectangleWidth rectangleHeight encoding) 8 = encoding.toUInt32 :=
    readUInt32_at encoding.toUInt32
      (bigEndian16 x ++ bigEndian16 y ++ bigEndian16 rectangleWidth ++
        bigEndian16 rectangleHeight) [] rfl
  rw [column, row, columns, rows, kind]
  rfl

/-- Either the payload is cut off, and nothing is drawn, or the client becomes what `draw` makes
of it. -/
theorem receive_then_draw (count : Nat) (draw : List UInt8 → SimpleVNCClient → SimpleVNCClient)
    (s : Session) :
    ((receiveExactly count >>= fun data => client >>= fun c => setClient (draw data c)) s).2.client =
      if count ≤ s.incoming.length then draw (s.incoming.take count) s.client else s.client := by
  by_cases enough : count ≤ s.incoming.length
  · have read : receiveExactly count s =
        (.ok (s.incoming.take count), { s with incoming := s.incoming.drop count }) :=
      if_pos enough
    rw [bind_of_ok _ read, if_pos enough]
    rfl
  · have cut : receiveExactly count s = (.error .disconnected, { s with incoming := [] }) :=
      if_neg enough
    rw [bind_of_error _ cut, if_neg enough]

/-- A raw rectangle, once its header is read. -/
theorem readRectangle_raw {s : Session} {payload : List UInt8}
    (stream : s.incoming =
      Rectangle.header x y rectangleWidth rectangleHeight rawEncoding ++ payload) :
    (readRectangle s).2.client =
      if rectangleWidth.toNat * rectangleHeight.toNat * 4 ≤ payload.length then
        s.client.copy (payload.take (rectangleWidth.toNat * rectangleHeight.toNat * 4)) x.toNat
          y.toNat rectangleWidth.toNat rectangleHeight.toNat
      else s.client := by
  rw [readRectangle_header stream]
  exact receive_then_draw _ (fun pixels c => c.copy pixels x.toNat y.toNat rectangleWidth.toNat
    rectangleHeight.toNat) { s with incoming := payload }

end Reading

/-- A copied rectangle never leaves its bounds. -/
theorem copyRect_in_bounds (width height : Nat) (x y rectangleWidth rectangleHeight : UInt16) :
    StaysInBounds width height x y rectangleWidth rectangleHeight copyRectEncoding := by
  intro s payload _ _ full stream
  rw [readRectangle_header stream]
  have drawn := receive_then_draw 4 (fun source c =>
    c.copyRectangle (readUInt16BigEndian source 0).toNat (readUInt16BigEndian source 2).toNat
      x.toNat y.toNat rectangleWidth.toNat rectangleHeight.toNat) { s with incoming := payload }
  have same : (readEncoding x.toNat y.toNat rectangleWidth.toNat rectangleHeight.toNat
      copyRectEncoding { s with incoming := payload }).2.client = _ := drawn
  rw [same]
  split
  · exact .copyRectangle full _ _
  · exact .refl full

/-- A session that will receive a raw rectangle of one colour over a black screen. -/
def paintingSession (width height : Nat) (x y rectangleWidth rectangleHeight : UInt16) :
    Session where
  client := .resized width height
  incoming := Rectangle.header x y rectangleWidth rectangleHeight rawEncoding ++
    List.replicate (rectangleWidth.toNat * rectangleHeight.toNat * 4) 1

/-- A row of a raw rectangle that runs over a pixel outside it paints that pixel. -/
theorem painted_outside {width height : Nat} {x y rectangleWidth rectangleHeight : UInt16}
    {row column line : Nat} (counted : row < rectangleHeight.toNat) (columns : column < width)
    (lines : line < height)
    (run : RunsOver width (width * height) x.toNat y.toNat rectangleWidth.toNat row
      (line * width + column)) :
    let s := paintingSession width height x y rectangleWidth rectangleHeight
    (readRectangle s).2.client.pixel column line ≠ s.client.pixel column line := by
  intro s same
  have cell : line * width + column + 1 ≤ width * height := run_le columns lines
  have whole : (List.replicate (rectangleWidth.toNat * rectangleHeight.toNat * 4) (1 : UInt8)).length =
      rectangleWidth.toNat * rectangleHeight.toNat * 4 := List.length_replicate
  have after := readRectangle_raw (s := s) rfl
  rw [if_pos (Nat.le_of_eq whole.symm), List.take_of_length_le (Nat.le_of_eq whole)] at after
  have painted : ((List.range rectangleHeight.toNat).foldl
      (copyRow width (List.replicate (rectangleWidth.toNat * rectangleHeight.toNat * 4) 1) x.toNat
        y.toNat rectangleWidth.toNat)
      (emptyFramebuffer width height))[(line * width + column) * 4 + 0]? = some 1 := by
    apply copyRows_painted List.length_replicate _ (by decide)
    · intro j below
      rw [List.getElem?_replicate, if_pos (whole ▸ below)]
    · intro later member
      have upper := Nat.mul_le_mul_right (rectangleWidth.toNat * 4) (List.mem_range.mp member)
      rw [whole, Nat.mul_right_comm, Nat.mul_comm _ rectangleHeight.toNat]
      exact upper
    · exact .inr ⟨row, List.mem_range.mpr counted, run⟩
  -- The first byte of the pixel was 0 and is 1.
  have first := congrArg (fun bytes : List UInt8 => bytes[0]?) same
  simp only [SimpleVNCClient.pixel, after] at first
  rw [getElem?_slice, getElem?_slice, if_pos (by omega), if_pos (by omega)] at first
  have black : (emptyFramebuffer width height)[(line * width + column) * 4 + 0]? = some 0 := by
    unfold emptyFramebuffer
    rw [List.getElem?_replicate, if_pos (by omega)]
  have clash : some (1 : UInt8) = some 0 := painted.symm.trans (first.trans black)
  cases clash

/-- **Rectangles and their bounds.** A copied rectangle stays inside its bounds. A raw one does,
whatever its pixels and whatever the screen shows, exactly when its rows keep apart. -/
theorem stays_in_bounds_iff (width height : Nat)
    (x y rectangleWidth rectangleHeight : UInt16) :
    (StaysInBounds width height x y rectangleWidth rectangleHeight rawEncoding ↔
      RowsKeepApart width height x.toNat y.toNat rectangleWidth.toNat rectangleHeight.toNat) ∧
    StaysInBounds width height x y rectangleWidth rectangleHeight copyRectEncoding := by
  refine ⟨⟨?_, ?_⟩, copyRect_in_bounds width height x y rectangleWidth rectangleHeight⟩
  · intro stays
    apply Decidable.byContradiction
    intro crossing
    obtain ⟨row, counted, column, columns, line, lines, run, outside⟩ :=
      exists_runsOver_outside crossing
    have kept := (stays (paintingSession width height x y rectangleWidth rectangleHeight) _ rfl rfl
      (by simp [paintingSession, SimpleVNCClient.Full, SimpleVNCClient.resized, emptyFramebuffer])
      rfl).outside column columns line lines outside
    exact painted_outside counted columns lines run kept
  · intro apart s payload width' height' full stream
    subst width' height'
    rw [readRectangle_raw stream]
    split
    · exact .copy full _ apart
    · exact .refl full

/-- Two pixels by two: a row of two pixels from column 1 on reaches the first pixel of the row
below. -/
theorem raw_rectangle_leaves_bounds : ¬ StaysInBounds 2 2 1 0 2 1 rawEncoding := by
  intro stays
  have kept := (stays (paintingSession 2 2 1 0 2 1) _ rfl rfl rfl rfl).outside 0
    (by decide) 1 (by decide) (by decide)
  revert kept
  decide +kernel

end SimpleVM.VNC
