import SimpleVM.VNC.RemoteFramebuffer
import SimpleVM.VNC.SimpleVNCClient

/-!
# The client shows the screen of the server

Every well-formed message is consumed to its last byte, and after each framebuffer update the
client holds what a pixel by pixel interpreter of the protocol has on its screen.
-/
namespace SimpleVM.VNC

open Effects Failing Raster

section Numbers

theorem toNat_shift_or16 (value : UInt16) (byte : UInt8) (small : value.toNat < 256) :
    ((value <<< 8) ||| byte.toUInt16).toNat = value.toNat * 256 + byte.toNat := by
  have below := byte.toNat_lt
  rw [UInt16.toNat_or, UInt16.toNat_shiftLeft]
  simp only [UInt16.reduceToNat, UInt8.toNat_toUInt16]
  rw [show (8 % 16 : Nat) = 8 from rfl, Nat.mod_eq_of_lt (by rw [Nat.shiftLeft_eq]; omega),
    ← Nat.shiftLeft_add_eq_or_of_lt below, Nat.shiftLeft_eq]

theorem toNat_shift_or32 (value : UInt32) (byte : UInt8) (small : value.toNat < 16777216) :
    ((value <<< 8) ||| byte.toUInt32).toNat = value.toNat * 256 + byte.toNat := by
  have below := byte.toNat_lt
  rw [UInt32.toNat_or, UInt32.toNat_shiftLeft]
  simp only [UInt32.reduceToNat, UInt8.toNat_toUInt32]
  rw [show (8 % 32 : Nat) = 8 from rfl, Nat.mod_eq_of_lt (by rw [Nat.shiftLeft_eq]; omega),
    ← Nat.shiftLeft_add_eq_or_of_lt below, Nat.shiftLeft_eq]

theorem foldl_bigEndian16 (v : UInt16) :
    (bigEndian16 v).foldl (fun (value : UInt16) byte => (value <<< 8) ||| byte.toUInt16) 0 = v := by
  have below := v.toNat_lt
  apply UInt16.toNat_inj.mp
  simp only [bigEndian16, List.foldl_cons, List.foldl_nil]
  have first : ((0 : UInt16) <<< 8 ||| (v >>> 8).toUInt8.toUInt16).toNat = v.toNat / 256 := by
    rw [toNat_shift_or16 _ _ (by decide)]
    simp [UInt16.toNat_shiftRight, Nat.shiftRight_eq_div_pow]
    omega
  rw [toNat_shift_or16 _ _ (by rw [first]; omega), first]
  simp
  omega

theorem foldl_bigEndian32 (v : UInt32) :
    (bigEndian32 v).foldl (fun (value : UInt32) byte => (value <<< 8) ||| byte.toUInt32) 0 = v := by
  have below := v.toNat_lt
  apply UInt32.toNat_inj.mp
  simp only [bigEndian32, List.foldl_cons, List.foldl_nil]
  have first : ((0 : UInt32) <<< 8 ||| (v >>> 24).toUInt8.toUInt32).toNat = v.toNat / 16777216 := by
    rw [toNat_shift_or32 _ _ (by decide)]
    simp [UInt32.toNat_shiftRight, Nat.shiftRight_eq_div_pow]
    omega
  have second : (((0 : UInt32) <<< 8 ||| (v >>> 24).toUInt8.toUInt32) <<< 8 |||
      (v >>> 16).toUInt8.toUInt32).toNat = v.toNat / 65536 := by
    rw [toNat_shift_or32 _ _ (by rw [first]; omega), first]
    simp [UInt32.toNat_shiftRight, Nat.shiftRight_eq_div_pow]
    omega
  have third : ((((0 : UInt32) <<< 8 ||| (v >>> 24).toUInt8.toUInt32) <<< 8 |||
      (v >>> 16).toUInt8.toUInt32) <<< 8 ||| (v >>> 8).toUInt8.toUInt32).toNat = v.toNat / 256 := by
    rw [toNat_shift_or32 _ _ (by rw [second]; omega), second]
    simp [UInt32.toNat_shiftRight, Nat.shiftRight_eq_div_pow]
    omega
  rw [toNat_shift_or32 _ _ (by rw [third]; omega), third]
  simp
  omega

/-- A number is read at the offset it was written at. -/
theorem readUInt16_at (v : UInt16) (before after : List UInt8) {offset : Nat}
    (here : before.length = offset) :
    readUInt16BigEndian (before ++ (bigEndian16 v ++ after)) offset = v := by
  subst here
  unfold readUInt16BigEndian slice
  rw [List.drop_left, show (2 : Nat) = (bigEndian16 v).length from rfl, List.take_left]
  exact foldl_bigEndian16 v

theorem readUInt32_at (v : UInt32) (before after : List UInt8) {offset : Nat}
    (here : before.length = offset) :
    readUInt32BigEndian (before ++ (bigEndian32 v ++ after)) offset = v := by
  subst here
  unfold readUInt32BigEndian slice
  rw [List.drop_left, show (4 : Nat) = (bigEndian32 v).length from rfl, List.take_left]
  exact foldl_bigEndian32 v

end Numbers

section Copying

variable {w h width height x y : Nat}

theorem length_bytes (p : Pixel) : p.bytes.length = 4 := rfl

theorem bytes_blank : Pixel.bytes {} = List.replicate 4 0 := rfl

/-- A row of pixels copied into a buffer it fits in. -/
theorem copyRow_flatMap {cells : List Pixel} (g : Nat → Nat → Pixel)
    (length : cells.length = width * height) (columns : x + w ≤ width) {row : Nat}
    (inside : row < h) (fits : y + row < height) :
    copyRow width ((ofFn w h g).flatMap Pixel.bytes) x y w (cells.flatMap Pixel.bytes) row =
      (replace cells ((y + row) * width + x) ((y + row) * width + x + w)
        ((List.range w).map fun i => g i row)).flatMap Pixel.bytes := by
  have destination : (y + row) * width + x + w ≤ width * height := run_le columns fits
  have source : row * w + 0 + w ≤ w * h := run_le (Nat.le_of_eq (Nat.zero_add w)) inside
  have run := slice_ofFn g (Nat.le_of_eq (Nat.zero_add w)) inside
  simp only [Nat.add_zero, Nat.zero_add] at run
  unfold copyRow
  dsimp only
  rw [length_flatMap_blocks length_bytes, length_flatMap_blocks length_bytes, length_ofFn, length,
    show row * (w * 4) = row * w * 4 from (Nat.mul_assoc _ _ _).symm, ← Nat.add_mul, ← Nat.add_mul,
    if_pos (by omega), slice_flatMap_blocks length_bytes, run, replace_flatMap_blocks length_bytes]

/-- All rows of a block, copied one after another. -/
theorem foldl_copyRow {cells : List Pixel} (g : Nat → Nat → Pixel)
    (length : cells.length = width * height) (columns : x + w ≤ width) (fits : y + h ≤ height)
    (rows : List Nat) (inside : ∀ row ∈ rows, row < h) :
    rows.foldl (copyRow width ((ofFn w h g).flatMap Pixel.bytes) x y w)
        (cells.flatMap Pixel.bytes) =
      (rows.foldl (fun cells row => replace cells ((y + row) * width + x)
        ((y + row) * width + x + w) ((List.range w).map fun i => g i row))
        cells).flatMap Pixel.bytes := by
  induction rows generalizing cells with
  | nil => rfl
  | cons row rows ih =>
    have below := inside row List.mem_cons_self
    have run := run_le (y := y + row) (h := height) columns (by omega)
    have room : (y + row) * width + x + ((List.range w).map fun i => g i row).length ≤
        cells.length := by simpa [length] using run
    have kept := length_replace room
    simp only [List.length_map, List.length_range] at kept
    rw [List.foldl_cons, List.foldl_cons,
      copyRow_flatMap g length columns below (by omega),
      ih (kept.trans length) fun later member => inside later (List.mem_cons_of_mem _ member)]

/-- The client that shows a screen. -/
def Screen.shown (s : Screen) : SimpleVNCClient where
  framebuffer := s.bytes
  width := s.width.toNat
  height := s.height.toNat

/-- `copy` of a block of pixels that fits. -/
theorem copy_shown (s : Screen) {x y width height : UInt16} (g : Nat → Nat → Pixel)
    (fits : s.Contains x y width height) :
    s.shown.copy ((ofFn width.toNat height.toNat g).flatMap Pixel.bytes) x.toNat y.toNat
        width.toNat height.toNat =
      (s.overlay x y width height g).shown := by
  unfold SimpleVNCClient.copy Screen.shown Screen.bytes
  rw [foldl_copyRow g (by simp) fits.1 fits.2 _ fun row member => List.mem_range.mp member,
    foldl_replace_ofFn s.pixel g fits.1 fits.2]
  rfl

/-- The rows of a rectangle, taken before any of them is overwritten. -/
theorem snapshot_shown (s : Screen) {x y width height : UInt16}
    (fits : s.Contains x y width height) :
    s.shown.snapshot x.toNat y.toNat width.toNat height.toNat =
      (ofFn width.toNat height.toNat fun i j =>
        s.pixel (x.toNat + i) (y.toNat + j)).flatMap Pixel.bytes := by
  have blank : List.replicate (width.toNat * 4 * height.toNat) 0 =
      (ofFn width.toNat height.toNat fun _ _ => ({} : Pixel)).flatMap Pixel.bytes := by
    rw [flatMap_ofFn_const _ _ bytes_blank, Nat.mul_right_comm]
  have step (rows : List Nat) (cells : List Pixel) (inside : ∀ row ∈ rows, row < height.toNat) :
      rows.foldl (fun snapshot row =>
          replace snapshot (row * (width.toNat * 4)) (row * (width.toNat * 4) + width.toNat * 4)
            (slice s.bytes (((y.toNat + row) * s.width.toNat + x.toNat) * 4) (width.toNat * 4)))
          (cells.flatMap Pixel.bytes) =
        (rows.foldl (fun cells row => replace cells ((0 + row) * width.toNat + 0)
            ((0 + row) * width.toNat + 0 + width.toNat)
            ((List.range width.toNat).map fun i => s.pixel (x.toNat + i) (y.toNat + row)))
          cells).flatMap Pixel.bytes := by
    induction rows generalizing cells with
    | nil => rfl
    | cons row rows ih =>
      have below := inside row List.mem_cons_self
      have row' : y.toNat + row < s.height.toNat := Nat.lt_of_lt_of_le (by omega) fits.2
      rw [List.foldl_cons, List.foldl_cons,
        ← ih _ fun later member => inside later (List.mem_cons_of_mem _ member)]
      congr 1
      rw [Screen.bytes, slice_flatMap_blocks length_bytes, slice_ofFn s.pixel fits.1 row',
        show row * (width.toNat * 4) = row * width.toNat * 4 from (Nat.mul_assoc _ _ _).symm,
        ← Nat.add_mul, replace_flatMap_blocks length_bytes, Nat.zero_add, Nat.add_zero]
  unfold SimpleVNCClient.snapshot
  dsimp only
  rw [blank]
  refine (step _ _ fun row member => List.mem_range.mp member).trans ?_
  rw [foldl_replace_ofFn _ (fun i j => s.pixel (x.toNat + i) (y.toNat + j)) (by omega) (by omega)]
  congr 1
  refine ofFn_congr fun i column j row => ?_
  rw [if_pos (by omega)]
  rfl

/-- Both kinds of drawing show what they draw. -/
theorem copyRectangle_shown (s : Screen) {x y width height sourceX sourceY : UInt16}
    (fits : s.Contains x y width height) (source : s.Contains sourceX sourceY width height) :
    s.shown.copyRectangle sourceX.toNat sourceY.toNat x.toNat y.toNat width.toNat height.toNat =
      (s.draw (.copyRect x y width height sourceX sourceY)).shown := by
  unfold SimpleVNCClient.copyRectangle
  split
  · rw [snapshot_shown s source]
    exact copy_shown s _ fits
  · next empty =>
    -- Everything fits, so the rectangle has no pixels.
    have none : width.toNat = 0 ∨ height.toNat = 0 := by
      obtain ⟨a, b⟩ := fits
      obtain ⟨c, d⟩ := source
      simp only [Screen.shown] at empty
      omega
    have same : s.draw (.copyRect x y width height sourceX sourceY) = s := by
      simp only [Screen.draw, Screen.overlay]
      congr 1
      funext i j
      rw [if_neg (by omega)]
    rw [same]

theorem raw_shown (s : Screen) {x y width height : UInt16} {pixels : List Pixel}
    (fits : s.Contains x y width height) (length : pixels.length = width.toNat * height.toNat) :
    s.shown.copy (pixels.flatMap Pixel.bytes) x.toNat y.toNat width.toNat height.toNat =
      (s.draw (.raw x y width height pixels)).shown := by
  have whole := copy_shown s (fun i j => pixels.getD (j * width.toNat + i) {}) fits
  rwa [← eq_ofFn_getD length] at whole

theorem blank_shown (width height : UInt16) :
    (Screen.blank width height).shown = .resized width.toNat height.toNat := by
  simp only [Screen.shown, Screen.bytes, Screen.blank, SimpleVNCClient.resized, emptyFramebuffer]
  rw [flatMap_ofFn_const _ _ bytes_blank]

end Copying

section Reading

variable {s : Session} {screen : Screen} {rest : List UInt8}

/-- The client shows `screen` and has read everything before `rest`. -/
structure Session.At (s : Session) (screen : Screen) (rest : List UInt8) : Prop where
  client : s.client = screen.shown
  incoming : s.incoming = rest

/-- From `s` the exchange goes on with `screen` shown and `rest` to be read, unless a send
fails. -/
def Yields (x : Exchange Unit) (s : Session) (screen : Screen) (rest : List UInt8) : Prop :=
  (∃ t, x s = (.ok (), t) ∧ t.At screen rest ∧ t.refuses = s.refuses) ∨
  ((∃ t, x s = (.error .disconnected, t)) ∧ ∃ n, s.refuses n = true)

theorem Yields.bind {x : Exchange Unit} {f : Unit → Exchange Unit} {middle : Screen}
    {between : List UInt8} (first : Yields x s middle between)
    (second : ∀ t, t.At middle between → Yields (f ()) t screen rest) :
    Yields (x >>= f) s screen rest := by
  rcases first with ⟨t, run, at_, same⟩ | ⟨⟨t, run⟩, refused⟩
  · rcases second t at_ with ⟨u, run', done, same'⟩ | ⟨⟨u, run'⟩, refused⟩
    · exact .inl ⟨u, (bind_of_ok f run).trans run', done, same'.trans same⟩
    · rw [same] at refused
      exact .inr ⟨⟨u, (bind_of_ok f run).trans run'⟩, refused⟩
  · exact .inr ⟨⟨t, bind_of_error f run⟩, refused⟩

/-- A step that neither fails nor sends. -/
theorem Yields.of_ok {α : Type} {x : Exchange α} {f : α → Exchange Unit} {t : Session} {a : α}
    (run : x s = (.ok a, t)) (same : t.refuses = s.refuses) (next : Yields (f a) t screen rest) :
    Yields (x >>= f) s screen rest := by
  unfold Yields at next ⊢
  rw [bind_of_ok f run]
  rwa [same] at next

theorem Yields.pure (at_ : s.At screen rest) : Yields (Pure.pure ()) s screen rest :=
  .inl ⟨s, rfl, at_, rfl⟩

/-- Exactly the bytes asked for are read. -/
theorem receiveExactly_append {data : List UInt8} {count : Nat} (at_ : s.incoming = data ++ rest)
    (length : data.length = count) :
    receiveExactly count s = (.ok data, { s with incoming := rest }) := by
  subst length
  unfold receiveExactly
  rw [at_, if_pos (by simp), List.take_left, List.drop_left]

theorem yields_receive {data : List UInt8} {count : Nat} {f : List UInt8 → Exchange Unit}
    {after : List UInt8} {middle : Screen} (at_ : s.At middle (data ++ after))
    (length : data.length = count)
    (next : ∀ t, t.At middle after → Yields (f data) t screen rest) :
    Yields (receiveExactly count >>= f) s screen rest :=
  .of_ok (receiveExactly_append at_.incoming length) rfl (next _ ⟨at_.client, rfl⟩)

theorem yields_client {f : SimpleVNCClient → Exchange Unit} {middle : Screen}
    {after : List UInt8} (at_ : s.At middle after)
    (next : Yields (f middle.shown) s screen rest) :
    Yields (client >>= f) s screen rest := by
  refine .of_ok (a := middle.shown) (t := s) ?_ rfl next
  rw [← at_.client]
  rfl

theorem yields_setClient {before : Screen} (at_ : s.At before rest) {c : SimpleVNCClient}
    (shows : c = screen.shown) : Yields (setClient c) s screen rest :=
  .inl ⟨{ s with client := c }, rfl, ⟨shows, at_.incoming⟩, rfl⟩

theorem yields_requestUpdate (at_ : s.At screen rest) (incremental : Bool) :
    Yields (requestUpdate incremental) s screen rest := by
  refine yields_client at_ ?_
  cases refused : s.refuses s.sent.length with
  | false =>
    have accepted : ¬ s.refuses s.sent.length = true := by simp [refused]
    exact .inl ⟨_, if_neg accepted, ⟨at_.client, at_.incoming⟩, rfl⟩
  | true => exact .inr ⟨⟨s, if_pos refused⟩, _, refused⟩

theorem yields_resize (at_ : s.At screen rest) (width height : UInt16) :
    Yields (resize width.toNat height.toNat) s (screen.resize width height) rest := by
  refine yields_client at_ ?_
  unfold Screen.resize
  by_cases same : screen.width = width ∧ screen.height = height
  · obtain ⟨rfl, rfl⟩ := same
    have unchanged : ¬ (screen.shown.width ≠ screen.width.toNat ∨
        screen.shown.height ≠ screen.height.toNat) := by simp [Screen.shown]
    rw [if_neg unchanged, if_pos ⟨rfl, rfl⟩]
    exact .pure at_
  · rw [if_neg same]
    have differs : screen.shown.width ≠ width.toNat ∨ screen.shown.height ≠ height.toNat := by
      simp only [Screen.shown, ne_eq, UInt16.toNat_inj]
      by_cases width' : screen.width = width
      · exact .inr fun height' => same ⟨width', height'⟩
      · exact .inl width'
    rw [if_pos differs]
    exact (yields_setClient at_ (blank_shown width height).symm).bind fun t shown =>
      yields_requestUpdate shown false

/-- The header of a rectangle, field by field. -/
theorem yields_readRectangle_header {x y width height : UInt16} {encoding : Int32}
    {after : List UInt8} {before : Screen}
    (at_ : s.At before (Rectangle.header x y width height encoding ++ after))
    (next : ∀ t, t.At before after →
      Yields (readEncoding x.toNat y.toNat width.toNat height.toNat encoding) t screen rest) :
    Yields readRectangle s screen rest := by
  refine yields_receive at_ rfl fun t shown => ?_
  have column : readUInt16BigEndian (Rectangle.header x y width height encoding) 0 = x :=
    readUInt16_at x [] _ rfl
  have row : readUInt16BigEndian (Rectangle.header x y width height encoding) 2 = y :=
    readUInt16_at y (bigEndian16 x) _ rfl
  have columns : readUInt16BigEndian (Rectangle.header x y width height encoding) 4 = width :=
    readUInt16_at width (bigEndian16 x ++ bigEndian16 y) _ rfl
  have rows : readUInt16BigEndian (Rectangle.header x y width height encoding) 6 = height :=
    readUInt16_at height (bigEndian16 x ++ bigEndian16 y ++ bigEndian16 width) _ rfl
  have kind : readUInt32BigEndian (Rectangle.header x y width height encoding) 8 =
      encoding.toUInt32 :=
    readUInt32_at encoding.toUInt32
      (bigEndian16 x ++ bigEndian16 y ++ bigEndian16 width ++ bigEndian16 height) [] rfl
  dsimp only
  rw [column, row, columns, rows, kind]
  exact next t shown

/-- **Rectangle lemma.** One case per encoding. -/
theorem yields_readRectangle {r : Rectangle} (admitted : screen.Admits r)
    (at_ : s.At screen (r.encode ++ rest)) : Yields readRectangle s (screen.draw r) rest := by
  cases r with
  | raw x y width height pixels =>
    obtain ⟨fits, length⟩ := admitted
    simp only [Rectangle.encode, List.append_assoc] at at_
    refine yields_readRectangle_header at_ fun t shown => ?_
    refine yields_receive shown ?_ fun u shown => yields_client shown ?_
    · rw [length_flatMap_blocks length_bytes, length, Nat.mul_comm]
    · exact yields_setClient shown (raw_shown screen fits length)
  | copyRect x y width height sourceX sourceY =>
    obtain ⟨fits, source⟩ := admitted
    simp only [Rectangle.encode, List.append_assoc] at at_
    refine yields_readRectangle_header at_ fun t shown => ?_
    rw [← List.append_assoc] at shown
    refine yields_receive shown rfl fun u shown => yields_client shown ?_
    have column : readUInt16BigEndian (bigEndian16 sourceX ++ bigEndian16 sourceY) 0 = sourceX :=
      readUInt16_at sourceX [] _ rfl
    have row : readUInt16BigEndian (bigEndian16 sourceX ++ bigEndian16 sourceY) 2 = sourceY :=
      readUInt16_at sourceY (bigEndian16 sourceX) [] rfl
    rw [column, row]
    exact yields_setClient shown (copyRectangle_shown screen fits source)
  | desktopSize x y width height =>
    refine yields_readRectangle_header at_ fun t shown => ?_
    exact yields_resize shown width height
  | extendedDesktopSize x y width height padding screens =>
    simp only [Rectangle.encode, List.append_assoc] at at_
    refine yields_readRectangle_header at_ fun t shown => ?_
    rw [← List.append_assoc] at shown
    refine yields_receive shown (by simp) fun u shown => ?_
    have count : (([UInt8.ofNat screens.length] ++ padding.toList).headD 0).toNat =
        screens.length := Nat.mod_eq_of_lt admitted
    dsimp only
    rw [count]
    refine yields_receive shown ?_ fun v shown => yields_resize shown width height
    rw [length_flatMap_blocks (fun v : Vector UInt8 16 => v.length_toList), Nat.mul_comm]

theorem yields_readRectangles {rectangles : List Rectangle} (admitted : screen.AdmitsAll rectangles)
    (at_ : s.At screen (rectangles.flatMap Rectangle.encode ++ rest)) :
    Yields (readRectangles rectangles.length) s (rectangles.foldl Screen.draw screen) rest := by
  induction rectangles generalizing s screen with
  | nil => exact .pure at_
  | cons r rectangles ih =>
    obtain ⟨first, later⟩ := admitted
    rw [List.flatMap_cons, List.append_assoc] at at_
    exact (yields_readRectangle first at_).bind fun t shown => ih later shown

/-- **Message lemma.** A well-formed message is read to its end and means what it means on the
screen. -/
theorem yields_readUpdate {message : ServerMessage} (wellFormed : screen.WellFormed message)
    (at_ : s.At screen (message.encode ++ rest)) :
    Yields readUpdate s (screen.interpret message) rest := by
  cases message with
  | framebufferUpdate padding rectangles =>
    obtain ⟨counted, admitted⟩ := wellFormed
    have at_ : s.At screen ([0] ++ ([padding] ++ bigEndian16 (UInt16.ofNat rectangles.length) ++
        (rectangles.flatMap Rectangle.encode ++ rest))) := by
      simpa [ServerMessage.encode] using at_
    refine yields_receive at_ rfl fun t shown => yields_receive shown rfl fun u shown => ?_
    have count : readUInt16BigEndian ([padding] ++ bigEndian16 (UInt16.ofNat rectangles.length)) 1 =
        UInt16.ofNat rectangles.length := readUInt16_at _ [padding] [] rfl
    rw [count, UInt16.toNat_ofNat', Nat.mod_eq_of_lt counted]
    exact (yields_readRectangles admitted shown).bind fun v shown => yields_requestUpdate shown true
  | setColourMapEntries padding firstColour colours =>
    have counted : colours.length < 65536 := wellFormed
    have at_ : s.At screen ([1] ++ ([padding] ++ bigEndian16 firstColour ++
        bigEndian16 (UInt16.ofNat colours.length) ++
        (colours.flatMap Vector.toList ++ rest))) := by
      simpa [ServerMessage.encode] using at_
    refine yields_receive at_ rfl fun t shown => yields_receive shown rfl fun u shown => ?_
    have count : readUInt16BigEndian ([padding] ++ bigEndian16 firstColour ++
        bigEndian16 (UInt16.ofNat colours.length)) 3 = UInt16.ofNat colours.length :=
      readUInt16_at _ ([padding] ++ bigEndian16 firstColour) [] rfl
    rw [count, UInt16.toNat_ofNat', Nat.mod_eq_of_lt counted]
    refine yields_receive shown ?_ fun v shown => .pure shown
    rw [length_flatMap_blocks (fun v : Vector UInt8 6 => v.length_toList), Nat.mul_comm]
  | bell =>
    have at_ : s.At screen ([2] ++ rest) := at_
    exact yields_receive at_ rfl fun t shown => .pure shown
  | serverCutText padding text =>
    have counted : text.length < 4294967296 := wellFormed
    have at_ : s.At screen ([3] ++ (padding.toList ++ bigEndian32 (UInt32.ofNat text.length) ++
        (text ++ rest))) := by
      simpa [ServerMessage.encode] using at_
    refine yields_receive at_ rfl fun t shown =>
      yields_receive shown (by simp [bigEndian32]) fun u shown => ?_
    have count : readUInt32BigEndian (padding.toList ++ bigEndian32 (UInt32.ofNat text.length)) 3 =
        UInt32.ofNat text.length := by
      have read : readUInt32BigEndian
          (padding.toList ++ (bigEndian32 (UInt32.ofNat text.length) ++ [])) 3 = _ :=
        readUInt32_at _ padding.toList [] (by simp)
      rwa [List.append_nil] at read
    rw [count, UInt32.toNat_ofNat', Nat.mod_eq_of_lt counted]
    exact yields_receive shown rfl fun v shown => .pure shown

/-- The rounds read one message each, to its last byte, and show what it means; they may end
before the messages do. -/
inductive Follows : Screen → List ServerMessage → List Session → Prop
  | ends (screen : Screen) (messages : List ServerMessage) : Follows screen messages []
  | reads {screen : Screen} {message : ServerMessage} {messages : List ServerMessage} {t : Session}
    {rounds : List Session} :
    t.At (screen.interpret message) (messages.flatMap ServerMessage.encode) →
    Follows (screen.interpret message) messages rounds →
    Follows screen (message :: messages) (t :: rounds)

end Reading

section Handshake

/-- Where `x` returns, `P` holds. -/
def Establishes (P : Session → Prop) (x : Exchange Unit) : Prop := ∀ s t, x s = (.ok (), t) → P t

theorem Establishes.bind {P : Session → Prop} {α : Type} {x : Exchange α} {f : α → Exchange Unit}
    (last : ∀ a, Establishes P (f a)) : Establishes P (x >>= f) := by
  intro s t run
  obtain ⟨a, u, _, rest⟩ := bind_eq_ok.mp run
  exact last a u t rest

theorem Establishes.throw {P : Session → Prop} (e : SimpleVNCError) :
    Establishes P (MonadExcept.throw e) := fun _ _ run => absurd run throw_ne_ok

/-- The client is left as it is. -/
def SameClient (s t : Session) : Prop := t.client = s.client

theorem send_sameClient (data : List UInt8) : Keeps SameClient (send data) := by
  intro s
  unfold send SameClient
  split <;> rfl

theorem requestUpdate_sameClient (incremental : Bool) :
    Keeps SameClient (requestUpdate incremental) :=
  .bind (fun _ _ _ first second => second.trans first) (fun _ => rfl) fun _ => send_sameClient _

/-- A client that has just been resized stays so while the last messages are sent. -/
theorem readServerHeader_blank : Establishes
    (fun t => ∃ width height, t.client = (Screen.blank width height).shown) readServerHeader := by
  refine .bind fun _ => .bind fun serverHeader => .bind fun _ => .bind fun _ => .bind fun _ => ?_
  intro s t run
  obtain ⟨_, u, resized, rest⟩ := bind_eq_ok.mp run
  cases resized
  have kept : SameClient _ t := (Keeps.bind (fun _ _ _ first second => second.trans first)
    (send_sameClient _) fun _ => .bind (fun _ _ _ first second => second.trans first)
    (send_sameClient _) fun _ => requestUpdate_sameClient false).of_run rest
  exact ⟨_, _, kept.trans (blank_shown _ _).symm⟩

/-- The handshake ends with a blank screen of the size the server announced. -/
theorem handshake_blank : Establishes
    (fun t => ∃ width height, t.client = (Screen.blank width height).shown) handshake := by
  refine .bind fun version => ?_
  split
  · exact .throw _
  · refine .bind fun _ => .bind fun securityCount => ?_
    split
    · exact .bind fun _ => .bind fun _ => .throw _
    · refine .bind fun securityTypes => ?_
      split
      · exact .throw _
      · refine .bind fun _ => .bind fun result => ?_
        split
        · exact .throw _
        · exact readServerHeader_blank

end Handshake

/-- **Run lemma.** Over the bytes of well-formed messages each round consumes exactly one message
and shows the screen it makes. Only a refused send ends the loop before the stream does. -/
theorem follows_messages (s : Session) (screen : Screen) (messages : List ServerMessage)
    (shown : s.client = screen.shown) (stream : s.incoming = messages.flatMap ServerMessage.encode)
    (wellFormed : screen.AllWellFormed messages) :
    Follows screen messages (readUpdates s).1 ∧ (readUpdates s).2 = .disconnected ∧
      ((∀ n, s.refuses n = false) → (readUpdates s).1.length = messages.length) := by
  induction messages generalizing s screen with
  | nil =>
    have ceased : readUpdate s = (.error .disconnected, { s with incoming := [] }) := by
      refine bind_of_error _ ?_
      unfold receiveExactly
      rw [stream]
      rfl
    rw [readUpdates_of_error ceased]
    exact ⟨.ends screen [], rfl, fun _ => rfl⟩
  | cons message messages ih =>
    obtain ⟨first, later⟩ := wellFormed
    rcases yields_readUpdate first ⟨shown, stream⟩ with ⟨t, run, at_, same⟩ | ⟨⟨t, run⟩, n, refused⟩
    · obtain ⟨follows, ended, complete⟩ := ih t _ at_.client at_.incoming later
      rw [readUpdates_of_ok run]
      refine ⟨.reads at_ follows, ended, fun accepts => ?_⟩
      rw [List.length_cons, List.length_cons, complete (same ▸ accepts)]
    · rw [readUpdates_of_error run]
      refine ⟨.ends screen _, rfl, fun accepts => ?_⟩
      rw [accepts n] at refused
      cases refused

/-- **The client follows the server.** After a handshake the client shows a blank screen of the
announced size, and over every stream of well-formed messages its rounds show, one after the
other, the screens that a pixel by pixel interpreter makes of the messages. -/
theorem connected_client_follows (s t : Session) (connected : handshake s = (.ok (), t)) :
    ∃ width height, t.client = (Screen.blank width height).shown ∧
      ∀ messages, t.incoming = messages.flatMap ServerMessage.encode →
        (Screen.blank width height).AllWellFormed messages →
        Follows (Screen.blank width height) messages (readUpdates t).1 ∧
          (readUpdates t).2 = .disconnected ∧
          ((∀ n, t.refuses n = false) → (readUpdates t).1.length = messages.length) := by
  obtain ⟨width, height, shown⟩ := handshake_blank s t connected
  exact ⟨width, height, shown, fun messages stream wellFormed =>
    follows_messages t _ messages shown stream wellFormed⟩

/-- A server with a screen of one pixel that turns the pixel white and then rings the bell. -/
theorem connected_client_follows_pixel : ∃ rounds, rounds.length = 2 ∧
    Follows (Screen.blank 1 1)
      [.framebufferUpdate 0 [.raw 0 0 1 1 [⟨255, 255, 255, 0⟩]], .bell] rounds := by
  let messages : List ServerMessage :=
    [.framebufferUpdate 0 [.raw 0 0 1 1 [⟨255, 255, 255, 0⟩]], .bell]
  let stream : List UInt8 :=
    [0x52, 0x46, 0x42, 0x20, 0x30, 0x30, 0x33, 0x2e, 0x30, 0x30, 0x38, 0x0a] ++ [1, 1] ++
      [0, 0, 0, 0] ++ [0, 1, 0, 1] ++ List.replicate 20 0 ++ messages.flatMap ServerMessage.encode
  let server : Session := { incoming := stream }
  obtain ⟨width, height, shown, follows⟩ := connected_client_follows server _ rfl
  have one : width = 1 := UInt16.toNat_inj.mp (congrArg SimpleVNCClient.width shown).symm
  have one' : height = 1 := UInt16.toNat_inj.mp (congrArg SimpleVNCClient.height shown).symm
  subst one one'
  obtain ⟨rounds, _, complete⟩ := follows messages rfl
    ⟨⟨by decide, ⟨⟨by decide, by decide⟩, by decide⟩, trivial⟩, trivial, trivial⟩
  exact ⟨_, complete fun _ => rfl, rounds⟩

end SimpleVM.VNC
