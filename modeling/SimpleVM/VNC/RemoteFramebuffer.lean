import SimpleVM.Raster.RowMajor

/-!
# The remote framebuffer protocol

What the server messages mean, pixel by pixel, and how they are written on the wire.
-/
namespace SimpleVM.VNC

open Raster

/-- The four bytes of a pixel in the format the client asks for. -/
structure Pixel where
  blue : UInt8 := 0
  green : UInt8 := 0
  red : UInt8 := 0
  unused : UInt8 := 0
deriving DecidableEq, Repr

def Pixel.bytes (p : Pixel) : List UInt8 := [p.blue, p.green, p.red, p.unused]

/-- The screen of the server; `pixel` is given column and row. -/
structure Screen where
  width : UInt16
  height : UInt16
  pixel : Nat → Nat → Pixel

/-- A rectangle of an update, as the server means it. -/
inductive Rectangle
  | raw (x y width height : UInt16) (pixels : List Pixel)
  | copyRect (x y width height sourceX sourceY : UInt16)
  | desktopSize (x y width height : UInt16)
  /-- The position carries a reason and a status, each screen its own layout. -/
  | extendedDesktopSize (x y width height : UInt16) (padding : Vector UInt8 3)
    (screens : List (Vector UInt8 16))

inductive ServerMessage
  | framebufferUpdate (padding : UInt8) (rectangles : List Rectangle)
  | setColourMapEntries (padding : UInt8) (firstColour : UInt16) (colours : List (Vector UInt8 6))
  | bell
  | serverCutText (padding : Vector UInt8 3) (text : List UInt8)

section Meaning

namespace Screen

def blank (width height : UInt16) : Screen where
  width := width
  height := height
  pixel _ _ := {}

/-- The rectangle lies inside the screen. -/
def Contains (s : Screen) (x y width height : UInt16) : Prop :=
  x.toNat + width.toNat ≤ s.width.toNat ∧ y.toNat + height.toNat ≤ s.height.toNat

/-- Only a size that differs makes a new screen. -/
def resize (s : Screen) (width height : UInt16) : Screen :=
  if s.width = width ∧ s.height = height then s else blank width height

/-- The screen with the pixels of one rectangle replaced; `g` counts from the corner of the
rectangle. -/
def overlay (s : Screen) (x y width height : UInt16) (g : Nat → Nat → Pixel) : Screen :=
  { s with
    pixel := fun i j =>
      if (x.toNat ≤ i ∧ i < x.toNat + width.toNat) ∧ y.toNat ≤ j ∧ j < y.toNat + height.toNat then
        g (i - x.toNat) (j - y.toNat)
      else s.pixel i j }

def draw (s : Screen) : Rectangle → Screen
  | .raw x y width height pixels =>
    s.overlay x y width height fun i j => pixels.getD (j * width.toNat + i) {}
  | .copyRect x y width height sourceX sourceY =>
    s.overlay x y width height fun i j => s.pixel (sourceX.toNat + i) (sourceY.toNat + j)
  | .desktopSize _ _ width height | .extendedDesktopSize _ _ width height _ _ =>
    s.resize width height

def interpret (s : Screen) : ServerMessage → Screen
  | .framebufferUpdate _ rectangles => rectangles.foldl draw s
  | .setColourMapEntries .. | .bell | .serverCutText .. => s

/-- The screens after each of the messages. -/
def interpretAll (s : Screen) : List ServerMessage → List Screen
  | [] => []
  | message :: messages => s.interpret message :: (s.interpret message).interpretAll messages

/-- The screen written out row after row. -/
def bytes (s : Screen) : List UInt8 :=
  (ofFn s.width.toNat s.height.toNat s.pixel).flatMap Pixel.bytes

/-- A rectangle the server may send when its screen is `s`. -/
def Admits (s : Screen) : Rectangle → Prop
  | .raw x y width height pixels =>
    s.Contains x y width height ∧ pixels.length = width.toNat * height.toNat
  | .copyRect x y width height sourceX sourceY =>
    s.Contains x y width height ∧ s.Contains sourceX sourceY width height
  | .desktopSize .. => True
  | .extendedDesktopSize _ _ _ _ _ screens => screens.length < 256

def AdmitsAll (s : Screen) : List Rectangle → Prop
  | [] => True
  | rectangle :: rectangles => s.Admits rectangle ∧ (s.draw rectangle).AdmitsAll rectangles

/-- The message is well formed when the screen is `s`: its counts fit their fields, and each of
its rectangles lies inside the screen that is current when it arrives. -/
def WellFormed (s : Screen) : ServerMessage → Prop
  | .framebufferUpdate _ rectangles => rectangles.length < 65536 ∧ s.AdmitsAll rectangles
  | .setColourMapEntries _ _ colours => colours.length < 65536
  | .bell => True
  | .serverCutText _ text => text.length < 4294967296

def AllWellFormed (s : Screen) : List ServerMessage → Prop
  | [] => True
  | message :: messages => s.WellFormed message ∧ (s.interpret message).AllWellFormed messages

end Screen

end Meaning

section Wire

def bigEndian16 (value : UInt16) : List UInt8 := [(value >>> 8).toUInt8, value.toUInt8]

def bigEndian32 (value : UInt32) : List UInt8 :=
  [(value >>> 24).toUInt8, (value >>> 16).toUInt8, (value >>> 8).toUInt8, value.toUInt8]

def Rectangle.header (x y width height : UInt16) (encoding : Int32) : List UInt8 :=
  bigEndian16 x ++ bigEndian16 y ++ bigEndian16 width ++ bigEndian16 height ++
    bigEndian32 encoding.toUInt32

def Rectangle.encode : Rectangle → List UInt8
  | .raw x y width height pixels => header x y width height 0 ++ pixels.flatMap Pixel.bytes
  | .copyRect x y width height sourceX sourceY =>
    header x y width height 1 ++ bigEndian16 sourceX ++ bigEndian16 sourceY
  | .desktopSize x y width height => header x y width height (-223)
  | .extendedDesktopSize x y width height padding screens =>
    header x y width height (-308) ++ [UInt8.ofNat screens.length] ++ padding.toList ++
      screens.flatMap Vector.toList

def ServerMessage.encode : ServerMessage → List UInt8
  | .framebufferUpdate padding rectangles =>
    [0, padding] ++ bigEndian16 (UInt16.ofNat rectangles.length) ++
      rectangles.flatMap Rectangle.encode
  | .setColourMapEntries padding firstColour colours =>
    [1, padding] ++ bigEndian16 firstColour ++ bigEndian16 (UInt16.ofNat colours.length) ++
      colours.flatMap Vector.toList
  | .bell => [2]
  | .serverCutText padding text =>
    [3] ++ padding.toList ++ bigEndian32 (UInt32.ofNat text.length) ++ text

end Wire

end SimpleVM.VNC
