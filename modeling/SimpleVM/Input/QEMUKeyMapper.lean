import SimpleVM.Input.ModifierFlags

/-!
# The key mapper

`QEMUKeyMapper`, with the events and chords that go to the guest.
-/
namespace SimpleVM.Input

structure GuestChord where
  keyCode : UInt16
  modifiers : ModifierFlags
deriving DecidableEq, Repr

structure GuestKeyEvent where
  keyCode : UInt16
  isDown : Bool
  isRepeat : Bool
  modifiers : ModifierFlags
  isModifier : Bool
deriving DecidableEq, Repr

namespace QEMUKeyMapper

/-- The table of `keysym(forKeyCode:)`. -/
def keysyms : List (UInt16 × UInt32) :=
  [(0, 0x61), (1, 0x73), (2, 0x64), (3, 0x66), (4, 0x68), (5, 0x67), (6, 0x7a), (7, 0x78),
    (8, 0x63), (9, 0x76), (10, 0xa7), (11, 0x62), (12, 0x71), (13, 0x77), (14, 0x65), (15, 0x72),
    (16, 0x79), (17, 0x74), (18, 0x31), (19, 0x32), (20, 0x33), (21, 0x34), (22, 0x36),
    (23, 0x35), (24, 0x3d), (25, 0x39), (26, 0x37), (27, 0x2d), (28, 0x38), (29, 0x30),
    (30, 0x5d), (31, 0x6f), (32, 0x75), (33, 0x5b), (34, 0x69), (35, 0x70), (36, 0xff0d),
    (37, 0x6c), (38, 0x6a), (39, 0x27), (40, 0x6b), (41, 0x3b), (42, 0x5c), (43, 0x2c),
    (44, 0x2f), (45, 0x6e), (46, 0x6d), (47, 0x2e), (48, 0xff09), (49, 0x20), (50, 0x60),
    (51, 0xff08), (53, 0xff1b), (54, 0xffec), (55, 0xffeb), (56, 0xffe1), (57, 0xffe5),
    (58, 0xffe9), (59, 0xffe3), (60, 0xffe2), (61, 0xffea), (62, 0xffe4), (65, 0xffae),
    (67, 0xffaa), (69, 0xffab), (71, 0xff7f), (75, 0xffaf), (76, 0xff8d), (78, 0xffad),
    (81, 0xffbd), (82, 0xffb0), (83, 0xffb1), (84, 0xffb2), (85, 0xffb3), (86, 0xffb4),
    (87, 0xffb5), (88, 0xffb6), (89, 0xffb7), (91, 0xffb8), (92, 0xffb9), (115, 0xff50),
    (116, 0xff55), (117, 0xffff), (119, 0xff57), (121, 0xff56), (122, 0xffbe), (120, 0xffbf),
    (99, 0xffc0), (118, 0xffc1), (96, 0xffc2), (97, 0xffc3), (98, 0xffc4), (100, 0xffc5),
    (101, 0xffc6), (109, 0xffc7), (103, 0xffc8), (111, 0xffc9), (105, 0xffca), (107, 0xffcb),
    (123, 0xff51), (124, 0xff53), (125, 0xff54), (126, 0xff52)]

def keysymForKeyCode (keyCode : UInt16) : Option UInt32 := keysyms.lookup keyCode

/-- The table of `modifierKeysym(for:)`. -/
def modifierKeysyms : List (UInt16 × UInt32) :=
  [(54, 0xffec), (55, 0xffeb), (56, 0xffe1), (57, 0xffe5), (58, 0xffe9), (59, 0xffe3),
    (60, 0xffe2), (61, 0xffea), (62, 0xffe4)]

def modifierKeysym (keyCode : UInt16) : Option UInt32 := modifierKeysyms.lookup keyCode

/-- `keysym(for: GuestKeyEvent)`. -/
def keysymForGuest (event : GuestKeyEvent) : Option UInt32 :=
  if event.isModifier then modifierKeysym event.keyCode else keysymForKeyCode event.keyCode

def modifierFlag (keyCode : UInt16) : Option ModifierFlags :=
  if keyCode = 54 ∨ keyCode = 55 then some .command
  else if keyCode = 56 ∨ keyCode = 60 then some .shift
  else if keyCode = 58 ∨ keyCode = 61 then some .option
  else if keyCode = 59 ∨ keyCode = 62 then some .control
  else none

end QEMUKeyMapper

end SimpleVM.Input
