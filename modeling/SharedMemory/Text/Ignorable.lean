import SharedMemory.Text.CodeRange

/-!
# Ignorable characters

The characters that a display leaves out when it has no special treatment for them:
soft hyphen, joiners, fillers, variation selectors, direction marks and tags, with the
code points kept free for more of the kind. This is the property
Default_Ignorable_Code_Point of Unicode 17.0, as closed ranges of code points. Most of
these characters are also hidden or extending; the Hangul fillers are letters, and only
this property tells that nothing is seen of them.
-/

namespace SharedMemory

namespace Text

/-- All ranges of ignorable characters. -/
def ignorableRanges : List (Nat × Nat) :=
  [(0xad, 0xad), (0x34f, 0x34f), (0x61c, 0x61c), (0x115f, 0x1160), (0x17b4, 0x17b5),
    (0x180b, 0x180f), (0x200b, 0x200f), (0x202a, 0x202e), (0x2060, 0x206f), (0x3164, 0x3164),
    (0xfe00, 0xfe0f), (0xfeff, 0xfeff), (0xffa0, 0xffa0), (0xfff0, 0xfff8),
    (0x1bca0, 0x1bca3), (0x1d173, 0x1d17a), (0xe0000, 0xe0fff)]

/-- Whether a display may leave a character out. -/
def isIgnorable (c : Char) : Bool :=
  inRanges ignorableRanges c.toNat

private theorem ascending_ignorableRanges : ascending ignorableRanges = true := by
  decide

/-- No ignorable character is below the soft hyphen. -/
theorem isIgnorable_eq_false_of_lt {c : Char} (early : c.toNat < 0xad) :
    isIgnorable c = false :=
  inRanges_eq_false_of_lt ascending_ignorableRanges fun _ first => by cases first; exact early

end Text

end SharedMemory
