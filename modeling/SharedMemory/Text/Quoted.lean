import SharedMemory.Text.Extending
import SharedMemory.Text.Hidden
import SharedMemory.Text.Ignorable

/-!
# Quoted text

Text between double quotes in which quotes, backslashes and everything that does not
show by itself are written as escapes.
-/

namespace SharedMemory

namespace Text

/-- The two halfwidth katakana sound marks. They extend the kana before them and yet
take a place of their own, so they show. -/
def isHalfwidthSoundMark (c : Char) : Bool :=
  c == 'ﾞ' || c == 'ﾟ'

/-- Whether a character shows by itself: it is not hidden, no display leaves it out, and
it does not melt into the character before it. -/
def isShown (c : Char) : Bool :=
  !isHidden c && !isIgnorable c && (!isExtending c || isHalfwidthSoundMark c)

/-- The hexadecimal code point between braces. -/
def escapedCodePoint (c : Char) : List Char :=
  ['\\', 'u', '\x7b'] ++ Nat.toDigits 16 c.toNat ++ ['\x7d']

/-- One character as it is written between double quotes. -/
def escaped (c : Char) : List Char :=
  if c = '"' then ['\\', '"']
  else if c = '\\' then ['\\', '\\']
  else if c = '\n' then ['\\', 'n']
  else if c = '\r' then ['\\', 'r']
  else if c = '\t' then ['\\', 't']
  else if c = '\x00' then ['\\', '0']
  else if isShown c then [c]
  else escapedCodePoint c

/-- The text between double quotes. -/
def quoted (s : String) : String :=
  String.ofList (['"'] ++ s.toList.flatMap escaped ++ ['"'])

/-- Among the ASCII characters, all but the controls show. -/
theorem isShown_of_ascii {c : Char} (ascii : c.toNat < 0x80) :
    isShown c = (0x20 ≤ c.toNat && c.toNat != 0x7f) := by
  rw [isShown, isHidden_of_ascii ascii, isIgnorable_eq_false_of_lt (by omega),
    isExtending_eq_false_of_lt (by omega)]
  grind

end Text

end SharedMemory
