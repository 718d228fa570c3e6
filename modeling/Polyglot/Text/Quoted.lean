/-
This file defines string literals. A literal stands between double quotes; inside it the
backslash, the double quote, a few controls, and every character that could not be read in
place are written as escapes.
-/

import Polyglot.Text.GraphemeExtend
import Polyglot.Text.Unprintable

namespace Polyglot.Text

/-- The escape of a character by its code point in hexadecimal digits. -/
def codeEscape (character : Char) : List Char :=
  ['\\', 'u', '\x7b'] ++ Nat.toDigits 16 character.toNat ++ ['\x7d']

/-- Must the character be written by its code point? -/
def needsCodeEscape (character : Char) : Bool :=
  isGraphemeExtend character || isUnprintable character

/-- The written form of one character inside a literal. -/
def escape (character : Char) : List Char :=
  if character.toNat = 0 then ['\\', '0']
  else if character = '\t' then ['\\', 't']
  else if character = '\r' then ['\\', 'r']
  else if character = '\n' then ['\\', 'n']
  else if character = '\\' then ['\\', '\\']
  else if character = '"' then ['\\', '"']
  else if needsCodeEscape character then codeEscape character
  else [character]

/-- The literal of a text. -/
def quoted (text : String) : String :=
  String.ofList (['"'] ++ text.toList.flatMap escape ++ ['"'])

theorem toList_quoted (text : String) :
    (quoted text).toList = ['"'] ++ text.toList.flatMap escape ++ ['"'] := by
  simp [quoted]

end Polyglot.Text
