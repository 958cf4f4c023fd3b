/-
  Visuara.Common.Text
  ───────────────────
  **THE STRING FUNCTIONS OF RUST'S STANDARD LIBRARY** the code relies on,
  as functions on lists of characters.
-/
import Mathlib.Data.List.Basic

namespace Visuara.Text

/-- `char::is_whitespace`: the Unicode property `White_Space`. -/
def isWhitespace (c : Char) : Bool :=
  let n := c.toNat
  (9 ≤ n && n ≤ 13) || n == 0x20 || n == 0x85 || n == 0xA0 || n == 0x1680
    || (0x2000 ≤ n && n ≤ 0x200A) || n == 0x2028 || n == 0x2029 || n == 0x202F
    || n == 0x205F || n == 0x3000

/-- `str::trim`. -/
def trim (l : List Char) : List Char :=
  ((l.dropWhile isWhitespace).reverse.dropWhile isWhitespace).reverse

/-- `str::split_once`, at a single character. -/
def splitOnce (c : Char) : List Char → Option (List Char × List Char)
  | [] => none
  | x :: l => if x = c then some ([], l) else (splitOnce c l).map fun p => (x :: p.1, p.2)

/-- `str::contains`. -/
def contains (l pat : List Char) : Bool := l.tails.any pat.isPrefixOf

-- Sealed: the elaborator would compute it wherever a handler tests a trimmed field.
@[irreducible] def trimString (s : String) : String := String.ofList (trim s.toList)

def containsString (s pat : String) : Bool := contains s.toList pat.toList

end Visuara.Text
