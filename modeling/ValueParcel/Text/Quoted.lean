import ValueParcel.Text.Extender
import ValueParcel.Text.Printable

/-!
Quoted text: a quote and a backslash are escaped, and so is every character that would not show by itself, as a code
point in braces.
-/

namespace ValueParcel.Text

/-- The digits of `n` to the base sixteen, the last one first. -/
def hexReversed (n : Nat) : List Char :=
  Nat.digitChar (n % 16) :: if _h : n < 16 then [] else hexReversed (n / 16)
termination_by n

/-- The character would stand alone and show: it leaves a mark and attaches to no other. The halfwidth voicing marks
attach to the letter before them, but take a place of their own. -/
def showsAlone (c : Char) : Bool :=
  isPrintable c && (!isExtender c || c = '\uff9e' || c = '\uff9f')

/-- A character as it stands between quotes. -/
def escape (c : Char) : List Char :=
  match c.toNat with
  | 0x00 => ['\\', '0']
  | 0x09 => ['\\', 't']
  | 0x0a => ['\\', 'n']
  | 0x0d => ['\\', 'r']
  | 0x22 | 0x5c => ['\\', c]
  | n =>
    if showsAlone c then [c]
    else ['\\', 'u', '\x7b'] ++ (hexReversed n).reverse ++ ['\x7d']

def quoted (text : String) : String :=
  String.ofList (['\x22'] ++ text.toList.flatMap escape ++ ['\x22'])

end ValueParcel.Text
