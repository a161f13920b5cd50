import Mathlib.Data.List.Infix

namespace Sealwire

/-- `char::is_whitespace`: the characters of the Unicode `White_Space` property. -/
def isWhitespace (c : Char) : Bool :=
  let n := c.toNat
  (9 ≤ n && n ≤ 13) || n == 0x20 || n == 0x85 || n == 0xA0 || n == 0x1680 || (0x2000 ≤ n && n ≤ 0x200A) ||
    n == 0x2028 || n == 0x2029 || n == 0x202F || n == 0x205F || n == 0x3000

/-- `str::trim`. -/
def trim (s : String) : String :=
  String.ofList ((s.toList.dropWhile isWhitespace).reverse.dropWhile isWhitespace).reverse

/-- `str::eq_ignore_ascii_case`. -/
def eqIgnoreAsciiCase (a b : String) : Bool :=
  a.toList.map Char.toLower == b.toList.map Char.toLower

/-- `str::contains` of a string. -/
def containsText (s part : String) : Bool :=
  decide (part.toList <:+: s.toList)

/-- The number of UTF-16 code units. -/
def utf16Count (s : String) : UInt64 :=
  UInt64.ofNat (s.toList.foldl (fun count c => if c.toNat < 0x10000 then count + 1 else count + 2) 0)

end Sealwire
