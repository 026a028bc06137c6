/-
Blank text: text in which nothing but Unicode white space stands.
-/
namespace Investigations.Text

/-- White space, by the Unicode property of that name: 25 characters in all. -/
def isBlank (c : Char) : Bool :=
  let n := c.toNat
  (0x9 ≤ n && n ≤ 0xD) || n = 0x20 || n = 0x85 || n = 0xA0 || n = 0x1680 ||
    (0x2000 ≤ n && n ≤ 0x200A) || n = 0x2028 || n = 0x2029 || n = 0x202F || n = 0x205F || n = 0x3000

/-- A text without a character that is not white space; the empty text is one. -/
def allBlank (text : String) : Bool :=
  text.toList.all isBlank

end Investigations.Text
