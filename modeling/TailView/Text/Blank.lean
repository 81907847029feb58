/-!
# Blank characters and trimming

White space is the Unicode property of that name.  Trimming removes it from the ends of a text
and leaves the inside alone.
-/

namespace TailView
namespace Text

/-- The characters with the Unicode property `White_Space`. -/
def isBlank (c : Char) : Bool :=
  let n := c.toNat
  (9 ≤ n && n ≤ 13) || n = 0x20 || n = 0x85 || n = 0xA0 || n = 0x1680 ||
    (0x2000 ≤ n && n ≤ 0x200A) || n = 0x2028 || n = 0x2029 || n = 0x202F || n = 0x205F || n = 0x3000

/-- The characters with all leading ones that satisfy `drop` removed, then all trailing ones. -/
def stripWhere (drop : Char → Bool) (cs : List Char) : List Char :=
  ((cs.dropWhile drop).reverse.dropWhile drop).reverse

/-- The characters with all trailing ones that satisfy `drop` removed. -/
def stripEndWhere (drop : Char → Bool) (cs : List Char) : List Char :=
  (cs.reverse.dropWhile drop).reverse

/-- Characters without leading and trailing white space. -/
def trimChars (cs : List Char) : List Char := stripWhere isBlank cs

end Text
end TailView
