/-!
# Blank characters

The characters that count as white space when a text is trimmed, and when an exclusion pattern
asks for a blank.

## Main definitions

* `isBlank` — the white space characters
* `isBlankText` — a text without any other character
-/

namespace DocStubs

/-- Whether a character is white space. -/
def isBlank (c : Char) : Bool :=
  let code := c.toNat
  (9 ≤ code && code ≤ 13) || code = 32 || code = 0x85 || code = 0xA0 || code = 0x1680 ||
    (0x2000 ≤ code && code ≤ 0x200A) || code = 0x2028 || code = 0x2029 || code = 0x202F ||
    code = 0x205F || code = 0x3000

/-- Whether nothing remains of a text once white space is trimmed. -/
def isBlankText (text : String) : Bool := text.toList.all isBlank

end DocStubs
