/-!
White space at the ends of a text. A character is blank when it has the Unicode property
White_Space; a text is blank when all its characters are.
-/
namespace SqlComposer.Text

def isBlankChar (c : Char) : Bool :=
  let code := c.toNat
  (0x9 ≤ code && code ≤ 0xD) || code == 0x20 || code == 0x85 || code == 0xA0 || code == 0x1680 ||
    (0x2000 ≤ code && code ≤ 0x200A) || code == 0x2028 || code == 0x2029 || code == 0x202F ||
    code == 0x205F || code == 0x3000

def isBlank (text : String) : Bool :=
  text.toList.all isBlankChar

def trimChars (chars : List Char) : List Char :=
  ((chars.dropWhile isBlankChar).reverse.dropWhile isBlankChar).reverse

def trim (text : String) : String :=
  String.ofList (trimChars text.toList)

end SqlComposer.Text
