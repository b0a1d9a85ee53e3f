import MonkeyLang.Text.CharRanges

/-! White space, in the wide sense that counts the information separators and the next-line
control as well, and trimming it from both ends of a text. -/

namespace MonkeyLang

def blankRanges : CharRanges :=
  [
    (0x9, 0xd), (0x1c, 0x20), (0x85, 0x85), (0xa0, 0xa0), (0x1680, 0x1680), (0x2000, 0x200a),
    (0x2028, 0x2029), (0x202f, 0x202f), (0x205f, 0x205f), (0x3000, 0x3000)
  ]

def isBlank (char : Char) : Bool := blankRanges.has char

def trimChars (chars : List Char) : List Char :=
  ((chars.dropWhile isBlank).reverse.dropWhile isBlank).reverse

def trim (text : String) : String := String.ofList (trimChars text.toList)

end MonkeyLang
