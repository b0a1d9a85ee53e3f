import MonkeyLang.Text.Printable

/-! Quoted form of a text for messages. It stands between apostrophes, or between double quotes
when it has an apostrophe and no double quote; what cannot be shown is written as an escape. -/

namespace MonkeyLang

def apostrophe : Char := '\x27'

def doubleQuote : Char := '\x22'

def backslash : Char := '\\'

def quoteMark (chars : List Char) : Char :=
  if chars.contains apostrophe && !chars.contains doubleQuote then doubleQuote else apostrophe

def hexDigits (width : Nat) (char : Char) : List Char :=
  (Nat.toDigits 16 char.toNat).leftpad width '0'

def hexEscape (char : Char) : List Char :=
  if char.toNat < 0x100 then backslash :: 'x' :: hexDigits 2 char
  else if char.toNat < 0x10000 then backslash :: 'u' :: hexDigits 4 char
  else backslash :: 'U' :: hexDigits 8 char

def quotedChar (mark char : Char) : List Char :=
  if char = mark || char = backslash then [backslash, char]
  else if char = '\n' then [backslash, 'n']
  else if char = '\r' then [backslash, 'r']
  else if char = '\t' then [backslash, 't']
  else if isPrintable char then [char]
  else hexEscape char

def quotedChars (chars : List Char) : List Char :=
  let mark := quoteMark chars
  mark :: chars.flatMap (quotedChar mark) ++ [mark]

def quoted (text : String) : String := String.ofList (quotedChars text.toList)

end MonkeyLang
