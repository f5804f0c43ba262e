import PreviewServer.Text.Printable

/-!
# Quoted texts and lists

How texts, lists and truth values are shown in reports: a text stands between double quotes, with
quotes, backslashes and unprintable characters escaped.

## Main definitions

* `escapeChar`: the shown form of one character
* `quoted`: the shown form of a text
* `listed`: the shown form of a list
-/

namespace PreviewServer

/-- The shown form of a character inside quotes. Five controls and the two marks of the notation
have short escapes; other characters without a visible form are given by their code point. -/
def escapeChar (c : Char) : List Char :=
  if c = '"' then ['\\', '"']
  else if c = '\\' then ['\\', '\\']
  else if c = '\n' then ['\\', 'n']
  else if c = '\r' then ['\\', 'r']
  else if c = '\t' then ['\\', 't']
  else if c = '\x00' then ['\\', '0']
  else if isPrintable c then [c]
  else ['\\', 'u', '\x7b'] ++ Nat.toDigits 16 c.toNat ++ ['\x7d']

/-- The shown form of a text. -/
def quoted (s : String) : String :=
  String.ofList ('"' :: (s.toList.flatMap escapeChar ++ ['"']))

/-- The shown form of a list, from the shown forms of its members. -/
def listed (items : List String) : String :=
  "[" ++ ", ".intercalate items ++ "]"

/-- The shown form of a pair of texts. -/
def quotedPair (a b : String) : String :=
  "(" ++ quoted a ++ ", " ++ quoted b ++ ")"

/-- The shown form of a truth value. -/
def shownBool (b : Bool) : String :=
  if b then "true" else "false"

end PreviewServer
