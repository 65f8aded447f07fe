import StyleBuild.Text.Property

/-!
# Quoted text in messages

Messages show a name in double quotes and a character in single quotes. What takes no space of its
own, and white space other than a space, is written by its code, so that a reader sees what is
there.
-/

namespace StyleBuild

/-- The characters that messages show as they are: those that take space of their own, and of
white space the space alone. -/
def shownInMessages : CharSet := CharSet.graphemeBase.diff (Category.charSet [.zs])

/-- Whether messages show a character by its code. -/
def isHidden (c : Char) : Bool :=
  if c.toNat < 128 then c.toNat < 32 || c.toNat == 127 else !shownInMessages.contains c

/-- One character inside quotes; `quote` is the delimiter, which is escaped. -/
def quotedChar (quote c : Char) : String :=
  if c = quote ∨ c = '\\' then String.ofList ['\\', c]
  else if c = '\n' then "\\n"
  else if c = '\r' then "\\r"
  else if c = '\t' then "\\t"
  else if c.toNat = 0 then "\\0"
  else if isHidden c then "\\u\x7b" ++ hexText c.toNat ++ "\x7d"
  else c.toString

/-- A text in double quotes. -/
def quotedText (s : String) : String :=
  "\"" ++ String.join (s.toList.map (quotedChar '"')) ++ "\""

/-- A character in single quotes. -/
def quotedSymbol (c : Char) : String := "'" ++ quotedChar '\'' c ++ "'"

end StyleBuild
