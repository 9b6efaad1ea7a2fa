import Tabular.Text.Hex
import Tabular.Text.Printable

/-!
This module writes texts and byte strings as literals for messages. A literal stands in single
quotes, or in double quotes where the content has single quotes only.
-/

namespace Tabular.Text

/-- This function chooses the quote of a literal. -/
def literalQuote (cs : List Char) : Char :=
  if cs.contains '\'' && !cs.contains '"' then '"' else '\''

/-- This function writes a character by its code point in the shortest of the three forms. -/
def codeEscape (c : Char) : List Char :=
  if c.toNat < 0x100 then '\\' :: 'x' :: hexDigits 2 c.toNat
  else if c.toNat < 0x10000 then '\\' :: 'u' :: hexDigits 4 c.toNat
  else '\\' :: 'U' :: hexDigits 8 c.toNat

def literalChar (quote c : Char) : List Char :=
  if c = quote || c = '\\' then ['\\', c]
  else if c = '\t' then ['\\', 't']
  else if c = '\n' then ['\\', 'n']
  else if c = '\r' then ['\\', 'r']
  else if 0x20 ≤ c.toNat && c.toNat < 0x7f then [c]
  else if isPrintable c then [c]
  else codeEscape c

/-- This function writes a text as a literal. -/
def literal (s : String) : String :=
  let cs := s.toList
  let quote := literalQuote cs
  String.ofList (quote :: cs.flatMap (literalChar quote) ++ [quote])

def literalByte (quote : Char) (byte : UInt8) : List Char :=
  let c := Char.ofNat byte.toNat
  if c = quote || c = '\\' then ['\\', c]
  else if c = '\t' then ['\\', 't']
  else if c = '\n' then ['\\', 'n']
  else if c = '\r' then ['\\', 'r']
  else if 0x20 ≤ byte.toNat && byte.toNat < 0x7f then [c]
  else '\\' :: 'x' :: hexDigits 2 byte.toNat

/-- This function writes a byte string as a literal. Only printable ASCII is shown as it is. -/
def byteLiteral (bytes : List UInt8) : String :=
  let quote := literalQuote (bytes.map fun byte => Char.ofNat byte.toNat)
  String.ofList ('b' :: quote :: bytes.flatMap (literalByte quote) ++ [quote])

example : literal "it's" = "\"it's\"" := by decide +kernel

example : literal "a\u0085é" = "'a\\x85é'" := by decide +kernel

example : byteLiteral [0x61, 0x27, 0xff] = "b\"a'\\xff\"" := by decide +kernel

end Tabular.Text
