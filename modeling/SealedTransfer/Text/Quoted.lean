/-
# SealedTransfer.Text.Quoted — text shown between quotation marks

Messages that report a received name show it in double quotes. The quotation is unambiguous: quotes
and backslashes are escaped, the common controls have short escapes, and every other concealed
character is written as its code point in braces. A single quote needs no escape.
-/
import SealedTransfer.Text.Concealed
import SealedTransfer.Text.Digits

namespace SealedTransfer.Text

/-- One character inside a quotation. -/
def quoteChar (c : Char) : List Char :=
  if c = '"' then ['\\', '"']
  else if c = '\\' then ['\\', '\\']
  else if c.toNat = 0 then ['\\', '0']
  else if c = '\t' then ['\\', 't']
  else if c = '\n' then ['\\', 'n']
  else if c = '\r' then ['\\', 'r']
  else if isConcealed c then ['\\', 'u', '{'] ++ digits 16 c.toNat ++ ['}']
  else [c]

/-- A text in double quotes. -/
def quoted (text : String) : String :=
  String.ofList ('"' :: text.toList.flatMap quoteChar ++ ['"'])

end SealedTransfer.Text
