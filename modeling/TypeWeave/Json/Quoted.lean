import TypeWeave.Text.Quoted

/-!
# Quoted strings of JSON

A string between double quotes in ASCII: quotes, backslashes and control characters are escaped, and
so is every character outside ASCII, beyond the basic plane as a pair of surrogates.
-/

namespace TypeWeave.Json

/-- The escape of a unit of sixteen bits. -/
def unitEscape (n : Nat) : List Char := '\\' :: 'u' :: Text.hexDigits 4 n

/-- The escape of a character by its code. -/
def codeEscape (n : Nat) : List Char :=
  if n < 0x10000 then unitEscape n
  else unitEscape (0xD800 + (n - 0x10000) / 0x400) ++ unitEscape (0xDC00 + (n - 0x10000) % 0x400)

/-- One character of a quoted string. -/
def quoteChar (c : Char) : List Char :=
  match c with
  | '"' => ['\\', '"']
  | '\\' => ['\\', '\\']
  | '\n' => ['\\', 'n']
  | '\r' => ['\\', 'r']
  | '\t' => ['\\', 't']
  | '\x0c' => ['\\', 'f']
  | '\x08' => ['\\', 'b']
  | c => if 0x20 ≤ c.toNat && c.toNat < 0x7F then [c] else codeEscape c.toNat

/-- A quoted string. -/
def quote (cs : List Char) : List Char := '"' :: cs.flatMap quoteChar ++ ['"']

/-- A quoted string. -/
def quoteString (s : String) : String := String.ofList (quote s.toList)

end TypeWeave.Json
