import Launchpad.Text.Printable

/-!
# Quoted texts

The inspection text of a string: in double quotes, with a backslash before quotes and backslashes,
letters for the common controls, and the hexadecimal code point of every other character that is
not printable. `quotedList` shows a list of strings in brackets; `inspectedFields` and
`inspectedTuple` show values with named and unnamed components.
-/

namespace Launchpad.Text

/-- The lower-case hexadecimal digits of a number, without leading zeros. -/
def hexadecimal (number : Nat) : List Char := Nat.toDigits 16 number

/-- How one character is written inside quotes. -/
def escaped (c : Char) : List Char :=
  match c with
  | '\x00' => ['\\', '0']
  | '\t' => ['\\', 't']
  | '\r' => ['\\', 'r']
  | '\n' => ['\\', 'n']
  | '"' => ['\\', '"']
  | '\\' => ['\\', '\\']
  | c =>
    if isPrintable c then [c] else ['\\', 'u', '\x7b'] ++ hexadecimal c.toNat ++ ['\x7d']

/-- The inspection text of a string. -/
def quoted (text : String) : String :=
  String.ofList ('"' :: text.toList.flatMap escaped ++ ['"'])

/-- The inspection text of a list of strings. -/
def quotedList (texts : List String) : String :=
  "[" ++ ", ".intercalate (texts.map quoted) ++ "]"

/-- Named fields of an inspection text, in braces after the name. -/
def inspectedFields (name : String) (fields : List (String × String)) : String :=
  name ++ " \x7b " ++
    ", ".intercalate (fields.map fun field => field.1 ++ ": " ++ field.2) ++ " \x7d"

/-- A single unnamed component of an inspection text, in parentheses after the name. -/
def inspectedTuple (name component : String) : String := name ++ "(" ++ component ++ ")"

/-- The inspection text of an optional value, given that of the value. -/
def quotedOption (value : Option String) : String :=
  match value with
  | none => "None"
  | some shown => inspectedTuple "Some" shown

end Launchpad.Text
