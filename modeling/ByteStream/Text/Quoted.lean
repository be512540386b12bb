/-
# ByteStream.Text.Quoted -- how a value is shown to a developer

The developer's view of a value is one line: texts are quoted, an optional value is `None` or
`Some(...)`, a list is bracketed, and a record is its name with the fields in braces. A record
that hides fields ends with two dots. Inside quotes a character without a look of its own is
written by its code point in hexadecimal.
-/

import ByteStream.Text.Printable

namespace ByteStream.Text

/-! ## Characters and texts -/

/-- The opening and closing brace of a record. -/
def openBrace : String := "\x7b"

/-- Closes what `openBrace` opens. -/
def closeBrace : String := "\x7d"

/-- A character as it stands between quotes. -/
def quotedChar (c : Char) : List Char :=
  if c = '\x00' then ['\\', '0']
  else if c = '\t' then ['\\', 't']
  else if c = '\r' then ['\\', 'r']
  else if c = '\n' then ['\\', 'n']
  else if c = '\\' then ['\\', '\\']
  else if c = '"' then ['\\', '"']
  else if isPrintable c then [c]
  else ['\\', 'u', '\x7b'] ++ Nat.toDigits 16 c.toNat ++ ['\x7d']

/-- A text in double quotes. -/
def quoted (s : String) : String :=
  String.ofList ('"' :: s.toList.flatMap quotedChar ++ ['"'])

/-! ## Optional values, lists, pairs and records -/

/-- An optional value, by the view of what it holds. -/
def shownOption {α : Type} (view : α → String) : Option α → String
  | none => "None"
  | some a => "Some(" ++ view a ++ ")"

/-- A list in square brackets. -/
def shownList {α : Type} (view : α → String) (xs : List α) : String :=
  "[" ++ ", ".intercalate (xs.map view) ++ "]"

/-- A pair of texts. -/
def shownPair (p : String × String) : String := "(" ++ quoted p.1 ++ ", " ++ quoted p.2 ++ ")"

/-- A truth value. -/
def shownBool : Bool → String
  | true => "true"
  | false => "false"

/-- A record: its name and its fields, each with its view. `partly` says that it has more fields
than it shows. -/
def shownRecord (name : String) (fields : List (String × String)) (partly : Bool) : String :=
  let shown := fields.map fun (field, view) => field ++ ": " ++ view
  name ++ " " ++ openBrace ++ " " ++ ", ".intercalate (if partly then shown ++ [".."] else shown)
    ++ " " ++ closeBrace

end ByteStream.Text
