import ScriptTypes.Unicode.Word

namespace ScriptTypes.Text

open ScriptTypes.Unicode (isExtender isPrintable)

def escapeChar (c : Char) : List Char :=
  if c = '\x00' then ['\\', '0']
  else if c = '\t' then ['\\', 't']
  else if c = '\r' then ['\\', 'r']
  else if c = '\n' then ['\\', 'n']
  else if c = '\\' then ['\\', '\\']
  else if c = '\x22' then ['\\', '\x22']
  else if isPrintable c && !isExtender c then [c]
  else ['\\', 'u', '\x7b'] ++ Nat.toDigits 16 c.toNat ++ ['\x7d']

def quoteChars (cs : List Char) : List Char := '\x22' :: cs.flatMap escapeChar ++ ['\x22']

def quoted (text : String) : String := .ofList (quoteChars text.toList)

def indent (text : String) : String := .ofList (moveIn true text.toList)
where
  moveIn (atStart : Bool) : List Char → List Char
    | [] => []
    | c :: rest =>
      let head := if atStart then List.replicate 4 ' ' else []
      head ++ c :: moveIn (c = '\n') rest

/-- A record of named fields in braces, on one line or with a line for each field. A record that
hides fields ends in two dots. -/
def recordText (pretty hides : Bool) (name : String) (fields : List (String × String)) : String :=
  let parts := fields.map fun (key, value) => key ++ ": " ++ value
  if pretty then
    let lines := parts.map (· ++ ",") ++ if hides then [".."] else []
    name ++ " \x7b\n" ++ String.join (lines.map fun l => indent l ++ "\n") ++ "\x7d"
  else
    name ++ " \x7b " ++ ", ".intercalate (parts ++ if hides then [".."] else []) ++ " \x7d"

end ScriptTypes.Text
