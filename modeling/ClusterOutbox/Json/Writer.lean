import ClusterOutbox.Text.Hex

namespace ClusterOutbox.Json

/-- A character within a string: quotes, backslashes and control characters are escaped. -/
def writeChar (c : Char) : List Char :=
  if c = '"' then ['\\', '"']
  else if c = '\\' then ['\\', '\\']
  else if c = '\x08' then ['\\', 'b']
  else if c = '\t' then ['\\', 't']
  else if c = '\n' then ['\\', 'n']
  else if c = '\x0c' then ['\\', 'f']
  else if c = '\r' then ['\\', 'r']
  else if c.toNat < 0x20 then
    ['\\', 'u', '0', '0', hexDigit (c.toNat / 16), hexDigit (c.toNat % 16)]
  else [c]

def writeString (s : String) : List Char :=
  '"' :: (s.toList.flatMap writeChar ++ ['"'])

/-- Parts of a container, with a comma between each two. -/
def commaSeparated : List (List Char) → List Char
  | [] => []
  | [part] => part
  | part :: rest => part ++ ',' :: commaSeparated rest

def writeMember (key : String) (value : List Char) : List Char :=
  writeString key ++ ':' :: value

/-- An object of members already written. -/
def writeObject (members : List (String × List Char)) : List Char :=
  '{' :: (commaSeparated (members.map fun (k, v) => writeMember k v) ++ ['}'])

end ClusterOutbox.Json
