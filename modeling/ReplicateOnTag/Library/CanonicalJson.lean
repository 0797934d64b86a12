import ReplicateOnTag.Library.Dict
import Mathlib.Data.List.Sort
import Mathlib.Data.String.Basic

/-! Canonical JSON text of a string map: keys sorted by code point, no spaces,
every character outside printable ASCII escaped. -/
namespace ReplicateOnTag.CanonicalJson

def hexDigit (n : Nat) : Char := "0123456789abcdef".toList.getD n '0'

def hex4 (n : Nat) : List Char :=
  [hexDigit (n / 4096 % 16), hexDigit (n / 256 % 16), hexDigit (n / 16 % 16), hexDigit (n % 16)]

def unicodeEscape (n : Nat) : List Char := '\\' :: 'u' :: hex4 n

/-- A character above `U+FFFF` is written as its UTF-16 surrogate pair. -/
def escapeChar (c : Char) : List Char :=
  if c = '"' then ['\\', '"']
  else if c = '\\' then ['\\', '\\']
  else if c = '\n' then ['\\', 'n']
  else if c = '\r' then ['\\', 'r']
  else if c = '\t' then ['\\', 't']
  else if c.toNat = 0x0c then ['\\', 'f']
  else if c.toNat = 0x08 then ['\\', 'b']
  else if 0x20 ≤ c.toNat ∧ c.toNat ≤ 0x7e then [c]
  else if c.toNat < 0x10000 then unicodeEscape c.toNat
  else
    unicodeEscape (0xd800 + (c.toNat - 0x10000) / 0x400) ++
      unicodeEscape (0xdc00 + (c.toNat - 0x10000) % 0x400)

def quote (text : String) : List Char := '"' :: text.toList.flatMap escapeChar ++ ['"']

def member (entry : String × String) : List Char := quote entry.1 ++ ':' :: quote entry.2

def sortedEntries (map : Dict String String) : List (String × String) :=
  map.entries.insertionSort fun first second => first.1 ≤ second.1

/-- `json.dumps(map, sort_keys=True, separators=(",", ":"))`. -/
def dumps (map : Dict String String) : String :=
  String.ofList ('{' :: [','].intercalate ((sortedEntries map).map member) ++ ['}'])

end ReplicateOnTag.CanonicalJson
