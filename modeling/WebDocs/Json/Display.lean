import WebDocs.Json.Printer

namespace WebDocs.Json

def displayString (s : Text) : List Char := Text.Quoted.encode s.toList

mutual

def display : Json → List Char
  | null => "None".toList
  | bool true => "True".toList
  | bool false => "False".toList
  | int n => printInt n
  | float x => x.text
  | str s => displayString s
  | arr [] => ['[', ']']
  | arr (item :: rest) => '[' :: display item ++ displayItems rest
  | obj [] => ['\x7b', '\x7d']
  | obj ((key, value) :: rest) =>
    '\x7b' :: displayString key ++ ':' :: ' ' :: display value ++ displayMembers rest

/-- The items behind the first one, and the bracket. -/
def displayItems : List Json → List Char
  | [] => [']']
  | item :: rest => ',' :: ' ' :: display item ++ displayItems rest

def displayMembers : List (Text × Json) → List Char
  | [] => ['\x7d']
  | (key, value) :: rest =>
    ',' :: ' ' :: displayString key ++ ':' :: ' ' :: display value ++ displayMembers rest

end

def displayText (value : Json) : String := String.ofList value.display

/-- A text as itself, any other value as messages show it. -/
def plainText : Json → Text
  | str s => s
  | value => value.displayText

/-- The name messages give to the kind of a value. -/
def kindWord : Json → String
  | null => "NoneType"
  | bool _ => "bool"
  | int _ => "int"
  | float _ => "float"
  | str _ => "str"
  | arr _ => "list"
  | obj _ => "dict"

end WebDocs.Json
