import WebDocs.Dump.Basic
import WebDocs.Json.Display

namespace WebDocs.Val

def displayTag (tag : Tag) : List Char := tag.elim "None".toList Json.displayString

mutual

def display : Val → List Char
  | tuple name args =>
    "TupleVal(name=".toList ++ Json.displayString name ++ ", args=\x7b".toList ++
      displayArgs true args ++ "\x7d)".toList
  | str s => "StrVal(value=".toList ++ Json.displayString s ++ [')']
  | int n => "IntVal(value=".toList ++ Json.printInt n ++ [')']
  | float x => "FloatVal(value=".toList ++ x.text ++ [')']
  | unknown tag raw =>
    "UnknownVal(tag=".toList ++ displayTag tag ++ ", raw=".toList ++ raw.display ++ [')']

/-- The arguments; all but the first follow a comma. -/
def displayArgs (first : Bool) : List (Text × Val) → List Char
  | [] => []
  | (name, value) :: rest =>
    (if first then [] else ", ".toList) ++ Json.displayString name ++ ": ".toList ++
      display value ++ displayArgs false rest

end

def displayText (value : Val) : String := String.ofList value.display

end WebDocs.Val
