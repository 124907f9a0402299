import WebDocs.Text.Basic

namespace WebDocs.Text.Escape

/-- The entities of the two quotes. -/
structure Style where
  double : List CodePoint
  single : List CodePoint

/-- The style of fragments. -/
def html : Style := ⟨("&quot;" : Text).toList, ("&#x27;" : Text).toList⟩

/-- The style of the page around them. -/
def page : Style := ⟨("&#34;" : Text).toList, ("&#39;" : Text).toList⟩

def encodeChar (style : Style) : CodePoint → List CodePoint
  | .scalar '&' => ("&amp;" : Text).toList
  | .scalar '<' => ("&lt;" : Text).toList
  | .scalar '>' => ("&gt;" : Text).toList
  | .scalar '"' => style.double
  | .scalar '\'' => style.single
  | c => [c]

def encode (style : Style) (s : List CodePoint) : List CodePoint := s.flatMap (encodeChar style)

end WebDocs.Text.Escape
