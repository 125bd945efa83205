namespace ProfileSession.Html

-- The characters that have a meaning, each with its entity. The ampersand is replaced first, since
-- all entities begin with one.
def entities : List (Char × List Char) :=
  [('&', "&amp;".toList), ('<', "&lt;".toList), ('>', "&gt;".toList), ('"', "&quot;".toList),
    ('\'', "&#39;".toList)]

-- Puts a text in the place of a character, wherever it stands.
def replace (old : Char) (new : List Char) (cs : List Char) : List Char :=
  cs.flatMap fun c => if c = old then new else [c]

def escapeList (cs : List Char) : List Char :=
  entities.foldl (fun cs e => replace e.1 e.2 cs) cs

def escape (s : String) : String := String.ofList (escapeList s.toList)

end ProfileSession.Html
