import ProfileSession.Text.Split

namespace ProfileSession

structure Header where
  -- In lower case.
  name : String
  value : String
  -- Whether diagnostics must not show the value.
  sensitive : Bool := false
deriving DecidableEq, Repr

namespace Header

-- Characters that a value may not hold: controls other than a tab.
def isIllegal (c : Char) : Bool := (c.toNat < 0x20 && c != '\t') || c.toNat == 0x7F

def isLegalValue (s : String) : Bool := !s.any isIllegal

end Header

abbrev Headers := List Header

namespace Headers

def has (name : String) (hs : Headers) : Bool := hs.any fun h => h.name == name

def values (name : String) (hs : Headers) : List String :=
  (hs.filter fun h => h.name == name).map Header.value

def get? (name : String) (hs : Headers) : Option String := (values name hs).head?

def remove (names : List String) (hs : Headers) : Headers :=
  hs.filter fun h => !names.contains h.name

-- Adds a field beside those of its name.
def append (h : Header) (hs : Headers) : Headers := hs ++ [h]

-- Adds a field unless there is one of its name.
def insertNew (h : Header) (hs : Headers) : Headers := if has h.name hs then hs else hs ++ [h]

-- Adds fields. Each name they bring loses the values it had.
def extend (hs more : Headers) : Headers := remove (more.map Header.name) hs ++ more

theorem values_append (name : String) (hs more : Headers) :
    values name (hs ++ more) = values name hs ++ values name more := by
  simp [values, List.filter_append]

theorem values_remove (name : String) (names : List String) (hs : Headers) :
    values name (remove names hs) = if name ∈ names then [] else values name hs := by
  induction hs with
  | nil => simp [remove, values]
  | cons h hs ih =>
    simp only [remove, values] at ih ⊢
    by_cases hn : h.name = name
    · subst hn
      by_cases hm : h.name ∈ names <;> simp_all
    · by_cases hm : h.name ∈ names <;> simp_all

end Headers

end ProfileSession
