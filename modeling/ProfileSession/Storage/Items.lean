namespace ProfileSession

abbrev Items := List (String × String)

namespace Items

def get? (name : String) (items : Items) : Option String := items.lookup name

-- Gives a name its text. A new name goes before the first that is greater.
def insert (name text : String) : Items → Items
  | [] => [(name, text)]
  | e :: es =>
    if name = e.1 then (name, text) :: es
    else if name < e.1 then (name, text) :: e :: es
    else e :: insert name text es

def erase (name : String) (items : Items) : Items := items.filter fun e => e.1 != name

-- Sorts entries by name.
def ofEntries (es : List (String × String)) : Items :=
  es.foldl (fun items e => items.insert e.1 e.2) []

theorem get?_cons (name key text : String) (items : Items) :
    get? key ((name, text) :: items) = if key = name then some text else get? key items := by
  by_cases h : key = name
  · simp [get?, h]
  · have h' : (key == name) = false := by simpa using h
    rw [if_neg h, get?, List.lookup_cons, h']
    rfl

theorem get?_insert (name key text : String) (items : Items) :
    get? key (items.insert name text) = if key = name then some text else get? key items := by
  induction items with
  | nil => exact get?_cons name key text []
  | cons e es ih =>
    obtain ⟨first, old⟩ := e
    simp only [insert]
    split
    · rename_i h
      subst h
      rw [get?_cons, get?_cons]
      split <;> rfl
    · rename_i h
      split
      · exact get?_cons name key text _
      · rw [get?_cons, get?_cons, ih]
        by_cases hk : key = first
        · have hn : ¬key = name := fun hh => h (hh.symm.trans hk)
          rw [if_pos hk, if_neg hn, if_pos hk]
        · rw [if_neg hk, if_neg hk]

end Items

end ProfileSession
