namespace ProfileSession

inductive Slot where
  | picture
  | name
  | email
  | provider
  | tableName
  | tableEmail
  | tableProvider
deriving DecidableEq, Repr

namespace Slot

def all : List Slot := [picture, name, email, provider, tableName, tableEmail, tableProvider]

def id : Slot → String
  | picture => "profilePicture"
  | name => "userName"
  | email => "userEmail"
  | provider => "userProvider"
  | tableName => "tableUserName"
  | tableEmail => "tableUserEmail"
  | tableProvider => "tableUserProvider"

def ofId? (s : String) : Option Slot := all.find? fun slot => slot.id == s

end Slot

inductive Button where
  | refresh
  | logout
deriving DecidableEq, Repr

namespace Button

def all : List Button := [refresh, logout]

def id : Button → String
  | refresh => "refreshButton"
  | logout => "logoutButton"

end Button

inductive Content where
  | text (s : String)
  | html (s : String)
deriving DecidableEq, Repr

def Content.string : Content → String
  | text s => s
  | html s => s

structure Page where
  slots : Slot → Option Content := fun _ => none
  buttons : List Button := Button.all
  alerts : List String := []

namespace Page

def hasButton (p : Page) (b : Button) : Bool := p.buttons.contains b

def set (p : Page) (slot : Slot) (c : Content) : Page :=
  { p with slots := fun s => if s = slot then some c else p.slots s }

def setText (p : Page) (slot : Slot) (s : String) : Page := p.set slot (.text s)

def setHtml (p : Page) (slot : Slot) (s : String) : Page := p.set slot (.html s)

-- What a slot holds, whether text or HTML.
def get (p : Page) (slot : Slot) : Option String := (p.slots slot).map Content.string

def isRendered (p : Page) : Bool := Slot.all.any fun slot => (p.slots slot).isSome

def alert (p : Page) (message : String) : Page := { p with alerts := p.alerts ++ [message] }

-- The alerts so far, and the page without them.
def takeAlerts (p : Page) : List String × Page := (p.alerts, { p with alerts := [] })

def filled (p : Page) : List (Slot × Content) :=
  Slot.all.filterMap fun slot => (p.slots slot).map fun c => (slot, c)

-- The summary card, an empty line, and the table of details.
def display (p : Page) : String :=
  let text := fun slot => (p.get slot).getD ""
  text .name ++ " <" ++ text .email ++ ">\n" ++ text .provider ++ "\n\n" ++
    "Name      " ++ text .tableName ++ "\n" ++
    "Email     " ++ text .tableEmail ++ "\n" ++
    "Provider  " ++ text .tableProvider

theorem slots_set (p : Page) (slot s : Slot) (c : Content) :
    (p.set slot c).slots s = if s = slot then some c else p.slots s := rfl

end Page

end ProfileSession
