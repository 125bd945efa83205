import ProfileSession.Cookie.Jar
import ProfileSession.Error

namespace ProfileSession

structure SharedJar where
  jar : Jar := {}
  -- Whether somebody failed in the middle of using it.
  poisoned : Bool := false
deriving DecidableEq, Repr

namespace SharedJar

def read (s : SharedJar) : Except Error Jar :=
  if s.poisoned then .error .poisoned else .ok s.jar

-- For a client a poisoned jar is as good as none. A client that breaks off at one instead takes no
-- more steps, so that nothing is said of it here.
def receive (s : SharedJar) (texts : List String) (u : Url) : SharedJar :=
  if s.poisoned then s else { s with jar := s.jar.receive texts u }

def forUrl (s : SharedJar) (u : Url) : List Cookie :=
  if s.poisoned then [] else s.jar.forUrl u

end SharedJar

end ProfileSession
