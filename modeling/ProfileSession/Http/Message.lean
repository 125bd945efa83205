import ProfileSession.Error
import ProfileSession.Http.Header
import ProfileSession.Http.Status
import ProfileSession.Url.Basic
import ProfileSession.Text.Utf8

namespace ProfileSession.Http

structure Method where
  name : String
deriving DecidableEq, Repr

namespace Method

def get : Method := ⟨"GET"⟩

def head : Method := ⟨"HEAD"⟩

def post : Method := ⟨"POST"⟩

end Method

structure Request where
  url : Url
  method : Method := .get
  headers : Headers := []
  body : Option String := none
deriving DecidableEq, Repr

structure Answer where
  status : Status
  headers : Headers := []
  body : ByteArray := .empty
  -- Whether as much of the body came as was announced.
  complete : Bool := true

instance : DecidableEq Answer
  | ⟨s, h, a, c⟩, ⟨s', h', b, c'⟩ =>
    have := ByteArray.decEq a b
    decidable_of_iff (s = s' ∧ h = h' ∧ a = b ∧ c = c') (Answer.mk.injEq _ _ _ _ _ _ _ _ ▸ Iff.rfl)

namespace Answer

-- The body as text. Bytes that are no text become replacement characters.
def text (a : Answer) : Except TransportFault String :=
  if a.complete then .ok (Text.Utf8.lossy a.body) else .error .undecodable

-- The answer to a request of some method. Some answers have no body, whatever is announced.
def seenBy (m : Method) (a : Answer) : Answer :=
  if m = .head ∨ a.status.code = 204 ∨ a.status.code = 304 then
    { a with body := .empty, complete := true }
  else a

end Answer

inductive Reply where
  -- The connection could not be made, or ended before an answer.
  | lost
  | answer (a : Answer)
deriving DecidableEq

end ProfileSession.Http
