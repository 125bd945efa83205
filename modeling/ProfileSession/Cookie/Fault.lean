namespace ProfileSession.Cookie

inductive Fault where
  | notHttp
  | noHost
  | domainMismatch
  | expired
  | unreadable
  | unspecifiedDomain
deriving DecidableEq, Repr

def Fault.message : Fault → String
  | .notHttp => "request-uri is not an http scheme but HttpOnly attribute set"
  | .noHost => "request-uri is not a relative scheme; cannot determine host"
  | .domainMismatch => "request-uri does not domain-match the cookie"
  | .expired => "attempted to utilize an Expired Cookie"
  | .unreadable => "unable to parse string as cookie::Cookie"
  | .unspecifiedDomain => "domain-attribute is not specified"

end ProfileSession.Cookie
