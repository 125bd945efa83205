namespace ProfileSession

inductive SystemFault.Kind where
  | notFound
  | permissionDenied
  | addressNotAvailable
  | connectionRefused
  | notConnected
  | brokenPipe
  | connectionReset
  | connectionAborted
  | timedOut
  | invalidInput
  | invalidData
  | unexpectedEnd
  | other
deriving DecidableEq, Repr

structure SystemFault where
  kind : SystemFault.Kind
  text : String
deriving DecidableEq, Repr

namespace SystemFault

def numbered (kind : Kind) (text : String) (n : Nat) : SystemFault :=
  ⟨kind, text ++ " (os error " ++ toString n ++ ")"⟩

def noEntry : SystemFault := numbered .notFound "No such file or directory" 2

def notFolder : SystemFault := numbered .other "Not a directory" 20

def isFolder : SystemFault := numbered .other "Is a directory" 21

def nameTooLong : SystemFault := numbered .other "File name too long" 36

-- A path that no call of the system can pass on.
def nulInPath : SystemFault := ⟨.invalidInput, "file name contained an unexpected NUL byte"⟩

-- A file that should be text and is not.
def notText : SystemFault := ⟨.invalidData, "stream did not contain valid UTF-8"⟩

end SystemFault

end ProfileSession
