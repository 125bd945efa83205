import ProfileSession.FilePath

namespace ProfileSession

inductive Flag where
  | config
  | baseUrl
  | storageFile
  | cookie
  | quiet
  | verbose
  | help
  | version
deriving DecidableEq, Repr

namespace Flag

def all : List Flag := [config, baseUrl, storageFile, cookie, quiet, verbose, help, version]

def long : Flag → String
  | config => "config"
  | baseUrl => "base-url"
  | storageFile => "storage-file"
  | cookie => "cookie"
  | quiet => "quiet"
  | verbose => "verbose"
  | help => "help"
  | version => "version"

def short? : Flag → Option Char
  | config => some 'c'
  | baseUrl => some 'b'
  | storageFile => some 's'
  | cookie => none
  | quiet => some 'q'
  | verbose => some 'v'
  | help => some 'h'
  | version => some 'V'

def takesValue : Flag → Bool
  | config | baseUrl | storageFile | cookie => true
  | quiet | verbose | help | version => false

def ofLong? (s : String) : Option Flag := all.find? fun f => f.long == s

def ofShort? (c : Char) : Option Flag := all.find? fun f => f.short? == some c

end Flag

structure Options where
  config : Option FilePath := none
  baseUrl : Option String := none
  storageFile : Option FilePath := none
  cookies : List String := []
  quiet : Bool := false
  -- How often more output was asked for.
  verbose : Nat := 0
deriving DecidableEq, Repr

namespace Options

-- Why the program does not run.
inductive Stop where
  -- The arguments cannot be understood.
  | misused
  | help
  | version
deriving DecidableEq, Repr

namespace Stop

def exitCode : Stop → Nat
  | misused => 2
  | help | version => 0

end Stop

-- The options so far, and the one that waits for its value.
structure Draft where
  options : Options := {}
  pending : Option Flag := none
  -- Whether all that follows is taken as it is. No argument is, so nothing may follow.
  closed : Bool := false

-- Keeps the value of an option that may be given once.
def once (old : Option α) (a : α) : Except Stop (Option α) :=
  match old with
  | none => .ok (some a)
  | some _ => .error .misused

-- A path, which cannot be empty.
def path (s : String) : Except Stop FilePath := if s.isEmpty then .error .misused else .ok ⟨s⟩

-- Gives an option its value.
def set (o : Options) (s : String) : Flag → Except Stop Options
  | .config => do return { o with config := ← once o.config (← path s) }
  | .baseUrl => do return { o with baseUrl := ← once o.baseUrl s }
  | .storageFile => do return { o with storageFile := ← once o.storageFile (← path s) }
  | .cookie => .ok { o with cookies := o.cookies ++ [s] }
  | _ => .error .misused

def switch (o : Options) : Flag → Except Stop Options
  | .quiet => if o.quiet then .error .misused else .ok { o with quiet := true }
  | .verbose => .ok { o with verbose := o.verbose + 1 }
  | .help => .error .help
  | .version => .error .version
  | _ => .error .misused

-- Reads a long option, without its hyphens.
def long (o : Options) (cs : List Char) : Except Stop Draft :=
  match Text.cut? '=' cs with
  | none =>
    match Flag.ofLong? (String.ofList cs) with
    | none => .error .misused
    | some f =>
      if f.takesValue then .ok { options := o, pending := some f }
      else (o.switch f).map fun o => { options := o }
  | some (name, value) =>
    match Flag.ofLong? (String.ofList name) with
    | none => .error .misused
    | some f => (o.set (String.ofList value) f).map fun o => { options := o }

-- Reads short options, without their hyphen. What follows one with a value is the value, and an
-- equals sign between them is no part of it.
def shorts (o : Options) : List Char → Except Stop Draft
  | [] => .ok { options := o }
  | c :: cs =>
    match Flag.ofShort? c with
    | none => .error .misused
    | some f =>
      if f.takesValue then
        match cs with
        | [] => .ok { options := o, pending := some f }
        | '=' :: value => (o.set (String.ofList value) f).map fun o => { options := o }
        | value => (o.set (String.ofList value) f).map fun o => { options := o }
      else
        match o.switch f with
        | .ok o => o.shorts cs
        | .error s => .error s

-- Reads one more argument.
def Draft.next (d : Draft) (arg : String) : Except Stop Draft :=
  if d.closed then .error .misused
  else
    match d.pending, arg.toList with
    | none, ['-', '-'] => .ok { d with closed := true }
    | none, '-' :: '-' :: cs => d.options.long cs
    | none, '-' :: c :: cs => d.options.shorts (c :: cs)
    | none, _ => .error .misused
    | some _, '-' :: _ :: _ => .error .misused
    | some f, value => (d.options.set (String.ofList value) f).map fun o => { options := o }

-- The options when there are no more arguments. The environment may have a base URL.
def Draft.finish (d : Draft) (environment : Option String) : Except Stop Options :=
  let o := d.options
  if d.pending.isSome || (o.quiet && o.verbose > 0) then .error .misused
  else .ok { o with baseUrl := o.baseUrl <|> environment }

def read (args : List String) (environment : Option String) : Except Stop Options := do
  (← args.foldlM Draft.next {}).finish environment

end Options

end ProfileSession
