import ProfileSession.Url.Host
import ProfileSession.Url.Path

namespace ProfileSession.Url

-- Blanks and controls around a URL, and line breaks and tabs inside it, are not part of it.
def clean (cs : List Char) : List Char :=
  let edge := fun c : Char => c.toNat ≤ 0x20
  let cs := ((cs.dropWhile edge).reverse.dropWhile edge).reverse
  cs.filter fun c => !(c == '\t' || c == '\n' || c == '\r')

def isSchemeChar (c : Char) : Bool := c.isAlphanum || c == '+' || c == '-' || c == '.'

-- A scheme in lower case, and the text after its colon.
def cutScheme? (cs : List Char) : Option (String × List Char) :=
  if cs.head?.any Char.isAlpha then
    match cs.dropWhile isSchemeChar with
    | ':' :: rest => some (String.ofList ((cs.takeWhile isSchemeChar).map Char.toLower), rest)
    | _ => none
  else none

-- A text after its question mark or its hash sign.
def queryText (special : Bool) (cs : List Char) : String :=
  String.ofList (encode (inQuery special) cs)

def fragmentText (cs : List Char) : String := String.ofList (encode inFragment cs)

-- The query and the fragment of a text that starts with a question mark or a hash sign.
def queryAndFragment (special : Bool) (cs : List Char) : Option String × Option String :=
  let fragment := fun rest => match rest with
    | '#' :: f => some (fragmentText f)
    | _ => none
  match cs with
  | '?' :: rest =>
    (some (queryText special (rest.takeWhile (· != '#'))), fragment (rest.dropWhile (· != '#')))
  | rest => (none, fragment rest)

-- A URL whose query and fragment are still to be read.
def finish (scheme : String) (authority : Option Authority) (path : List Char)
    (rest : List Char) : Url :=
  let (query, fragment) := queryAndFragment (Family.of scheme).isSpecial rest
  ⟨scheme, authority, String.ofList path, query, fragment⟩

def extend (scheme : String) (authority : Option Authority) (path : List Char)
    (cs : List Char) : Url :=
  let w := extendPath (Family.of scheme) path cs
  finish scheme authority w.path w.rest

-- Cuts at the last at sign before the authority ends.
def cutUserInfo? (special : Bool) (cs : List Char) : Option (List Char × List Char) :=
  let ends := fun c : Char => c == '/' || c == '?' || c == '#' || (special && c == '\\')
  let whole := cs.takeWhile fun c => !ends c
  (Text.cutLast? '@' whole).map fun r => (r.1, r.2 ++ cs.dropWhile fun c => !ends c)

-- User and password before the at sign. An empty password is as good as none.
def userAndPassword (cs : List Char) : String × Option String :=
  let enc := fun cs => String.ofList (encode inUserInfo cs)
  match Text.cut? ':' cs with
  | none => (enc cs, none)
  | some (user, []) => (enc user, none)
  | some (user, password) => (enc user, some (enc password))

-- The path after an authority. A special URL has at least a slash.
def afterAuthority (scheme : String) (a : Authority) (cs : List Char) : Url :=
  if (Family.of scheme).isSpecial then
    match cs with
    | '/' :: rest => extend scheme (some a) ['/'] rest
    | '\\' :: rest => extend scheme (some a) ['/'] rest
    | rest => extend scheme (some a) ['/'] rest
  else
    match cs with
    | [] => finish scheme (some a) [] []
    | c :: rest =>
      if c = '?' ∨ c = '#' then finish scheme (some a) [] (c :: rest)
      else if c = '/' then extend scheme (some a) [] (c :: rest)
      else extend scheme (some a) ['/'] (c :: rest)

def afterSlashes (scheme : String) (cs : List Char) : Except Fault Url := do
  let special := (Family.of scheme).isSpecial
  let (user, password, cs) ← match cutUserInfo? special cs with
    | none => pure ("", none, cs)
    | some ([], rest) =>
      if rest.head?.any fun c => c == '/' || c == '?' || c == '#' || (special && c == '\\') then
        throw Fault.emptyHost
      else pure ("", none, rest)
    | some (info, rest) =>
      let (user, password) := userAndPassword info
      pure (user, password, rest)
  let (host, port, rest) ← hostAndPort scheme cs
  if host.isNone && (!user.isEmpty || password.isSome) then throw .emptyHost
  else return afterAuthority scheme ⟨user, password, host, port⟩ rest

-- How a text that is resolved against a base starts.
def sameButFragment (base : Url) : Url := { base with fragment := none }

def withQuery (base : Url) (cs : List Char) : Url :=
  finish base.scheme base.authority base.path.toList cs

def withFragment (base : Url) (cs : List Char) : Url :=
  { base with fragment := some (fragmentText cs) }

def isSlash (c : Char) : Bool := c == '/' || c == '\\'

-- Resolves a text without a scheme of its own against a base that is no file.
def relative (base : Url) (cs : List Char) : Except Fault Url :=
  match cs with
  | [] => .ok (sameButFragment base)
  | '?' :: _ => .ok (withQuery base cs)
  | '#' :: rest => .ok (withFragment base rest)
  | c :: rest =>
    if isSlash c then
      if rest.head?.any isSlash then
        match cs with
        | '/' :: '/' :: more => afterSlashes base.scheme more
        | cs => afterSlashes base.scheme (cs.dropWhile isSlash)
      else .ok (extend base.scheme base.authority ['/'] rest)
    else
      let path := (popPath false base.path.toList.reverse).reverse
      .ok (extend base.scheme base.authority (if path.isEmpty then ['/'] else path) cs)

-- The host of a file URL. A drive is no host, and "localhost" is the same as none.
def fileHost (cs : List Char) : Except Fault (Option Host × List Char) :=
  let name := cs.takeWhile fun c => !(isSlash c || c == '?' || c == '#')
  let rest := cs.dropWhile fun c => !(isSlash c || c == '?' || c == '#')
  if isDrive name then .ok (none, cs)
  else if name.isEmpty then .ok (none, rest)
  else match specialHost name with
    | .error e => .error e
    | .ok (.domain "localhost") => .ok (none, rest)
    | .ok host => .ok (some host, rest)

def fileAuthority (host : Option Host) : Option Authority := some { host }

-- A file URL after two slashes. A drive in its path takes the host away.
def fileAfterSlashes (cs : List Char) : Except Fault Url := do
  let (host, rest) ← fileHost cs
  let rest := match host, rest with
    | some _, c :: more => if isSlash c then more else rest
    | _, _ => rest
  let w := extendPath .file ['/'] rest
  return finish "file" (fileAuthority (if w.sawDrive then none else host)) w.path w.rest

def firstSegment (u : Url) : List Char := (u.path.toList.drop 1).takeWhile (· != '/')

-- A file URL after one slash. The base gives its drive, or else its host.
def fileAfterSlash (base : Option Url) (cs : List Char) : Url :=
  if startsWithDrive (cs.drop 1) then extend "file" (fileAuthority none) [] cs
  else match base with
    | none => extend "file" (fileAuthority none) [] cs
    | some b =>
      if isPlainDrive b.firstSegment then
        extend "file" (fileAuthority none) ('/' :: b.firstSegment) cs
      else extend "file" (fileAuthority b.host?) [] cs

-- A file URL after its scheme, if it has one; the base is a file URL too.
def file (base : Option Url) (cs : List Char) : Except Fault Url :=
  match cs with
  | c :: rest =>
    if isSlash c then
      match rest with
      | d :: more =>
        if isSlash d then fileAfterSlashes more else .ok (fileAfterSlash base cs)
      | [] => .ok (fileAfterSlash base cs)
    else match base with
      | none => .ok (extend "file" (fileAuthority none) ['/'] cs)
      | some b =>
        if c = '?' then .ok (withQuery b cs)
        else if c = '#' then .ok (withFragment b rest)
        else if startsWithDrive cs then .ok (extend "file" (fileAuthority none) ['/'] cs)
        else
          .ok (extend "file" b.authority (popPath true b.path.toList.reverse).reverse cs)
  | [] => match base with
    | none => .ok (extend "file" (fileAuthority none) ['/'] [])
    | some b => .ok (sameButFragment b)

-- A URL without a special scheme: with an authority, with a path, or with neither.
def other (scheme : String) (cs : List Char) : Except Fault Url :=
  match cs with
  | '/' :: '/' :: rest => afterSlashes scheme rest
  | '/' :: rest => .ok (extend scheme none ['/'] rest)
  | cs =>
    let ends := fun c : Char => c == '?' || c == '#'
    .ok (finish scheme none (encode inOpaquePath (cs.takeWhile fun c => !ends c))
      (cs.dropWhile fun c => !ends c))

def withScheme (base : Option Url) (scheme : String) (cs : List Char) : Except Fault Url :=
  match Family.of scheme with
  | .file => file (base.filter fun b => b.scheme = "file") cs
  | .other => other scheme cs
  | .special =>
    let slashes := (cs.takeWhile isSlash).length
    match base.filter fun b => b.scheme = scheme ∧ slashes < 2 with
    | some b => relative b cs
    | none => afterSlashes scheme (cs.dropWhile isSlash)

def resolve (base : Option Url) (s : String) : Except Fault Url :=
  let cs := clean s.toList
  match cutScheme? cs with
  | some (scheme, rest) => withScheme base scheme rest
  | none =>
    match base with
    | none => .error .noBase
    | some b =>
      match cs with
      | '#' :: rest => .ok (withFragment b rest)
      | cs =>
        if b.isOpaque then .error .opaqueBase
        else if b.scheme = "file" then file (some b) cs
        else relative b cs

-- A URL that stands alone.
def parse (s : String) : Except Fault Url := resolve none s

-- A URL that may leave out what it shares with a base.
def join (base : Url) (s : String) : Except Fault Url := resolve (some base) s

end ProfileSession.Url
