import ProfileSession.Url.Basic
import ProfileSession.Url.Percent

namespace ProfileSession.Url

-- A letter followed by a colon or a bar.
def isDrive (cs : List Char) : Bool :=
  match cs with
  | [a, b] => a.isAlpha && (b == ':' || b == '|')
  | _ => false

def isPlainDrive (cs : List Char) : Bool := isDrive cs && cs.getLast? == some ':'

-- Whether a text begins with a drive and nothing else before the next slash or the path's end.
def startsWithDrive (cs : List Char) : Bool :=
  match cs with
  | a :: b :: rest =>
    a.isAlpha && (b == ':' || b == '|') &&
      (match rest with
        | [] => true
        | c :: _ => c == '/' || c == '\\' || c == '?' || c == '#')
  | _ => false

def isSingleDot (seg : List Char) : Bool :=
  seg == ['.'] || seg == ['%', '2', 'e'] || seg == ['%', '2', 'E']

def dotLength? : List Char → Option (List Char)
  | '.' :: cs => some cs
  | '%' :: '2' :: 'e' :: cs => some cs
  | '%' :: '2' :: 'E' :: cs => some cs
  | _ => none

def isDoubleDot (seg : List Char) : Bool := ((dotLength? seg).bind dotLength?) == some []

-- Takes the last segment off a path, up to the slash before it. A drive stays.
def popPath (file : Bool) (path : List Char) : List Char :=
  let seg := (path.takeWhile (· != '/')).reverse
  if file && isPlainDrive seg then path else path.dropWhile (· != '/')

-- Whether the slash at the end of a path may go: there is another before it that does not stand
-- in front of a drive.
def canDropSlash (path : List Char) : Bool :=
  match path with
  | [] => false
  | last :: before =>
    match before.dropWhile (· != '/') with
    | [] => false
    | _ => !startsWithDrive ((last :: before.takeWhile (· != '/')).reverse)

-- Adds a segment to a path that ends with a slash, and the slash that follows the segment.
def addSegment (file : Bool) (path : List Char) (seg : List Char) (slash : Bool) : List Char :=
  if isDoubleDot seg then
    let path := if path.head? = some '/' && canDropSlash path then path.drop 1 else path
    let path := popPath file path
    if slash && path.head? != some '/' then '/' :: path else path
  else if isSingleDot seg then
    if path.head? = some '/' then path else '/' :: path
  else
    let seg := if file && isDrive seg then seg.take 1 ++ [':'] else seg
    let path := seg.reverse ++ path
    if slash then '/' :: path else path

-- A path under construction, and whether a drive was among its segments.
structure Track where
  path : List Char
  sawDrive : Bool := false

-- Adds a segment that is complete.
def Track.add (file : Bool) (t : Track) (seg : List Char) (slash : Bool) : Track :=
  ⟨addSegment file t.path seg slash,
    t.sawDrive || (file && isDrive seg && !isDoubleDot seg && !isSingleDot seg)⟩

-- A path that is nothing but a drive is closed by a slash before more is added.
def Track.close (file : Bool) (t : Track) : Track :=
  if file && isPlainDrive (t.path.reverse.drop 1) then { t with path := '/' :: t.path } else t

-- Follows a text to the end of the path and tells what comes after it. `seg` is the segment so
-- far, in reverse.
def walk (family : Family) (t : Track) (seg : List Char) : List Char → Track × List Char
  | [] => (t.add (family == .file) seg.reverse false, [])
  | c :: cs =>
    if c = '?' ∨ c = '#' then (t.add (family == .file) seg.reverse false, c :: cs)
    else if c = '/' ∨ (c = '\\' ∧ family.isSpecial) then
      walk family (t.add (family == .file) seg.reverse true) [] cs
    else
      let encoded := if inPath c then encodeChar c else [c]
      walk family (t.close (family == .file)) (encoded.reverse ++ seg) cs

-- The path of a file URL starts with a single slash.
def singleSlash (family : Family) (path : List Char) : List Char :=
  if family == .file then '/' :: path.dropWhile (· == '/') else path

-- A finished path in reading order, and the text after it.
structure Walk where
  path : List Char
  sawDrive : Bool
  rest : List Char

-- Continues a path with a text.
def extendPath (family : Family) (path : List Char) (cs : List Char) : Walk :=
  let (t, rest) := walk family ⟨path.reverse, false⟩ [] cs
  ⟨singleSlash family t.path.reverse, t.sawDrive, rest⟩

end ProfileSession.Url
