import ProfileSession.Http.Wire
import ProfileSession.Program
import Std.Async.DNS
import Std.Async.TCP
import Std.Time.DateTime.Timestamp

open Std.Net Std.Async

namespace ProfileSession.Console

-- What is at a path, as far as it can be read.
def nodeAt? (path : String) : IO (Option Node) := do
  try
    return some (.file (← IO.FS.readBinFile path))
  catch
    | .inappropriateType _ 21 _ => return some .folder
    | _ => return none

def pathOf : List String → String
  | "/" :: names => "/" ++ "/".intercalate names
  | names => "/".intercalate names

-- Adds what is at a place and at the folders above it.
def see (d : Directory) (names : List String) : IO Directory :=
  (List.range names.length).foldlM
    (fun d n => do
      let place := names.take (n + 1)
      match ← nodeAt? (pathOf place) with
      | some node => return d.put place node
      | none => return d.delete place)
    d

-- Writes a file if the program has changed it, first under another name.
def keep (s : FileStorage) (old new : Directory) : IO Unit := do
  match old.contents s.path.names, new.contents s.path.names with
  | before, .ok bytes =>
    if before.toOption != some bytes then
      IO.FS.writeBinFile s.scratch.text bytes
      IO.FS.rename s.scratch.text s.path.text
  | _, .error _ => return

-- The version of the operating system, as the system describes itself.
def platform : IO Platform := do
  let text ← try IO.FS.readFile "/etc/os-release" catch _ => pure ""
  let version := (text.splitOn "\n").findSome? fun line =>
    (Text.after? "VERSION_ID=".toList line.toList).map fun v =>
      String.ofList (v.filter (· != '"'))
  return ⟨"linux", version.getD "0"⟩

def addressOf : Host → Option IPAddr
  | .domain _ => none
  | .ipv4 n =>
    some (.v4 (IPv4Addr.ofParts (.ofNat (n / 0x1000000)) (.ofNat (n / 0x10000)) (.ofNat (n / 0x100))
      (.ofNat n)))
  | .ipv6 [a, b, c, d, e, f, g, h] =>
    some (.v6 (IPv6Addr.ofParts (.ofNat a) (.ofNat b) (.ofNat c) (.ofNat d) (.ofNat e) (.ofNat f)
      (.ofNat g) (.ofNat h)))
  | .ipv6 _ => none

def addresses (u : Url) : IO (List SocketAddress) := do
  let port := UInt16.ofNat ((u.connectPort?).getD 80)
  let found ← match u.host? with
    | none => pure #[]
    | some h =>
      match addressOf h with
      | some a => pure #[a]
      | none => (DNS.getAddrInfo h.text (toString port)).block
  return found.toList.map fun a =>
    match a with
    | .v4 addr => .v4 { addr, port }
    | .v6 addr => .v6 { addr, port }

partial def await (socket : TCP.Socket.Client) (m : Http.Method) (bs : ByteArray) :
    IO Http.Reply := do
  let piece ← (socket.recv? 65536).block
  let bs := bs ++ piece.getD .empty
  match Http.Answer.read m bs.toList piece.isNone with
  | .more => await socket m bs
  | .malformed => return .lost
  | .done a => return .answer a

def exchangeWith (r : Http.Request) (address : SocketAddress) : IO Http.Reply := do
  let socket ← TCP.Socket.Client.mk
  (socket.connect address).block
  (socket.send r.text.toUTF8).block
  await socket r.method .empty

-- Sends a request and waits for the reply. Only plain connections are made.
def exchange (r : Http.Request) : IO Http.Reply := do
  if r.url.scheme != "http" then return .lost
  try
    for address in ← addresses r.url do
      try
        return ← exchangeWith r address
      catch _ => continue
    return .lost
  catch _ => return .lost

-- The next line of the input with its line break; nothing at its end.
partial def nextLine (input : IO.FS.Stream) (line : ByteArray) : IO ByteArray := do
  let b ← input.read 1
  if b.isEmpty then return line
  else if b == ⟨#[10]⟩ then return line ++ b
  else nextLine input (line ++ b)

def tell : Program.Output → IO Unit
  | .line text => IO.println text
  | .alert text => IO.eprintln ("! " ++ text)
  | .error e => IO.eprintln ("error: " ++ e.message)

-- Gives the program what it waits for, until it has ended.
partial def drive (s : FileStorage) (p : Program) : IO UInt32 := do
  let event ← match p with
    | .ended _ code => return .ofNat code
    | .waiting f _ => pure (.reply (← exchange f.sent))
    | .reading _ => do
      let line ← nextLine (← IO.getStdin) .empty
      pure (if line.isEmpty then .inputEnd else .line line)
  let (next, told) := p.step event
  keep s p.directory next.directory
  told.forM tell
  drive s next

def run (o : Options) : IO UInt32 := do
  let platform ← platform
  let now := (← Std.Time.Timestamp.now).toSecondsSinceUnixEpoch.val
  let d ← match o.config with
    | some path => see {} path.names
    | none => pure {}
  match Program.configOf platform o d with
  | .error e =>
    tell (.error e)
    return 1
  | .ok c =>
    let s : FileStorage := ⟨c.storageFile⟩
    let d ← see d s.path.names
    let (p, told) := Program.start platform now o d
    keep s d p.directory
    told.forM tell
    drive s p

def usage : String :=
  "Usage: profile-viewer [OPTIONS]\n\n" ++
    "  -c, --config <FILE>        configuration file\n" ++
    "  -b, --base-url <URL>       identity server\n" ++
    "  -s, --storage-file <FILE>  session storage file\n" ++
    "      --cookie <COOKIE>      cookie handed off by the login page; may be repeated\n" ++
    "  -q, --quiet                tell less\n" ++
    "  -v, --verbose              tell more; may be repeated\n" ++
    "  -h, --help                 this text\n" ++
    "  -V, --version              the version"

def stop (s : Options.Stop) : IO UInt32 := do
  match s with
  | .misused => IO.eprintln usage
  | .help => IO.println usage
  | .version => IO.println Program.versionText
  return .ofNat s.exitCode

end ProfileSession.Console

open ProfileSession in
def main (args : List String) : IO UInt32 := do
  match Options.read args (← IO.getEnv "PROFILE_VIEWER_BASE_URL") with
  | .error s => Console.stop s
  | .ok o => Console.run o
