import Std.Time.DateTime.Timestamp
import BeamRun.Program

/-! The program: looks at files, variables, the clock and the terminal, and shows what comes of it. -/

namespace BeamRun.Main

def faultOf : IO.Error → FileFault
  | .noFileOrDirectory _ _ _ => .missing
  | .inappropriateType _ code reason =>
    if code = 21 then .isDirectory else if code = 20 then .notDirectory else .other reason
  | .permissionDenied _ code reason => .other (reason ++ " (os error " ++ toString code ++ ")")
  | e => .other (toString e)

def tried {α : Type} (work : IO α) : IO (Except FileFault α) := do
  try
    return .ok (← work)
  catch e =>
    return .error (faultOf e)

/-- Whether a name without links is that of a device. -/
def isDevice (resolved : String) : Bool :=
  resolved.startsWith "/dev/" && !resolved.startsWith "/dev/shm/"

/-- A name that can be read but leads to no place in the tree of files is that of a pipe or a socket. A pipe that
bears a name in a directory is not told from a file. -/
def look (path : String) : IO FileEntry := do
  let place ← tried (toString <$> IO.FS.realPath path)
  let content ← tried (IO.FS.readBinFile path)
  match place, content with
  | _, .error .isDirectory => return .directory
  | .error _, .error fault => return .absent fault
  | .error _, .ok bytes => return .special (.ok bytes)
  | .ok resolved, content => return if isDevice resolved then .special content else .regular content

partial def readAll (s : IO.FS.Stream) (read : ByteArray) : IO ByteArray := do
  let bytes ← s.read 65536
  if bytes.isEmpty then return read
  readAll s (read ++ bytes)

def readEnvironment : IO (List (String × String)) := do
  match ← tried (IO.FS.readBinFile "/proc/self/environ") with
  | .error _ => return []
  | .ok bytes =>
    let text := (String.fromUTF8? bytes).getD ""
    return (text.splitOn (Char.ofNat 0).toString).filterMap fun entry =>
      match entry.splitOn "=" with
      | name :: value :: rest => some (name, "=".intercalate (value :: rest))
      | _ => none

def instant : IO Report.Timestamp := do
  let nanoseconds := (← Std.Time.Timestamp.now).toNanosecondsSinceUnixEpoch.val
  return ⟨nanoseconds / 1000000000, (nanoseconds % 1000000000).toNat⟩

def newStamp : IO Report.Stamp := do
  let bytes ← IO.getRandomBytes 16
  let n := bytes.toList.foldl (fun n b => 256 * n + b.toNat) 0
  return ⟨.ofRandom n, ← instant⟩

def inputOf : Command → Option Input
  | .validate input _ => some input
  | .cards input => some input
  | .defaults _ => none

def worldFor (c : Command) (environment : List (String × String)) : IO World := do
  let paths := match inputOf c with
    | some input => input.settings.toList ++ input.defaults.toList ++ [input.file]
    | none => []
  let readsStdin := (inputOf c).any (World.isStdin ·.file)
  let seen ← paths.mapM fun path => return (path, ← look path)
  let stdin ← if readsStdin then readAll (← IO.getStdin) ByteArray.empty else pure ByteArray.empty
  return {
    files := Files.ofList seen
    stdin := stdin
    environment := environment
    colored := Listing.wantsColor environment (← (← IO.getStdout).isTty)
    stamp := ← newStamp }

def present (i : Invocation) (e : Execution) : IO Unit := do
  for event in e.logged do
    IO.eprintln (Logging.line i.logging (← instant) event)
  IO.print e.output
  for failure in e.failure.toList do
    IO.eprint failure.report

end BeamRun.Main

open BeamRun Main in
def main (args : List String) : IO UInt32 := do
  let environment ← readEnvironment
  match CommandLine.parse (environment.lookup CommandLine.settingsVariable) args with
  | .error .version =>
    IO.print CommandLine.versionText
    return 0
  | .error .help =>
    IO.print CommandLine.helpText
    return 0
  | .error u =>
    IO.eprint ("error: " ++ u.name ++ "\n\n" ++ CommandLine.helpText)
    return u.exitCode.toUInt32
  | .ok i =>
    let e := (← worldFor i.command environment).execute i
    present i e
    return e.exitCode.toUInt32
