import Std.Async.Signal
import Std.Time.DateTime.Timestamp
import SignalRules.Log.Stamp
import SignalRules.Service.Run

set_option autoImplicit false

namespace SignalRules.Main
open Service

def readNode (path : String) : IO (Except FileError FileNode) := do
  try
    let bytes ← IO.FS.readBinFile path
    return .ok (.file bytes.toList)
  catch e =>
    match e with
    | .noFileOrDirectory _ _ _ => return .error .missing
    | .inappropriateType _ 21 _ => return .ok .directory
    | .inappropriateType _ _ _ => return .error .notDirectory
    | e => return .error (.other (toString e))

def makeDirectory (path : String) : IO (Except FileError Unit) := do
  try
    IO.FS.createDirAll path
    return .ok ()
  catch e =>
    match e with
    | .alreadyExists _ _ _ => return .error .alreadyExists
    | e => return .error (.other (toString e))

def readFiles (paths : List String) (dir : Option String) : IO Files := do
  let nodes ← paths.mapM fun path => return (path, ← readNode path)
  let made ← dir.elim (pure (.ok ())) makeDirectory
  return ⟨fun path => (nodes.lookup path).getD (.error .missing), fun _ => made⟩

def readVariables : IO Config.Environment.Variables := do
  let bytes ← try IO.FS.readBinFile "/proc/self/environ" catch _ => pure ByteArray.empty
  let entries := (bytes.toList.splitOn 0).filterMap fun entry =>
    match Text.Utf8.decode entry with
    | .ok cs => Text.splitOnce '=' cs
    | .error _ => none
  return entries.map fun (name, value) => (String.ofList name, String.ofList value)

def writeLog (entries : List Log.Entry) : IO Unit := do
  if entries.isEmpty then return
  let err ← IO.getStderr
  let ansi ← err.isTty
  let now ← Std.Time.Timestamp.now
  let stamp := Log.stamp (now.toNanosecondsSinceUnixEpoch.val.toNat / 1000)
  for e in entries do
    err.putStr (stamp ++ " " ++ e.line ansi)

def writeOutput (text : String) : IO Unit := do
  let out ← IO.getStdout
  out.putStr text
  out.flush

def finishWith (o : Outcome) : IO UInt32 := do
  writeLog o.console
  writeOutput o.output
  if let some e := o.failure then (← IO.getStderr).putStrLn ("Error: " ++ e)
  return UInt32.ofNat o.exit

-- What the loop looks at. The reads of standard input so far are kept in `input`, no bytes being its end.
structure Sources where
  input : IO.Ref (List SourceRead)
  interrupted : Task (Except IO.Error Int)
  terminated : Task (Except IO.Error Int)
  startTime : Nat

partial def readLine (stream : IO.FS.Stream) (line : List UInt8) : IO (List UInt8) := do
  let bytes := (← stream.read 1).toList
  if bytes.isEmpty || bytes == [ByteFeed.newline] then return (bytes ++ line).reverse
  else readLine stream (bytes ++ line)

partial def readInput (stream : IO.FS.Stream) (input : IO.Ref (List SourceRead)) : IO Unit := do
  let read ← try SourceRead.data <$> readLine stream [] catch e => pure (.failed (toString e))
  input.modify (· ++ [read])
  match read with
  | .data (_ :: _) => readInput stream input
  | _ => return

def waitFor (signal : Std.Async.Signal) : IO (Task (Except IO.Error Int)) := do
  (← Std.Async.Signal.Waiter.mk signal false).wait

def arrive (f : ByteFeed) : SourceRead → ByteFeed
  | .data bytes => if bytes.isEmpty then { f with tail := .closed } else { f with bytes := f.bytes ++ bytes }
  | .interrupted => f
  | .failed reason => { f with tail := .failsOnce reason }

def takeSignal (s : Sources) : IO (Option Shutdown) := do
  if ← IO.hasFinished s.interrupted then return some .interrupt
  if ← IO.hasFinished s.terminated then return some .terminate
  return none

partial def loop (r : Ready) (s : Sources) (started : Bool) (e : Engine) (f : ByteFeed) : IO UInt32 := do
  let reads ← s.input.swap []
  let shutdown ← takeSignal s
  let e := e.advanceTo ((← IO.monoMsNow) - s.startTime)
  let served := serve started e f [⟨fun f => reads.foldl arrive f, shutdown, false⟩]
  match served.ending with
  | .serving =>
    writeOutput (ByteFeed.written served.engine.outlet)
    writeLog (shown r.settings r.filter served.engine.log)
    IO.sleep 2
    loop r s true served.engine.drained served.inlet
  | _ => finishWith (finish { r with log := [] } served)

def start (r : Ready) : IO UInt32 := do
  writeLog (shown r.settings r.filter r.log)
  let input ← IO.mkRef []
  if r.feed.tail = .unfinished then
    let _ ← IO.asTask (readInput (← IO.getStdin) input) .dedicated
  let sources : Sources := ⟨input, ← waitFor .sigint, ← waitFor .sigterm, ← IO.monoMsNow⟩
  loop r sources false r.engine r.feed

def run (arguments : List String) : IO UInt32 := do
  let environment ← readVariables
  let invocation (files : Files) : Invocation := ⟨arguments, files, environment, ⟨[], true⟩, none⟩
  let files ← match Options.ofArguments arguments with
    | .error _ => readFiles [] none
    | .ok options => do
      let first ← readFiles (startPaths options) none
      match configure (invocation first) options with
      | .error _ => pure first
      | .ok (settings, _) => readFiles (startPaths options ++ replayPaths settings) settings.dir
  match begin (invocation files) with
  | .ready r => start r
  | .over o =>
    if let .error e := Options.ofArguments arguments then
      if e.exitCode != 0 then (← IO.getStderr).putStrLn ("error: " ++ e.message)
    finishWith o

end SignalRules.Main

def main (arguments : List String) : IO UInt32 := SignalRules.Main.run arguments
