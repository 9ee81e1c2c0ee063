import TemplateServer.CommandLine

namespace TemplateServer.CommandLine

def bufferSize : USize := 8192

partial def readLine (input : IO.FS.Stream) (bound : Nat) (buffer read : Bytes) :
    IO (Bytes × Bytes) := do
  let c := Input.cut bound [buffer] read
  if c.complete then return (c.bytes, c.rest.flatten)
  let next ← input.read bufferSize
  if next.isEmpty then return (c.bytes, [])
  readLine input (bound - buffer.length) next.toList (buffer.reverseAux read)

partial def skipLine (input : IO.FS.Stream) (buffer : Bytes) : IO Bytes := do
  match Input.afterLine? [buffer] with
  | some rest => return rest.flatten
  | none =>
    let next ← input.read bufferSize
    if next.isEmpty then return []
    skipLine input next.toList

def streams (input output : IO.FS.Stream) : Server.Streams ChaCha (StateT Bytes IO) where
  -- the state is what was read beyond the lines served so far
  read bound := do
    let (line, rest) ← readLine input bound (← get) []
    set rest
    return line
  write b := do
    output.write b.toByteArray
    output.flush
  discardLine := do set (← skipLine input (← get))
  report _ := return
  keep _ := return

partial def serve (streams : Server.Streams ChaCha (StateT Bytes IO)) (server : Server ChaCha) :
    StateT Bytes IO Unit := do
  if let some server ← server.turn streams then serve streams server

def getVariable (name : Text) : IO (Option Text) := do
  return (← IO.getEnv (String.ofList name)).map String.toList

def fail (diagnosis : Text) : IO UInt32 := do
  (← IO.getStderr).putStr (String.ofList diagnosis)
  return 1

def reason (e : IO.Error) : String :=
  match e with
  | .inappropriateType _ code details | .otherError code details | .hardwareFault code details
  | .resourceVanished code details | .resourceBusy code details =>
    details ++ " (os error " ++ toString code ++ ")"
  | e => toString e

def start : IO UInt32 := do
  let seed ← getVariable Config.seedVariable
  let limit ← getVariable Config.limitVariable
  let lookup name :=
    if name = Config.seedVariable then seed
    else if name = Config.limitVariable then limit
    else none
  match Config.ofLookup lookup with
  | .error e => fail (configurationFault e)
  | .ok c =>
    let entropy := (← IO.getRandomBytes 8).foldl (fun n b => n * 256 + b.toUInt64) 0
    try
      let streams := streams (← IO.getStdin) (← IO.getStdout)
      (serve streams (Server.ofConfig c entropy)).run' []
      return 0
    catch e => fail (fatalFault (reason e).toList)

end TemplateServer.CommandLine

def main : IO UInt32 := TemplateServer.CommandLine.start
