import TemplateServer.Server.Session

/-! The program as a whole, from an environment and an input to an output and an exit code. -/

namespace TemplateServer.CommandLine

def programName : Text := "perchance-mcp-server"

structure Exit where
  code : UInt32
  output : Bytes
  diagnosis : Text
  deriving DecidableEq, Repr

def configurationFault (e : ConfigError) : Text :=
  programName ++ ": configuration error: " ++ e.message ++ ['\n']

def fatalFault (reason : Text) : Text := programName ++ ": fatal error: " ++ reason ++ ['\n']

def run (lookup : Text → Option Text) (entropy : UInt64) (input : Input) : Exit :=
  match Config.ofLookup lookup with
  | .error e => ⟨1, [], configurationFault e⟩
  | .ok c =>
    let served := (Server.ofConfig c entropy).serve input .unbounded
    match served.stop.reason? with
    | none => ⟨0, served.output.bytes, []⟩
    | some reason => ⟨1, served.output.bytes, fatalFault reason⟩

end TemplateServer.CommandLine
