import TemplateServer.Config
import TemplateServer.Dispatch
import TemplateServer.Random.ChaCha
import TemplateServer.Server.Stream

/-! The server: one message a line in, one response a line out. -/

namespace TemplateServer

open Json

structure Server (σ : Type) where
  limit : Nat
  source : σ
  ready : Bool
  deriving DecidableEq, Repr

namespace Server

def ofConfig (c : Config) (entropy : UInt64) : Server ChaCha :=
  ⟨c.limit, .ofSeed (c.seed.getD entropy), false⟩

structure Step (σ : Type) where
  response : Option Response
  events : List Event
  unwritten : Server σ
  written : Server σ

variable {σ : Type} [WordSource σ]

def say (server : Server σ) (response : Option Response) (events : List Event) : Step σ :=
  ⟨response, events, server, server⟩

def refuse (server : Server σ) (event : Event) : Step σ :=
  server.say (some (.error none .parse)) [event]

def handle (server : Server σ) (r : Request) : Step σ :=
  if r.version ≠ "2.0" then server.say (some (.error r.id .invalidRequest)) []
  else if !server.ready && r.method ≠ Method.handshake.name then
    server.say (r.id.map fun id => .error id .notReady) []
  else
    let a := r.answer server.source
    let after := { server with source := a.source }
    ⟨a.response, a.events, after,
      { after with ready := server.ready || r.method = Method.handshake.name }⟩

def receiveText (server : Server σ) (message : Text) : Step σ :=
  let message := message.trim
  if message.isEmpty then server.say none []
  else
    match (decodeText? message : Option Request) with
    | none => server.refuse .malformed
    | some r => server.handle r

def receive (server : Server σ) (line : Bytes) : Step σ :=
  if server.limit < line.length then server.refuse (.tooLarge server.limit)
  else
    match Text.ofBytes? line with
    | none => server.refuse .notUtf8
    | some message => server.receiveText message

/-- One byte more than the limit tells a line that is too long; a count of bytes has 64 bits. -/
def readBound (server : Server σ) : Nat := min (server.limit + 1) (UInt64.size - 1)

def isUnfinished (server : Server σ) (line : Bytes) : Bool :=
  server.limit < line.length && line.getLast? != some lineFeed

/-- What a turn does to the world, in whatever monad: `keep` holds the server that is left if the
next step fails. -/
structure Streams (σ : Type) (m : Type → Type) where
  read : Nat → m Bytes
  write : Bytes → m Unit
  discardLine : m Unit
  report : List Event → m Unit
  keep : Server σ → m Unit

def turn {m : Type → Type} [Monad m] (streams : Streams σ m) (server : Server σ) :
    m (Option (Server σ)) := do
  let line ← streams.read server.readBound
  if line.isEmpty then
    streams.report [.inputClosed]
    return none
  let step := server.receive line
  streams.report step.events
  streams.keep step.unwritten
  if let some r := step.response then streams.write r.line.bytes
  streams.keep step.written
  if server.isUnfinished line then streams.discardLine
  return some step.written

inductive Stop where
  | closed
  | readFailed (reason : Text)
  | writeFailed
  deriving DecidableEq, Repr

def Stop.reason? : Stop → Option Text
  | closed => none
  | readFailed reason => some reason
  | writeFailed => some "write failed"

structure Served (σ : Type) where
  server : Server σ
  output : Output
  events : List Event
  stop : Stop

def writeResponse (o : Output) : Option Response → Bool × Output
  | none => (true, o)
  | some r => o.write r.line.bytes

def serveFrom (server : Server σ) (input : Input) (output : Output) (events : List Event) :
    Served σ :=
  match _h : input.read server.readBound with
  | .error reason => ⟨server, output, events.reverse, .readFailed reason⟩
  | .ok ([], _) => ⟨server, output, (.inputClosed :: events).reverse, .closed⟩
  | .ok (c :: line, rest) =>
    let step := server.receive (c :: line)
    -- the events so far stand last first
    let events := step.events.reverseAux events
    match writeResponse output step.response with
    | (false, output) => ⟨step.unwritten, output, events.reverse, .writeFailed⟩
    | (true, output) =>
      if server.isUnfinished (c :: line) then
        match _hd : rest.discardLine with
        | .error reason => ⟨step.written, output, events.reverse, .readFailed reason⟩
        | .ok rest => serveFrom step.written rest output events
      else serveFrom step.written rest output events
  termination_by input.size
  decreasing_by
    · have hr := Input.size_read _h
      have hs := Input.size_discardLine _hd
      simp only [List.length_cons] at hr
      omega
    · have hr := Input.size_read _h
      simp only [List.length_cons] at hr
      omega

def serve (server : Server σ) (input : Input) (output : Output) : Served σ :=
  serveFrom server input output []

end Server

end TemplateServer
