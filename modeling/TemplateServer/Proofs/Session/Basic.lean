import Mathlib.Tactic.Lemma
import TemplateServer.Server.Session

/-! A session turn by turn, and line by line. -/

namespace TemplateServer

variable {σ : Type} [WordSource σ]

def responseBytes (response : Option Response) : Bytes := response.elim [] (·.line.bytes)

namespace Server

omit [WordSource σ] in
lemma readBound_pos (server : Server σ) : 0 < server.readBound := by
  simp only [readBound, UInt64.size]
  omega

lemma serveFrom_eq (server : Server σ) (input : Input) (output : Output) (events : List Event) :
    serveFrom server input output events =
      match input.read server.readBound with
      | .error reason => ⟨server, output, events.reverse, .readFailed reason⟩
      | .ok ([], _) => ⟨server, output, (.inputClosed :: events).reverse, .closed⟩
      | .ok (c :: line, rest) =>
        let step := server.receive (c :: line)
        let events := step.events.reverseAux events
        match writeResponse output step.response with
        | (false, output) => ⟨step.unwritten, output, events.reverse, .writeFailed⟩
        | (true, output) =>
          if server.isUnfinished (c :: line) then
            match rest.discardLine with
            | .error reason => ⟨step.written, output, events.reverse, .readFailed reason⟩
            | .ok rest => serveFrom step.written rest output events
          else serveFrom step.written rest output events := by
  -- the definition keeps the equations that its recursion ends by; no later proof needs to see them
  rw [serveFrom]
  generalize input.read server.readBound = read
  rcases read with reason | ⟨_ | ⟨c, line⟩, rest⟩
  · rfl
  · rfl
  · dsimp only
    generalize writeResponse output (server.receive (c :: line)).response = written
    rcases written with ⟨_ | _, output'⟩
    · rfl
    · generalize rest.discardLine = left
      cases left <;> rfl

end Server

structure Exchange (σ : Type) where
  server : Server σ
  input : Input
  output : Output
  events : List Event

namespace Exchange

def streams : Server.Streams σ (EStateM Server.Stop (Exchange σ)) where
  read bound t := match t.input.read bound with
    | .error reason => .error (.readFailed reason) t
    | .ok (line, rest) => .ok line { t with input := rest }
  write b t := match t.output.write b with
    | (false, output) => .error .writeFailed { t with output }
    | (true, output) => .ok () { t with output }
  discardLine t := match t.input.discardLine with
    | .error reason => .error (.readFailed reason) t
    | .ok rest => .ok () { t with input := rest }
  report events t := .ok () { t with events := events.reverseAux t.events }
  keep server t := .ok () { t with server }

def served (t : Exchange σ) (stop : Server.Stop) : Server.Served σ :=
  ⟨t.server, t.output, t.events.reverse, stop⟩

def proceed : EStateM.Result Server.Stop (Exchange σ) (Option (Server σ)) → Server.Served σ
  | .ok none t => t.served .closed
  | .ok (some server) t => server.serveFrom t.input t.output t.events
  | .error stop t => t.served stop

lemma proceed_discardLine (t : Exchange σ) (server : Server σ) (unfinished : Bool) :
    proceed ((if unfinished then do
        streams.discardLine
        return some server
      else return some server : EStateM Server.Stop (Exchange σ) _).run t) =
      if unfinished then
        match t.input.discardLine with
        | .error reason => t.served (.readFailed reason)
        | .ok rest => server.serveFrom rest t.output t.events
      else server.serveFrom t.input t.output t.events := by
  cases unfinished with
  | false => rfl
  | true =>
    simp only [if_true, streams, EStateM.run, bind, EStateM.bind]
    cases t.input.discardLine <;> rfl

end Exchange

namespace Server

/-- The loop takes the turns that a running program takes on streams of its own. -/
theorem serveFrom_eq_turn (server : Server σ) (input : Input) (output : Output)
    (events : List Event) :
    serveFrom server input output events =
      Exchange.proceed ((server.turn Exchange.streams).run ⟨server, input, output, events⟩) := by
  rw [serveFrom_eq]
  simp only [turn, Exchange.streams, EStateM.run, bind, EStateM.bind]
  cases input.read server.readBound with
  | error reason => rfl
  | ok read =>
    obtain ⟨_ | ⟨c, line⟩, rest⟩ := read
    · rfl
    · simp only [List.isEmpty_cons, Bool.false_eq_true, if_false]
      generalize server.receive (c :: line) = step
      generalize server.isUnfinished (c :: line) = unfinished
      obtain ⟨response, reported, unwritten, written⟩ := step
      -- the server is kept as written before the rest of the line is discarded
      cases response with
      | none => exact (Exchange.proceed_discardLine ⟨written, rest, output, _⟩ _ _).symm
      | some r =>
        simp only [writeResponse, EStateM.bind]
        obtain ⟨_ | _, output⟩ := output.write r.line.bytes
        · rfl
        · exact (Exchange.proceed_discardLine ⟨written, rest, output, _⟩ _ _).symm

def after (server : Server σ) (ls : List Bytes) : Server σ :=
  ls.foldl (fun s line => (s.receive line).written) server

def responses : Server σ → List Bytes → List (Option Response)
  | _, [] => []
  | server, line :: rest =>
    (server.receive line).response :: responses (server.receive line).written rest

lemma after_nil (server : Server σ) : server.after [] = server := rfl

lemma after_cons (server : Server σ) (line : Bytes) (rest : List Bytes) :
    server.after (line :: rest) = (server.receive line).written.after rest := rfl

lemma after_append (server : Server σ) (ls ms : List Bytes) :
    server.after (ls ++ ms) = (server.after ls).after ms := List.foldl_append

lemma responses_append (server : Server σ) (ls ms : List Bytes) :
    server.responses (ls ++ ms) = server.responses ls ++ (server.after ls).responses ms := by
  induction ls generalizing server with
  | nil => rfl
  | cons line rest ih => rw [List.cons_append, responses, ih, responses, after_cons, List.cons_append]

lemma getElem?_responses (server : Server σ) (ls : List Bytes) (i : Nat) :
    (server.responses ls)[i]? =
      ls[i]?.map fun line => ((server.after (ls.take i)).receive line).response := by
  induction ls generalizing server i with
  | nil => rfl
  | cons line rest ih =>
    cases i with
    | zero => rfl
    | succ i =>
      rw [responses, List.getElem?_cons_succ, ih, List.getElem?_cons_succ, List.take_succ_cons,
        after_cons]

lemma exists_receive_of_mem_responses {server : Server σ} {ls : List Bytes} {r : Response}
    (h : some r ∈ server.responses ls) :
    ∃ (reached : Server σ) (line : Bytes), (reached.receive line).response = some r := by
  obtain ⟨i, hi⟩ := List.mem_iff_getElem?.mp h
  rw [getElem?_responses] at hi
  obtain ⟨line, _, hr⟩ := Option.map_eq_some_iff.mp hi
  exact ⟨_, line, hr⟩

end Server

structure Session (σ : Type) where
  server : Server σ
  output : Bytes
  events : List Event

namespace Session

def start (server : Server σ) : Session σ := ⟨server, [], []⟩

def next (t : Session σ) (line : Bytes) : Session σ :=
  let step := t.server.receive line
  ⟨step.written, t.output ++ responseBytes step.response, t.events ++ step.events⟩

lemma server_foldl_next (t : Session σ) (ls : List Bytes) :
    (ls.foldl next t).server = t.server.after ls := by
  induction ls generalizing t with
  | nil => rfl
  | cons line rest ih => exact ih (t.next line)

lemma output_foldl_next (t : Session σ) (ls : List Bytes) :
    (ls.foldl next t).output = t.output ++ (t.server.responses ls).flatMap responseBytes := by
  induction ls generalizing t with
  | nil => simp [Server.responses]
  | cons line rest ih =>
    rw [List.foldl_cons, ih, Server.responses, List.flatMap_cons, ← List.append_assoc]
    rfl

end Session

end TemplateServer
