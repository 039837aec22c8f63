import MakeTools.Server.Basic

/-!
# MakeTools.Session

A server and its client over a run of steps, while the files change.

The client keeps the tools that it listed last, and checks the arguments of
its calls against their schemas before it passes the calls on.  It lists again
only when it does not know the tool that is called.
-/

namespace MakeTools

/-- Everything that a step can change. -/
structure Session where
  disk : Disk
  server : Server
  /-- The tools that the client listed last. -/
  known : List Tool := []

namespace Session

/-- One step. -/
inductive Step where
  | change (path : Path) (c : Disk.Change)
  | start
  | list
  | call (tool : String) (arguments : List (String × Value))
  | inspect
  | clientList
  | clientCall (tool : String) (arguments : List (String × Value))

/-- The answer to one step. -/
inductive Answer where
  | changed
  | started (result : Except Server.StartProblem (List String))
  | tools (result : Except Disk.Refusal (List Tool))
  | text (s : String)
  | state (catalog : Option Catalog) (recorded : List (List String))
  | clientText (s : String) (isError : Bool)

/-- The reply to one step. -/
abbrev Reply := Server.Reply Answer

/-- The tool of this name that the client knows. -/
def known? (s : Session) (tool : String) : Option Tool := s.known.find? (·.name == tool)

/-- List the tools for the client, which remembers them. -/
def relist (s : Session) : Session × Server.Reply (Except Disk.Refusal (List Tool)) :=
  let (server, reply) := s.server.list s.disk
  ({ s with server, known := reply.answer.toOption.getD s.known }, reply)

/-- Look a tool up for the client: among those it knows, or else after listing
them again. -/
def findTool (s : Session) (tool : String) :
    Session × Server.Reply (Except Disk.Refusal (Option Tool)) :=
  match s.known? tool with
  | some t => (s, { answer := .ok (some t) })
  | none =>
    let (s, reply) := s.relist
    (s, { reply with answer := reply.answer.map fun _ => s.known? tool })

/-- What the client has to complain about in the arguments of a call. -/
def complaint? (tool : Option Tool) (arguments : List (String × Value)) :
    Option Schema.Complaint :=
  tool.bind fun t => t.schema.check arguments

/-- Call a tool through the server. -/
def callServer (s : Session) (tool : String) (arguments : List (String × Value)) :
    Session × Server.Reply String :=
  let (server, reply) := s.server.call s.disk tool arguments
  ({ s with server }, reply)

/-- Call a tool through the client. -/
def clientCall (s : Session) (tool : String) (arguments : List (String × Value)) :
    Session × Reply :=
  let (s, found) := s.findTool tool
  match found.answer with
  | .error r => (s, { found with answer := .clientText r.message true })
  | .ok t =>
    match complaint? t arguments with
    | some c => (s, { found with answer := .clientText c.message true })
    | none =>
      let (s, reply) := s.callServer tool arguments
      (s, { answer := .clientText reply.answer false
            events := reply.events
            log := found.log ++ reply.log })

/-- Take one step. -/
def step (s : Session) : Step → Session × Reply
  | .change path c => ({ s with disk := s.disk.apply path c }, { answer := .changed })
  | .start =>
    let (server, reply) := s.server.start s.disk
    ({ s with server }, { reply with answer := .started reply.answer })
  | .list =>
    let (server, reply) := s.server.list s.disk
    ({ s with server }, { reply with answer := .tools reply.answer })
  | .call tool arguments =>
    let (s, reply) := s.callServer tool arguments
    (s, { reply with answer := .text reply.answer })
  | .inspect => (s, { answer := .state s.server.catalog s.server.recorded })
  | .clientList =>
    let (s, reply) := s.relist
    (s, { reply with answer := .tools reply.answer })
  | .clientCall tool arguments => s.clientCall tool arguments

/-- Take steps one after the other. -/
def run (s : Session) : List Step → Session × List Reply
  | [] => (s, [])
  | step :: steps =>
    let (s, reply) := s.step step
    let (s, replies) := s.run steps
    (s, reply :: replies)

end Session
end MakeTools
