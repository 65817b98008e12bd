import StreamingLM.Config.File
import StreamingLM.Server.Echo
import StreamingLM.Server.Llama
import StreamingLM.Server.Parrot

/-!
Servers of every kind behind one interface: a server is made from settings, loads its model on
demand, turns conversations into prompts, and runs them. Two kinds come with the library; the third
stands for those that others bring along.
-/
namespace StreamingLM

/-- Settings on offer to a server: none, a file of them, or settings at hand, of which only the name
is known when no server takes them. -/
inductive Offer where
  | defaults
  | file (path : String)
  | settings (c : ServerConfig)
  | foreign (kind : String)

/-- What a server needs from around it: the files, the filling of fresh parameters, and a seed where
a fresh one is asked for. -/
structure Surroundings (α : Type) where
  files : Directory α := .empty
  fresh : Filling α
  seed : Int := 1

inductive Server (α : Type) where
  | parrot (s : ParrotServer)
  | llama (s : LlamaServer α)
  | echo (s : EchoServer)

namespace Server

variable {σ α : Type} [Scalar α]

def accepts : ServerKind → ServerConfig → Bool
  | .llama, .llama _ => true
  | .llama, .parrot => false
  | _, .parrot => true
  | _, .llama _ => false

def settings (d : Directory α) (kind : ServerKind) : Offer → Except Failure ServerConfig
  | .defaults => .ok kind.defaultConfig
  | .file path => kind.configAt d path
  | .settings c =>
    if accepts kind c then .ok c
    else .error (.wrongConfig kind.serverName kind.configName c.kind.configName)
  | .foreign name => .error (.wrongConfig kind.serverName kind.configName name)

def ofConfig : ServerKind → ServerConfig → Server α
  | .parrot, _ => parrot {}
  | .echo, _ => echo {}
  | .llama, .llama c => llama ⟨c, none⟩
  | .llama, .parrot => llama ⟨{}, none⟩

def kind : Server α → ServerKind
  | parrot _ => .parrot
  | llama _ => .llama
  | echo _ => .echo

def config : Server α → ServerConfig
  | llama s => .llama s.config
  | _ => .parrot

/-- Load the model; the result tells whether there was anything to load. -/
def load (around : Surroundings α) : Server α → Attempt (Server α) Bool
  | parrot s =>
    let (loaded, s) := s.load
    (.ok loaded, parrot s)
  | llama s =>
    let (r, s) := s.load around.fresh around.files
    (r, llama s)
  | echo s => (.ok false, echo (s.note "load"))

def loadStats (t : Timing) : Server α → Stats
  | llama _ => StreamingLM.loadStats t.loading
  | _ => StreamingLM.loadStats 0.0

def unload : Server α → Server α
  | parrot s => parrot s.unload
  | llama s => llama s.unload
  | echo s => echo (s.note "unload")

def isLoaded : Server α → Bool
  | parrot s => s.loaded
  | llama s => s.isLoaded
  | echo _ => true

def clearState : Server α → Attempt (Server α) Unit
  | parrot s => (.ok (), parrot s)
  | llama s => let (r, s) := s.clearState; (r, llama s)
  | echo s => (.ok (), echo (s.note "clear"))

/-- The prompt of a conversation: contents alone, unless the model has a markup of its own. -/
def render (s : Server α) (messages : List Message) : Except Failure String :=
  match s with
  | llama s => s.render messages
  | _ => ChatTemplate.plain.render messages

def runPrompt (around : Surroundings α) (s : Server α) (prompt : String) (l : Listener σ)
    (audience : σ) : Attempt (Server α × σ) Completion :=
  match s with
  | parrot s => let (r, s, a) := s.runPrompt prompt l audience; (r, parrot s, a)
  | echo s => let (r, s, a) := s.runPrompt prompt l audience; (r, echo s, a)
  | llama s =>
    let (r, s, a) := s.runPrompt around.fresh around.seed around.files prompt l audience
    (r, llama s, a)

def runCompletion (around : Surroundings α) (s : Server α) (messages : List Message)
    (l : Listener σ) (audience : σ) : Attempt (Server α × σ) Completion :=
  match s.render messages with
  | .ok prompt => s.runPrompt around prompt l audience
  | .error f => (.error f, (s, audience))

def reply (around : Surroundings α) (s : Server α) (messages : List Message) :
    Attempt (Server α) Completion :=
  let (r, s, _) := s.runCompletion around messages .collecting {}
  (r, s)

end Server
end StreamingLM
