import DualServer.Config.Loading

/-!
The settings in effect. All handles of one `Live` value share its content; a snapshot is a plain
value and does not follow later changes. The watcher turns events on the watched file into reloads.
A file that is overwritten is emptied and written in chunks, and events may come in between.
-/

namespace DualServer.Config

open DualServer.Text

structure Live where
  current : Settings
  deriving DecidableEq, Repr

namespace Live

def load (live : Live) : Settings := live.current

def store (_live : Live) (s : Settings) : Live := ⟨s⟩

end Live

inductive WatchEvent
  | modified
  | created
  | otherKind
  | failed (text : String)
  deriving DecidableEq, Repr

def WatchEvent.isChange : WatchEvent → Bool
  | modified => true
  | created => true
  | _ => false

inductive FileStep
  | emptied
  | appended (chunk : Bytes)
  | noticed (event : WatchEvent)

namespace FileStep

def isWrite : FileStep → Bool
  | noticed _ => false
  | _ => true

def after (file : Bytes) : FileStep → Bytes
  | emptied => []
  | appended chunk => file ++ chunk
  | noticed _ => file

end FileStep

/-- Steps that overwrite a file by some bytes, with events noticed anywhere between them. -/
def Overwrites (bytes : Bytes) (steps : List FileStep) : Prop :=
  ∃ chunks : List Bytes, chunks.flatten = bytes ∧
    steps.filter FileStep.isWrite = .emptied :: chunks.map .appended

/-- The events that the watcher notices, with what it then finds in the file. -/
def findings (file : Bytes) : List FileStep → List (WatchEvent × FileContent)
  | [] => []
  | .noticed event :: rest => (event, .ok file) :: findings file rest
  | step :: rest => findings (step.after file) rest

inductive Reload
  | ignored
  | reloaded
  | kept (error : LoadError)
  | watchError (text : String)
  deriving DecidableEq, Repr

variable [UrlReader]

def Live.watch (live : Live) (event : WatchEvent) (content : FileContent) : Live × Reload :=
  match event with
  | .failed text => (live, .watchError text)
  | event =>
    if event.isChange then
      match Config.load content with
      | .ok s => (live.store s, .reloaded)
      | .error e => (live, .kept e)
    else (live, .ignored)

/-- A run of events, each with the content the file has at that time. -/
def Live.watchAll (live : Live) (history : List (WatchEvent × FileContent)) : Live :=
  history.foldl (fun live (event, content) => (live.watch event content).1) live

/-- The settings in effect after some steps on a file, which had held those in effect before. -/
def seenAfter (file : Bytes) (s : Settings) (steps : List FileStep) : Settings :=
  (Live.watchAll ⟨s⟩ (findings file steps)).load

end DualServer.Config
