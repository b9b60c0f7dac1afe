import ProxyAutoConfig.Log

/-!
# What a session leaves behind

Besides its outcome, opening or using a session leaves events, told apart by the side that
reports them, and the downloads that it began. They stay when a later step fails.

A download begins with one request. Where an answer leads elsewhere, the client goes on by itself and
sends others, until it has the last answer or gives up.
-/

namespace ProxyAutoConfig

/-- A request for a script. -/
structure Request where
  url : String
  /-- The header with the credential. -/
  authorization : Option String
  deriving DecidableEq, Repr

/-- A download, with or without an answer. -/
structure Download where
  request : Request
  /-- What the client asks for by itself, to follow the answers to where they lead. -/
  onward : List Request
  /-- There is an answer in the end. -/
  answered : Bool
  deriving DecidableEq, Repr

/-- The requests of a download, the first one in front. -/
def Download.sent (d : Download) : List Request :=
  d.request :: d.onward

/-- Events and downloads, each in order. -/
structure Journal where
  /-- The events of whoever opens and uses a session. -/
  caller : List Log.Event
  /-- The events of the script engine. -/
  engine : List Log.Event
  downloads : List Download

namespace Journal

/-- Nothing has happened. -/
def empty : Journal :=
  ⟨[], [], []⟩

/-- The journal with another event of the caller. -/
def addCaller (j : Journal) (level : Log.Level) (message : String)
    (fields : List (String × String)) : Journal :=
  { j with caller := j.caller ++ [⟨level, message, fields⟩] }

/-- The journal with another event of the engine. -/
def addEngine (j : Journal) (level : Log.Level) (message : String)
    (fields : List (String × String)) : Journal :=
  { j with engine := j.engine ++ [⟨level, message, fields⟩] }

/-- One journal and then another. -/
def append (a b : Journal) : Journal :=
  ⟨a.caller ++ b.caller, a.engine ++ b.engine, a.downloads ++ b.downloads⟩

/-- The journal with another download. -/
def addDownload (j : Journal) (d : Download) : Journal :=
  { j with downloads := j.downloads ++ [d] }

/-- All requests that have been sent. -/
def sent (j : Journal) : List Request :=
  j.downloads.flatMap Download.sent

/-- The requests of the downloads that have been answered. -/
def requests (j : Journal) : List Request :=
  (j.downloads.filter Download.answered).map Download.request

end Journal

/-- A step that may fail and keeps a journal. -/
abbrev Recorded := EStateM Failure Journal

namespace Recorded

/-- Report an event of the caller. -/
def report (level : Log.Level) (message : String) (fields : List (String × String)) :
    Recorded Unit :=
  modify (·.addCaller level message fields)

/-- A step without events. -/
def ofOutcome {α : Type} (x : Outcome α) : Recorded α :=
  match x with
  | .ok a => pure a
  | .error f => throw f

/-- Run a step from an empty journal. -/
def record {α : Type} (x : Recorded α) : Outcome α × Journal :=
  match x Journal.empty with
  | .ok a j => (.ok a, j)
  | .error f j => (.error f, j)

end Recorded

end ProxyAutoConfig
