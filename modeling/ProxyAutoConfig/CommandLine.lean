import ProxyAutoConfig.Session

/-!
# The command line

Arguments: a specifier, a URL to look up, and authorities. The script's decision for the URL is
printed, then one line for each candidate of a second lookup, with passwords hidden.
-/

namespace ProxyAutoConfig.CommandLine

/-- What a run of the program leaves. -/
structure Report where
  exit : UInt8
  output : String
  errors : String
  /-- The level of the log, if there is to be one. -/
  level : Option Log.Level
  journal : Journal

/-- How the program is called. -/
def usage : String :=
  "usage: pacproxy <pac-source> [url] [authority-uri...]"

/-- The URL that is looked up where none is given. -/
def defaultUrl : String := "http://www.example.com/"

/-- Lines, each with its end. -/
def lines (ls : List String) : String :=
  String.join (ls.map (· ++ "\n"))

/-- A candidate as it is printed. -/
def line (c : Candidate) : String :=
  match c.uri? with
  | some uri => c.mode.word ++ " " ++ uri.redacted
  | none => c.mode.word

/-- A report of success. -/
def succeeded (level : Option Log.Level) (journal : Journal) (printed : List String) : Report :=
  ⟨0, lines printed, "", level, journal⟩

/-- A report of a failure, after what has been printed before it. -/
def failed (level : Option Log.Level) (journal : Journal) (printed : List String) (f : Failure) :
    Report :=
  ⟨1, lines printed, lines ["Error: " ++ f.message], level, journal⟩

/-- Look up a URL twice: once for the decision, and once for the candidates. -/
def lookUp (w : World) (level : Option Log.Level) (url : String) (session : Session)
    (opening : Journal) : Report :=
  match session.use (Session.decision w url) with
  | (.error f, _, first) => failed level (opening.append first) [] f
  | (.ok text, session, first) =>
    match session.use (Session.candidates w url) with
    | (.error f, _, second) => failed level ((opening.append first).append second) [text] f
    | (.ok found, _, second) =>
      succeeded level ((opening.append first).append second) (text :: found.map line)

/-- Run the program. -/
def run (supply : Source.Supply) (w : World) (environment : Environment) :
    List String → Report
  | [] => ⟨1, "", lines [usage], none, Journal.empty⟩
  | specifier :: rest =>
    match Overrides.ofEnvironment environment with
    | .error f => failed none Journal.empty [] f
    | .ok overrides =>
      let options : Options := { Options.standard with overrides, authorities := rest.drop 1 }
      match (Session.open supply w options specifier).record with
      | (.error f, opening) => failed overrides.logLevel opening [] f
      | (.ok session, opening) =>
        lookUp w overrides.logLevel (rest.head?.getD defaultUrl) session opening

/-- The events of a report that its level lets through, those of the caller first. -/
def Report.events (r : Report) : List Log.Event :=
  match r.level with
  | some level => (r.journal.caller ++ r.journal.engine).filter (·.heardAt level)
  | none => []

/-- An event in a line. -/
def eventLine (e : Log.Event) : String :=
  " ".intercalate (e.level.word.toUpper :: e.message ::
    e.fields.map fun (name, value) => name ++ "=" ++ value)

end ProxyAutoConfig.CommandLine
