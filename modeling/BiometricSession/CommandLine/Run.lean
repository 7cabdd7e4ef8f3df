import BiometricSession.CommandLine.Arguments
import BiometricSession.Replay.Run

/-!
# Running the program

What the program prints and logs for its arguments, given the files it may read
and the processes that run.  A configuration that is asked for by its path must
be there; the one in the usual place may be missing.
-/

namespace BiometricSession

/-- What the program finds around it. -/
structure Environment where
  file : String → FileContent
  /-- Where the configuration is looked for if no path is given. -/
  defaultConfig : String
  processes : ProcessTable

/-- How a run of the program ends. -/
inductive ExitStatus where
  | success
  | failure
  | wrongArguments
  deriving DecidableEq, Repr

namespace ExitStatus

def code : ExitStatus → UInt32
  | success => 0
  | failure => 1
  | wrongArguments => 2

end ExitStatus

/-- What a run of the program comes to. -/
structure Outcome where
  status : ExitStatus
  /-- Lines for the standard output. -/
  output : List String
  /-- What went wrong, as far as the program says it. -/
  failure : Option String
  log : List LogRecord
  deriving DecidableEq, Repr

namespace Outcome

def ofRefusal : Refusal → Outcome
  | .mistake _ => ⟨.wrongArguments, [], none, []⟩
  | .helpWanted page => ⟨.success, page.lines, none, []⟩

/-- Something could not be loaded.  The program names the outermost context. -/
def ofLoadError (error : LoadError) (log : List LogRecord) : Outcome :=
  ⟨.failure, [], error.contexts.head?.map fun context => "Error: " ++ context.text, log⟩

/-- An outcome without the records that nobody asked for. -/
def quiet (verbose : Bool) (outcome : Outcome) : Outcome :=
  { outcome with log := outcome.log.filter fun record => verbose || record.level.isNormal }

end Outcome

namespace Environment

/-- Load the configuration under a path, or the usual one. -/
def loadConfig (environment : Environment) :
    Option String → Except LoadError MonitorConfig × List LogRecord
  | some path => (MonitorConfig.load path (environment.file path), [])
  | none =>
      MonitorConfig.loadOrDefault environment.defaultConfig
        (environment.file environment.defaultConfig)

/-- What the log says about the process behind the client. -/
def ownerRecords (hasToken : Bool) : Option UInt32 → List LogRecord
  | none => []
  | some process =>
      if hasToken then
        [.service .info
          ("Checking owner process " ++ inspect process ++ " before each event")]
      else
        [.service .warn
          ("Session has no client token, not watching pid " ++ inspect process)]

/-- Replay a script that was loaded along with a configuration. -/
def replay (environment : Environment) (config : MonitorConfig) (script : ReplayScript)
    (format : OutputFormat) (owner : Option UInt32) (log : List LogRecord) : Outcome :=
  let replay :=
    (script.run environment.processes config owner (fun _ => false) (script.clientToken owner)
      .initial).1
  ⟨.success, replay.lines.map format.write, none,
    log ++ ownerRecords script.session.withToken owner ++ replay.cookieRecords ++
      replay.records⟩

def execute (environment : Environment) : Command → Outcome
  | .replay scriptPath configPath format owner =>
      match environment.loadConfig configPath with
      | (.error error, log) => .ofLoadError error log
      | (.ok config, log) =>
          match ReplayScript.load scriptPath (environment.file scriptPath) with
          | .error error => .ofLoadError error log
          | .ok script => environment.replay config script format owner log
  | .checkConfig configPath =>
      match environment.loadConfig configPath with
      | (.error error, log) => .ofLoadError error log
      | (.ok config, log) =>
          ⟨.success, [config.toToml], none,
            log ++
              [.service .info
                ("Configuration OK for " ++ config.modality.logTag ++ " sessions")]⟩

def run (environment : Environment) (texts : List String) : Outcome :=
  match Invocation.ofArguments texts with
  | .ok invocation => (environment.execute invocation.command).quiet invocation.verbose
  | .error refusal => .ofRefusal refusal

end Environment

namespace Command

/-- The files that a command may read, given the usual place of the
configuration. -/
def paths (defaultConfig : String) : Command → List String
  | replay script config _ _ => [config.getD defaultConfig, script]
  | checkConfig config => [config.getD defaultConfig]

def process? : Command → Option UInt32
  | replay _ _ _ owner => owner
  | checkConfig _ => none

end Command

end BiometricSession
