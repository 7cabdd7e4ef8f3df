import BiometricSession.Config.Basic
import BiometricSession.Log

/-!
# Texts and files

Configurations and scripts are read from texts, and texts from files.  What
can go wrong on the way is kept as a cause together with the contexts in which
it arose, outermost first.
-/

namespace BiometricSession

/-- What was being done when something went wrong. -/
inductive LoadContext where
  | invalidConfiguration
  | invalidScript
  | readingConfig (path : String)
  | parsingConfig (path : String)
  | readingScript (path : String)
  | parsingScript (path : String)
  deriving DecidableEq, Repr

namespace LoadContext

def text : LoadContext → String
  | invalidConfiguration => "Invalid monitor configuration"
  | invalidScript => "Invalid replay script"
  | readingConfig path => "Failed to read config file: " ++ path
  | parsingConfig path => "Failed to parse config file: " ++ path
  | readingScript path => "Failed to read script: " ++ path
  | parsingScript path => "In script: " ++ path

end LoadContext

/-- Why nothing could be loaded. -/
inductive LoadFault where
  /-- The file could not be read as text. -/
  | unreadable
  /-- The text is not in the notation. -/
  | malformed
  /-- The text holds something else than what was wanted. -/
  | undecodable (error : DecodeError)
  deriving DecidableEq, Repr

/-- A fault with the contexts in which it arose, outermost first. -/
structure LoadError where
  contexts : List LoadContext
  fault : LoadFault
  deriving DecidableEq, Repr

namespace LoadError

/-- The same error in a wider context. -/
def within (context : LoadContext) (error : LoadError) : LoadError :=
  { error with contexts := context :: error.contexts }

end LoadError

/-- What is found under a path. -/
inductive FileContent where
  | absent
  /-- There is something, but not a text. -/
  | unreadable
  | text (content : String)
  deriving DecidableEq, Repr

namespace FileContent

/-- The content of a file that holds the given bytes. -/
def ofBytes (bytes : List UInt8) : FileContent :=
  match String.fromUTF8? ⟨bytes.toArray⟩ with
  | some content => text content
  | none => unreadable

end FileContent

/-- Read a text in TOML as what a decoder wants. -/
def loadText {α : Type} (decoder : Decoder α) (context : LoadContext) (content : String) :
    Except LoadError α :=
  match Toml.read content with
  | none => .error ⟨[context], .malformed⟩
  | some data =>
      match decoder .toml data with
      | .ok value => .ok value
      | .error error => .error ⟨[context], .undecodable error⟩

namespace MonitorConfig

def parse (content : String) : Except LoadError MonitorConfig :=
  loadText decoder .invalidConfiguration content

/-- Read a configuration from a file, which must be there. -/
def load (path : String) : FileContent → Except LoadError MonitorConfig
  | .text content => (parse content).mapError (·.within (.parsingConfig path))
  | .absent | .unreadable => .error ⟨[.readingConfig path], .unreadable⟩

/-- Read a configuration from a file.  If there is no file, everything has its
default, and the log says so. -/
def loadOrDefault (path : String) (file : FileContent) :
    Except LoadError MonitorConfig × List LogRecord :=
  match file with
  | .absent =>
      (.ok standard, [.service .debug ("No config at " ++ path ++ ", using defaults")])
  | .unreadable | .text _ => (load path file, [])

def joinPath (directory name : String) : String :=
  if directory.toList.getLast? = some '/' then
    directory ++ name
  else
    directory ++ "/" ++ name

/-- Where the configuration is looked for: under the configuration directory if
its path starts at the root, and under the home directory otherwise. -/
def defaultPath (home : String) (configDirectory : Option String) : String :=
  let directory :=
    match configDirectory with
    | some path => if path.toList.head? = some '/' then path else joinPath home ".config"
    | none => joinPath home ".config"
  joinPath (joinPath directory "biomon") "config.toml"

end MonitorConfig

end BiometricSession
