/-!
# Help

What the program says about its own use: a page on the program and one on each
of its commands.  A page tells the purpose and the usage, then lists what can be
written.  A brief list gives an entry a line, a detailed one a paragraph.
-/

namespace BiometricSession

/-- One thing that can be written among the arguments. -/
structure HelpEntry where
  form : String
  /-- Its meaning in a brief list. -/
  brief : String
  /-- Its meaning in a detailed list, line by line. -/
  detailed : List String
  deriving DecidableEq, Repr

namespace HelpEntry

/-- An entry that a brief and a detailed list explain in the same words. -/
def plain (form meaning : String) : HelpEntry :=
  ⟨form, meaning, [meaning]⟩

def verbose : HelpEntry :=
  plain "-v, --verbose" "Log at debug level"

def config (meaning : String) : HelpEntry :=
  plain "-c, --config <CONFIG>" meaning

def format : HelpEntry :=
  ⟨"    --format <FORMAT>", "[default: text] [possible values: text, json]",
    ["[default: text]", "", "Possible values:", "- text",
      "- json: One JSON object per line"]⟩

def owner : HelpEntry :=
  plain "    --owner-pid <OWNER_PID>"
    "Treat this process as the session owner and watch it for death"

def help : HelpEntry :=
  plain "-h, --help" "Print help"

/-- The option for a page that can be had in brief and in detail. -/
def helpOrMore : HelpEntry :=
  ⟨"-h, --help", "Print help (see more with '--help')",
    ["Print help (see a summary with '-h')"]⟩

/-- A line whose meaning starts in the same column as in the other lines. -/
def briefLine (width : Nat) (entry : HelpEntry) : String :=
  "  " ++ entry.form ++ String.ofList (List.replicate (width - entry.form.length) ' ') ++
    "  " ++ entry.brief

/-- A line of an indented paragraph; an empty one stays empty. -/
def indented (line : String) : String :=
  if line = "" then "" else "          " ++ line

def paragraph (entry : HelpEntry) : List String :=
  ("  " ++ entry.form) :: entry.detailed.map indented

end HelpEntry

/-- A list of what can be written. -/
structure HelpList where
  title : String
  entries : List HelpEntry
  deriving DecidableEq, Repr

namespace HelpList

def width (list : HelpList) : Nat :=
  (list.entries.map (·.form.length)).foldl max 0

/-- A list with an entry a line. -/
def briefLines (list : HelpList) : List String :=
  list.title :: list.entries.map (·.briefLine list.width)

/-- A list with a paragraph for an entry, and an empty line between two. -/
def detailedLines (list : HelpList) : List String :=
  list.title :: [""].intercalate (list.entries.map (·.paragraph))

end HelpList

/-- A page about the use of the program. -/
inductive HelpPage where
  | program
  /-- How to replay a script, in brief or in detail. -/
  | replay (isDetailed : Bool)
  | checkConfig
  /-- How to ask for a page. -/
  | help
  deriving DecidableEq, Repr

namespace HelpPage

def purpose : HelpPage → String
  | program => "Replay biometric HAL sessions against the session monitor"
  | replay _ => "Replay a scripted event trace against one session"
  | checkConfig => "Print the effective monitor configuration"
  | help => "Print this message or the help of the given subcommand(s)"

def usage : HelpPage → String
  | program => "Usage: biomon [OPTIONS] <COMMAND>"
  | replay _ => "Usage: biomon replay [OPTIONS] <SCRIPT>"
  | checkConfig => "Usage: biomon check-config [OPTIONS]"
  | help => "Usage: biomon help [COMMAND]..."

def lists : HelpPage → List HelpList
  | program =>
      [⟨"Commands:",
          [.plain "replay" (replay false).purpose, .plain "check-config" checkConfig.purpose,
            .plain "help" help.purpose]⟩,
        ⟨"Options:", [.verbose, .help]⟩]
  | replay _ =>
      [⟨"Arguments:", [.plain "<SCRIPT>" "Path to the replay script (TOML)"]⟩,
        ⟨"Options:",
          [.config "Monitor configuration file (defaults to the user config dir)", .verbose,
            .format, .owner, .helpOrMore]⟩]
  | checkConfig => [⟨"Options:", [.config "", .verbose, .help]⟩]
  | help => [⟨"Arguments:", [.plain "[COMMAND]..." "Print help for the subcommand(s)"]⟩]

def listLines : HelpPage → HelpList → List String
  | replay true, list => list.detailedLines
  | _, list => list.briefLines

def lines (page : HelpPage) : List String :=
  [page.purpose, "", page.usage] ++
    page.lists.flatMap fun list => "" :: page.listLines list

end HelpPage

end BiometricSession
