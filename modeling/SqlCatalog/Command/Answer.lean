-- SUMMARY: Answering a command line.
import SqlCatalog.Command.Options
import SqlCatalog.Command.Run

/-!
# Answers

The program as a function of its arguments, one environment variable and a
disk.
-/

namespace SqlCatalog.Command

/-- The environment variable that may name the configuration file. -/
def configVariable : String := "CAPIDB_CONFIG"

def programName : String := "capidb"

def versionNumber : String := "0.1.0-alpha.1"

def versionLine : Option Subcommand → String
  | none => programName ++ " " ++ versionNumber
  | some c => programName ++ "-" ++ c.name ++ " " ++ versionNumber

def Subcommand.about : Subcommand → String
  | .ddl => "Print the DDL that creates or migrates the declared tables"
  | .schema => "Display the loaded tables, columns and views"
  | .compile => "Compile a JSON query file into a SELECT statement"

def sharedOptions : List String := [
  "  -v, --verbose...  Enable verbose output (-v debug, -vv trace)",
  "  -q, --quiet       Suppress non-error output",
  "  -h, --help        Print help",
  "  -V, --version     Print version"]

def settingLine (s : Setting) : String :=
  match s.letter? with
  | some c => "  -" ++ String.singleton c ++ ", --" ++ s.name ++ " <VALUE>"
  | none => "      --" ++ s.name ++ " <VALUE>"

def usage : Option Subcommand → List String
  | none => [
      "Schema-driven SQL generator", "",
      "Usage: " ++ programName ++ " [OPTIONS] <COMMAND>", "",
      "Commands:",
      "  ddl      " ++ Subcommand.ddl.about,
      "  schema   " ++ Subcommand.schema.about,
      "  compile  " ++ Subcommand.compile.about,
      "  help     Print this message or the help of the given subcommand(s)", "",
      "Options:"] ++ sharedOptions
  | some c => [
      c.about, "",
      "Usage: " ++ programName ++ " " ++ c.name ++ " [OPTIONS]" ++
        (if c = .compile then " --table <TABLE> --view <VIEW> <QUERY>" else ""), "",
      "Options:"] ++ c.settings.map settingLine ++ sharedOptions

variable {m : Type → Type} [Monad m]

def answer (disk : Disk m) (environment : Option String) (args : List String) : m Outcome :=
  match Request.ofArguments environment args with
  | .run i => run disk i
  | .version c => return ⟨0, ofLines [versionLine c], []⟩
  | .help c => return ⟨0, ofLines (usage c), []⟩
  | .misuse => return ⟨2, "", []⟩

end SqlCatalog.Command
