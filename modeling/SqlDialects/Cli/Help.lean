import SqlDialects.Cli.Arguments

/-!
# Help texts

What the program prints about itself and its commands.
-/

namespace SqlDialects.Cli

/-- The name of the program with its version. -/
def versionText : String := "quill 0.1.0\n"

namespace HelpTopic

/-- Lines of text. -/
def lines (texts : List String) : String := String.join (texts.map (· ++ "\n"))

/-- The help on the program. -/
def programText : String := lines [
  "Quill - Dialect-aware SQL AST translation",
  "",
  "Usage: quill <COMMAND>",
  "",
  "Commands:",
  "  translate  Translate a JSON statement to SQL",
  "  dialects   List supported dialects and their capabilities",
  "  help       Print this message or the help of the given subcommand(s)",
  "",
  "Options:",
  "  -h, --help     Print help",
  "  -V, --version  Print version"]

/-- The brief help on translating. -/
def translateText : String := lines [
  "Translate a JSON statement to SQL",
  "",
  "Usage: quill translate [OPTIONS] <FILE>",
  "",
  "Arguments:",
  "  <FILE>  Path to the statement JSON file",
  "",
  "Options:",
  "  -d, --dialect <DIALECT>    SQL dialect to generate (defaults to the configured dialect) "
    ++ "[possible values: ansi, hsql, postgres, mysql]",
  "  -c, --config <CONFIG>      Config file (defaults to QUILL_CONFIG, ./quill.toml, then the user "
    ++ "config dir)",
  "  -b, --bindings <BINDINGS>  JSON object of named parameter values to bind",
  "  -o, --output <OUTPUT>      Output format [default: sql] [possible values: sql, json]",
  "  -h, --help                 Print help (see more with '--help')"]

/-- The blanks in front of a description on a line of its own. -/
def indent : String := "          "

/-- The help on translating at length. -/
def translateLongText : String := lines [
  "Translate a JSON statement to SQL",
  "",
  "Usage: quill translate [OPTIONS] <FILE>",
  "",
  "Arguments:",
  "  <FILE>",
  indent ++ "Path to the statement JSON file",
  "",
  "Options:",
  "  -d, --dialect <DIALECT>",
  indent ++ "SQL dialect to generate (defaults to the configured dialect)",
  indent,
  indent ++ "[possible values: ansi, hsql, postgres, mysql]",
  "",
  "  -c, --config <CONFIG>",
  indent ++ "Config file (defaults to QUILL_CONFIG, ./quill.toml, then the user config dir)",
  "",
  "  -b, --bindings <BINDINGS>",
  indent ++ "JSON object of named parameter values to bind",
  "",
  "  -o, --output <OUTPUT>",
  indent ++ "Output format",
  "",
  indent ++ "Possible values:",
  indent ++ "- sql:  SQL followed by the parameter list",
  indent ++ "- json: The whole operation as JSON",
  indent,
  indent ++ "[default: sql]",
  "",
  "  -h, --help",
  indent ++ "Print help (see a summary with '-h')"]

/-- The help on listing dialects. -/
def dialectsText : String := lines [
  "List supported dialects and their capabilities",
  "",
  "Usage: quill dialects",
  "",
  "Options:",
  "  -h, --help  Print help"]

/-- The help on help. -/
def helpText : String := lines [
  "Print this message or the help of the given subcommand(s)",
  "",
  "Usage: quill help [COMMAND]...",
  "",
  "Arguments:",
  "  [COMMAND]...  Print help for the subcommand(s)"]

/-- The help on a topic. -/
def text : HelpTopic → String
  | program => programText
  | translate long => if long then translateLongText else translateText
  | dialects => dialectsText
  | help => helpText

end HelpTopic

end SqlDialects.Cli
