import SchemaSieve.Command.Arguments
import SchemaSieve.Text.Lines

/-!
# Help texts

The texts that the program prints about itself.
-/

namespace SchemaSieve.Command

open Text

def versionText : String := "sdl-filter 0.0.1\n"

def programHelp : String :=
  unlines [
    "Usage: sdl-filter [OPTIONS] [COMMAND]",
    "",
    "Commands:",
    "  filter  Filter a schema file into a destination file",
    "  help    Print this message or the help of the given subcommand(s)",
    "",
    "Options:",
    "  -v, --verbose  Enable verbose output.",
    "  -h, --help     Print help",
    "  -V, --version  Print version"]

def filterHelp : String :=
  unlines [
    "Filter a schema file into a destination file",
    "",
    "Usage: sdl-filter filter [OPTIONS] <SOURCE> <DEST>",
    "",
    "Arguments:",
    "  <SOURCE>  Path to the schema file to filter.",
    "  <DEST>    Path to write the filtered schema to. An existing file is first "
      ++ "backed up to `.bk.<name>` beside it.",
    "",
    "Options:",
    "      --config <CONFIG>  Path to a JSON filter config. Without one the schema is "
      ++ "only normalized.",
    "      --dry-run          Print the filtered schema to stdout instead of writing DEST.",
    "  -v, --verbose          Enable verbose output.",
    "      --log-removals     Log every removed field and the filter that removed it.",
    "      --preserve         Also emit the leading header comments, the scalar "
      ++ "declarations, and any trailing lines after the last block.",
    "  -h, --help             Print help"]

def helpHelp : String :=
  unlines [
    "Print this message or the help of the given subcommand(s)",
    "",
    "Usage: sdl-filter help [COMMAND]...",
    "",
    "Arguments:",
    "  [COMMAND]...  Print help for the subcommand(s)"]

def HelpTopic.text : HelpTopic → String
  | program => programHelp
  | filter => filterHelp
  | help => helpHelp

end SchemaSieve.Command
