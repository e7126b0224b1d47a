import CharacterSheet.CommandLine

/-!
# The program

Reads the files that the command line names, renders, and prints the document or why there is none.
-/

namespace CharacterSheet

/-- How the command is used. -/
def usage : String :=
  "Usage: sheetn [OPTIONS] <CHARACTER> <TEMPLATE>\n\n" ++
    "Arguments:\n" ++
    "  <CHARACTER>  Character JSON file\n" ++
    "  <TEMPLATE>   Template file\n\n" ++
    "Options:\n" ++
    "      --data-dir <DATA_DIR>  Directory with the rule data [default: data]\n" ++
    "      --config <CONFIG>      Configuration as JSON\n" ++
    "      --lenient              Show failed notation in place\n" ++
    "      --seed <SEED>          Seed of the identifiers\n" ++
    "  -v, --verbose              Report more\n" ++
    "  -h, --help                 Print help\n" ++
    "  -V, --version              Print version"

/-- The text of a file, if it can be read. -/
def readText? (path : String) : IO (Option Text) := do
  try
    let text ← IO.FS.readFile path
    pure (some text.toList)
  catch _ => pure none

/-- Runs the command with all its files read. -/
def runCommand (commandLine : CommandLine) : IO UInt32 := do
  let texts ← commandLine.paths.mapM fun path => do
    let text? ← readText? path
    pure (path, text?)
  let random ← IO.rand 0 (Nat.pow 2 64 - 1)
  let words (seed? : Option UInt64) : WordSource :=
    WordSource.ofSeed (seed?.getD random.toUInt64)
  match commandLine.run (fun path => (texts.lookup path).join) words with
  | .ok html =>
    IO.println (String.ofList html)
    pure 0
  | .error failure =>
    IO.eprintln s!"error: {failure.message}"
    pure 1

end CharacterSheet

/-- Reads the arguments and runs the command. -/
def main (arguments : List String) : IO UInt32 :=
  match CharacterSheet.CommandLine.read arguments with
  | .ok commandLine => CharacterSheet.runCommand commandLine
  | .error .help => do
    IO.println CharacterSheet.usage
    pure 0
  | .error .version => do
    IO.println "sheetn 0.1.0"
    pure 0
  | .error .usage => do
    IO.eprintln CharacterSheet.usage
    pure 2
