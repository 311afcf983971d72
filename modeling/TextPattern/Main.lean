import TextPattern.Command.Run

/-!
# The program

`main` reads the files that a command names, runs the command and prints what it leads to.
-/

namespace TextPattern

def helpText : String :=
  "Validate, extract, sweep and synthesize with regular expressions\n\n" ++
  "Usage: regexkit [--quiet | --debug] COMMAND\n\n" ++
  "Commands:\n" ++
  "  validate PATTERN                    whether a pattern compiles\n" ++
  "  extract PATTERN [-l N] [-o BITS]    the occurrences of a pattern, as JSON\n" ++
  "  matches PATTERN [-o BITS]           whether a pattern matches the whole input\n" ++
  "  find PATTERN [-o BITS]              whether a pattern occurs in the input\n" ++
  "  sweep [-c FILE [--no-defaults]]     the findings of a catalog, as JSON\n" ++
  "  generate PATTERN [-l N] [-s SEED] [-n COUNT]\n" ++
  "                                      random texts for a pattern\n" ++
  "  range BOUND [-c COMPARISON] [--sql] patterns of the numbers below a bound\n\n" ++
  "The input is that of -i TEXT or -f FILE, or else standard input.\n"

/-- The file or folder that a path leads to, if there is one. -/
def readNode (path : String) : IO (Option FileNode) := do
  try
    return some (.file (← IO.FS.readBinFile path))
  catch
    | .noFileOrDirectory .. => return none
    | _ => return some .folder

def readStandardInput : IO ByteArray := do
  (← IO.getStdin).readBinToEnd

/-- What a command can read, with the files that it names. -/
def surroundings (reading : Reading) : IO Surroundings := do
  let (paths, standard) := match reading with
    | .run i => (i.command.paths, i.command.input? == some InputChoice.standard)
    | _ => ([], false)
  let nodes ← paths.mapM fun path => return (path, ← readNode path)
  let terminal ← (← IO.getStdin).isTty
  let input ← if standard && !terminal then readStandardInput else pure .empty
  return {
    files := fun path => (nodes.lookup path).join
    standardInput := input
    terminal := terminal
    disclosure := ← IO.getEnv "REGEXKIT_ALLOW_DEBUG_PII"
    seed := (← IO.rand 0 (0xFFFFFFFFFFFFFFFF)).toUInt64 }

def runProgram (words : List String) : IO UInt32 := do
  let outcome := runCommandLine (← surroundings (readCommandLine words)) words
  for e in outcome.log do
    IO.eprintln e.line
  match outcome.printed with
  | .text value => IO.print value
  | .help => IO.print helpText
  match outcome.report with
  | .nothing => pure ()
  | .usage => IO.eprint helpText
  | .failure f => IO.eprintln ("Error: " ++ f.message)
  return outcome.exit.toUInt32

end TextPattern

def main (words : List String) : IO UInt32 := TextPattern.runProgram words
