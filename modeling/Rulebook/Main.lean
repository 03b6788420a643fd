import Rulebook.CommandLine.Run
import Rulebook.Files.Document

/-!
# The command line program

Looks at the files and environment variables that a command needs, runs it, and prints its transcript.
-/

set_option autoImplicit false

namespace Rulebook

/-- Reads a file, if it can be read. -/
def readContent? (path : String) : IO (Option (List UInt8)) := do
  try
    let bytes ← IO.FS.readBinFile path
    return some bytes.toList
  catch _ => return none

/-- Looks at what a path leads to. -/
def look (path : String) : IO Found := do
  let place := System.mkFilePath [path]
  if path.isEmpty then return .nothing
  else if ← place.isDir then
    let mut entries := []
    for e in ← place.readDir do
      if (Catalog.localeOf? e.fileName).isSome then
        entries := (e.fileName, ← readContent? (Path.within path e.fileName)) :: entries
    return .folder entries
  else
    match ← readContent? path with
    | some content => return .file content
    | none => return .nothing

/-- The environment variables that matter. -/
def variableNames : List String :=
  ["RULEFORGE_LOCALE", "RULEFORGE_FALLBACK_LOCALE", "RULEFORGE_CATALOG_DIR"]

/-- Looks at the surroundings as far as a command line needs them. -/
def surroundings (words : List String) : IO Surroundings := do
  let mut values := []
  for name in variableNames do
    if let some value ← IO.getEnv name then
      values := (name, value) :: values
  let settings := Settings.ofEnvironment (fun name ↦ values.lookup name)
  let commandPaths := match Invocation.read words with
    | .ok i => i.command.paths
    | .error _ => []
  let mut found := []
  for path in commandPaths ++ settings.catalogFolder.toList do
    found := (path, ← look path) :: found
  return { environment := fun name ↦ values.lookup name
           find := fun path ↦ (found.lookup path).getD .nothing
           reader := Yaml.reader
           written := Text.plainLine }

/-- What is reported about the end of a command. -/
def endLines [Platform] : CommandEnd → List String
  | .misused =>
    ["Usage: ruleforge [-v] rules list | rules parse SPECS... | " ++
      "validate [-r RULE] [--field NAME] [--locale LOCALE] [--raw] VALUE | " ++
      "check [--locale LOCALE] SCHEMA_PATH DATA_PATH"]
  | .failed f =>
    [f.kind.name ++ ": " ++ (match f.text with | .ok s => s | .error g => g.message)]
  | .code _ | .helped => []

end Rulebook

open Rulebook in
open scoped Rulebook.Platform in
/-- Runs the command line program. -/
def main (words : List String) : IO UInt32 := do
  let t := runCommandLine words (← surroundings words)
  for l in t.out do IO.println l
  for l in t.err ++ endLines t.ending do IO.eprintln l
  if let .helped := t.ending then
    for l in endLines .misused do IO.println l
  return UInt32.ofNat t.ending.exitCode
