import TestScribe.CommandLine.Session

/-!
The program. It takes a picture of those files that an export can ask for, makes the export on the
picture, and puts the files that are new or changed into place.
-/

open TestScribe

namespace TestScribe.Program

def usage : String :=
  "usage: side-code-export [-h] [--base-url BASE_URL] [--filter FILTER] "
    ++ "[--mode \x7btest,suite\x7d] [--debug] [format] [project] [output_dir]"

/-- The variables that are looked for in the environment, in this spelling only; a file `.env` is
not read. -/
def settingNames : List String :=
  ["SIDE_EXPORT_LOG_LEVEL", "SIDE_EXPORT_JSON_LOGS", "SIDE_EXPORT_DEFAULT_MODE",
   "SIDE_EXPORT_DEFAULT_FILTER"]

def environment : IO (List (Text × Text)) :=
  settingNames.filterMapM fun name => do
    return (← IO.getEnv name).map fun value => (name.toList, value.toList)

def textOf (p : Path) : String := String.ofList p.toText

/-- What there is at a path below a directory: what can be found but not read is a directory. -/
def probe (path : String) : IO (Option Entry) := do
  try
    let bytes ← IO.FS.readBinFile path
    return some (.file (.bytes bytes.toList))
  catch
    | .noFileOrDirectory .. => return none
    | _ => return some .directory

def look (files : FileTree) (p : Path) : IO FileTree := do
  let parts := p.resolved.parts
  let mut files := files
  for n in List.range parts.length do
    let way := parts.take (n + 1)
    if files.isDirectory way.dropLast && (files.at? way).isNone then
      if let some e ← probe (textOf ⟨1, way⟩) then files := files.put way e
  return files

def firstPaths (cwd : Path) (argv : List Text) : List Path :=
  match CommandLine.Arguments.read argv with
  | .ok a => [a.format, a.project, a.directory].filterMap fun t =>
      t.map fun t => cwd.join (Path.ofText t)
  | .error _ => []

def pluginPaths (files : FileTree) (p : Path) : List Path :=
  match Project.load files p with
  | .error _ => []
  | .ok project =>
    match Plugins.correctedAll p project.plugins with
    | .error _ => []
    | .ok references => (references.filter Plugins.isPath).flatMap fun t =>
        let q := Path.ofText t
        [q, ⟨q.slashes, q.parts ++ [Library.indexFile]⟩]

/-- The files of one tree that are not the same in the other. -/
def changed (before after : FileTree) : List (Path × FileContent) :=
  after.entries.filterMap fun (l, e) =>
    match e with
    | .file c => if before.at? l = some e then none else some (⟨1, l⟩, c)
    | .directory => none

def put (p : Path) (c : FileContent) : IO Unit := do
  IO.FS.createDirAll (textOf p.parent)
  match c with
  | .text t => IO.FS.writeFile (textOf p) (String.ofList t)
  | .bytes bs => IO.FS.writeBinFile (textOf p) ⟨bs.toArray⟩

def codeOf : CommandLine.Exit → UInt32
  | .stopped n | .returned n => n.toUInt32

def crashText : CommandLine.Crash → Text
  | .settings e => "invalid value for " ++ e.name ++ ": " ++ Text.quoted e.value
  | .fault f => f.message

end TestScribe.Program

open TestScribe.Program in
def main (args : List String) : IO UInt32 := do
  let argv := args.map String.toList
  let here := (toString (← IO.currentDir)).toList
  let env ← environment
  let mut files : FileTree := {}
  for p in Path.ofText here :: firstPaths (Path.ofText here) argv do
    files ← look files p
  for p in (firstPaths (Path.ofText here) argv).flatMap (pluginPaths files) do
    files ← look files p
  let library : Library := { named := Builtin.modules }
  let go (files : FileTree) :=
    CommandLine.run { files, library } here env argv fun ids => turns ids 1
  for (p, _) in changed files (go files).1.files do
    files ← look files p
  let (world, result) := go files
  for (p, c) in changed files world.files do
    put p c
  match result with
  | .error crash =>
    IO.eprintln (String.ofList (crashText crash))
    return 1
  | .ok finish =>
    match finish.printed with
    | .help => IO.println usage
    | .text t => IO.print (String.ofList t)
    return codeOf finish.exit
