import TagSelect.Shell

/-!
# The program

Reads files and lines and prints replies. Everything else is decided in the shell.
-/

namespace TagSelect.Shell

/-- The code with which the system refuses to read a folder. -/
def directoryCode : UInt32 := 21

/-- What there is at a path of the file system. A path through a file, or one that is too long,
leads nowhere. -/
def readContent (path : String) : IO FileContent := do
  try
    return .bytes (← IO.FS.readBinFile path)
  catch
    | .noFileOrDirectory .. => return .missing
    | .inappropriateType _ code _ =>
      return if code = directoryCode then .unreadable .isDirectory else .missing
    | .invalidArgument .. => return .missing
    | e => return .unreadable (.other (toString e))

/-- Prints a reply. -/
def Reply.print : Reply → IO Unit
  | silent => pure ()
  | output s => IO.println s
  | error s => IO.eprintln s
  | failure => pure ()

/-- Answers lines until the input or the session ends, and gives the exit code. -/
partial def Session.loop (s : Session) (input : IO.FS.Stream) : IO UInt32 := do
  let line ← input.getLine
  if line.isEmpty then return 0
  let (next, reply) := s.answer (line.toList.filter (· != '\n'))
  reply.print
  match next with
  | some s => s.loop input
  | none => return exitOf [reply]

/-- Prints a report and gives its exit code. -/
def Report.print (r : Report) : IO UInt32 := do
  IO.print r.output
  IO.eprint r.error
  return r.exit

/-- The content of the file that an option names. -/
def contentOf (path : Option String) : IO FileContent :=
  match path with
  | some path => readContent path
  | none => return .missing

end TagSelect.Shell

open TagSelect.Shell in
def main (args : List String) : IO UInt32 := do
  match Invocation.ofArguments args with
  | .run options =>
    let config ← contentOf options.config
    let tags ← contentOf options.tags
    let file (path : String) := if options.config = some path then config else tags
    match options.session file with
    | .error report => report.print
    | .ok session =>
      match options.command with
      | some filter => (session.once filter).print
      | none =>
        IO.println session.banner
        session.loop (← IO.getStdin)
  | _ => (program args (fun _ => .missing) "").print
