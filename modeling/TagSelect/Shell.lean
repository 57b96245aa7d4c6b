import TagSelect.Compiler
import TagSelect.Filter.Outline
import TagSelect.Settings.File
import TagSelect.Shell.Line
import TagSelect.Shell.Options
import TagSelect.Sql.Writer

/-!
# The shell

The shell answers one line at a time. A line that begins with a dot is a command of the shell,
and any other line is a filter, which is answered with its statement. The command `.add` files a
tag, and is the only one that changes what later lines mean; `.exit` and `.quit` end the session,
and a line that cannot be read breaks it off.

`Session.answer` is one step and `Session.run` a whole session. `Program.run` does everything that
an invocation from the command line does, on given files and a given input.
-/

namespace TagSelect.Shell

open Sql

/-! ## Lines -/

/-- What a line is answered with: a line on the output, a line on the error output, or nothing. -/
inductive Reply where
  | silent
  | output (s : String)
  | error (s : String)
  /-- There is no answer, and the program fails. -/
  | failure
deriving DecidableEq, Repr

/-- The compiler and the dialect of a session. -/
structure Session where
  compiler : Compiler
  dialect : Dialect
deriving DecidableEq, Repr

/-- What a line does. -/
inductive Command where
  | nothing
  | leave
  | help
  | outline (filter : String)
  /-- Files a tag. The words are a name and an id, if there are two of them. -/
  | add (words : List String)
  | tags (entity : String)
  | unknown (name : String)
  | filter (text : String)
  /-- A line that cannot be read. -/
  | unreadable
deriving DecidableEq, Repr

/-- Reads a line without blanks at its ends. -/
def Command.ofText (line : String) : Command :=
  let name := (Text.cutAtBlank line).1
  let rest := Text.trim (Text.cutAtBlank line).2
  if line.isEmpty then .nothing
  else if name = ".exit" || name = ".quit" then .leave
  else if name = ".help" then .help
  else if name = ".ast" then .outline rest
  else if name = ".add" then .add (Text.words rest)
  else if name = ".tags" then .tags rest
  else if name.toList.head? = some '.' then .unknown name
  else .filter line

/-- Reads a line of input. -/
def Command.ofLine (line : List Char) : Command :=
  match erase? line with
  | some cs => ofText (String.ofList (Text.trimChars cs))
  | none => .unreadable

/-- The text that explains the commands. -/
def helpText : String :=
  "输入过滤表达式即可查看生成的 SQL，例如: tag1 & (tag2 | !tag3) & sort:newest\n" ++
  "\n" ++
  "命令:\n" ++
  "  .ast <filter>      显示表达式的 AST\n" ++
  "  .add <tag> <id>    向标签缓存中添加标签\n" ++
  "  .tags <entity id>  显示查询实体标签的 SQL\n" ++
  "  .help              显示帮助\n" ++
  "  .exit              退出"

/-- The id of an entity: an integer if it reads as one, and a text otherwise. -/
def entityValue (s : String) : Value :=
  match Text.int64? s with
  | some n => .bigInt n
  | none => .text s

/-- The text of an error about a filter. -/
def errorText (e : QueryError) (source : String) : String :=
  (e.annotate? source).getD ("error: " ++ e.message)

namespace Session

/-- The statement of a filter, or why there is none. -/
def query (s : Session) (filter : String) : Except String String :=
  match s.compiler.compileText filter with
  | .ok select => .ok (select.inlined s.dialect)
  | .error e => .error (errorText e filter)

/-- The outline of a filter, or why there is none. -/
def outline (filter : String) : Reply :=
  match Filter.parse filter with
  | .ok f => .output f.outline
  | .error e => .error (errorText (.syntactic e) filter)

/-- The session after a tag has been filed. -/
def add (s : Session) (tag id : String) : Session :=
  { s with compiler := { s.compiler with index := s.compiler.index.insert (.text tag) id } }

/-- Follows a command. There is no session after the command to leave, or after a line that cannot
be read. -/
def follow (s : Session) : Command → Option Session × Reply
  | .nothing => (some s, .silent)
  | .leave => (none, .silent)
  | .help => (some s, .output helpText)
  | .outline filter => (some s, outline filter)
  | .add [tag, id] => (some (s.add tag id), .output ("✓ " ++ tag ++ " -> " ++ id))
  | .add _ => (some s, .error "用法: .add <tag> <id>")
  | .tags entity =>
    if entity.isEmpty then (some s, .error "用法: .tags <entity id>")
    else (some s, .output ((s.compiler.entityTags (entityValue entity)).inlined s.dialect))
  | .unknown name => (some s, .error ("未知命令: " ++ name ++ " (输入 .help 查看帮助)"))
  | .filter text =>
    match s.query text with
    | .ok sql => (some s, .output sql)
    | .error e => (some s, .error e)
  | .unreadable => (none, .failure)

/-- Answers a line of input. -/
def answer (s : Session) (line : List Char) : Option Session × Reply :=
  s.follow (Command.ofLine line)

/-- The replies to lines, up to the one that ends the session. -/
def run (s : Session) : List (List Char) → List Reply
  | [] => []
  | line :: lines =>
    match s.answer line with
    | (some s, reply) => reply :: run s lines
    | (none, reply) => [reply]

/-- The line with which a session begins. -/
def banner (s : Session) : String :=
  "tag-query (" ++ s.dialect.shown ++ ") - 输入 .help 查看帮助, .exit 退出"

end Session

/-! ## Programs -/

/-- What a program leaves behind. -/
structure Report where
  exit : UInt32
  output : String
  error : String
deriving DecidableEq, Repr

/-- The lines that replies put on the output. -/
def outputOf (rs : List Reply) : String :=
  String.join (rs.map fun
    | .output s => s ++ "\n"
    | _ => "")

/-- The lines that replies put on the error output. -/
def errorOf (rs : List Reply) : String :=
  String.join (rs.map fun
    | .error s => s ++ "\n"
    | _ => "")

/-- The exit code after replies. -/
def exitOf (rs : List Reply) : UInt32 :=
  if rs.contains .failure then 101 else 0

/-- A text with its lines after the first one moved in. -/
def hang (indent : String) (s : String) : String :=
  s.replace "\n" ("\n" ++ indent)

/-- The causes of a failure, numbered if there are several. -/
def causeLines : List String → String
  | [] => ""
  | [cause] => "    " ++ hang "    " cause ++ "\n"
  | causes =>
    String.join (causes.zipIdx.map fun (cause, n) =>
      "    " ++ toString n ++ ": " ++ hang "       " cause ++ "\n")

/-- The report on a file that was not loaded. -/
def loadFailure (what path : String) (e : LoadError) : Report :=
  ⟨1, "", "Error: " ++ what ++ " " ++ path ++ "\n\nCaused by:\n" ++ causeLines e.causes⟩

/-- The settings that the options ask for. -/
def Options.settings (o : Options) (file : String → FileContent) : Except Report Settings :=
  match o.config with
  | none => .ok .standard
  | some path =>
    match Settings.load path (file path) with
    | .ok s => .ok s
    | .error e => .error (loadFailure "无法加载表配置" path e)

/-- The index of the tags that the options ask for. -/
def Options.index (o : Options) (file : String → FileContent) : Except Report TagIndex :=
  match o.tags with
  | none => .ok .empty
  | some path =>
    match loadTags path (file path) with
    | .ok pairs => .ok (TagIndex.empty.insertAll (pairs.map fun (k, id) => (.text k, id)))
    | .error e => .error (loadFailure "无法加载标签数据" path e)

/-- The session that the options ask for. Settings are loaded before tags. -/
def Options.session (o : Options) (file : String → FileContent) : Except Report Session :=
  match o.settings file with
  | .error report => .error report
  | .ok settings =>
    match o.index file with
    | .error report => .error report
    | .ok index => .ok ⟨⟨settings, index⟩, o.dialect⟩

/-- The version of the program. -/
def versionText : String := "tag-query 0.1.0"

/-- The text that explains the command line. -/
def usageText : String :=
  "Compile tag filter expressions to SQL\n" ++
  "\n" ++
  "Usage: tag-query [OPTIONS]\n" ++
  "\n" ++
  "Options:\n" ++
  "      --config <CONFIG>    实体表配置文件 (JSON)，缺省时使用 userdata 表\n" ++
  "      --tags <TAGS>        标签缓存初始数据 (JSON 对象: 规范键 -> 标签ID)\n" ++
  "      --dialect <DIALECT>  输出的 SQL 方言: postgres, sqlite, mysql [default: postgres]\n" ++
  "  -c, --command <COMMAND>  编译单个过滤表达式后退出\n" ++
  "  -h, --help               Print help\n" ++
  "  -V, --version            Print version"

/-- Compiles one filter. -/
def Session.once (s : Session) (filter : String) : Report :=
  match s.query filter with
  | .ok sql => ⟨0, sql ++ "\n", ""⟩
  | .error e => ⟨1, "", e ++ "\n"⟩

/-- A whole session on an input. -/
def Session.interact (s : Session) (input : String) : Report :=
  let replies := s.run (Text.lines input.toList)
  ⟨exitOf replies, s.banner ++ "\n" ++ outputOf replies, errorOf replies⟩

/-- Runs the program on a command line, files and an input. -/
def program (args : List String) (file : String → FileContent) (input : String) : Report :=
  match Invocation.ofArguments args with
  | .usageError => ⟨2, "", usageText ++ "\n"⟩
  | .version => ⟨0, versionText ++ "\n", ""⟩
  | .help => ⟨0, usageText ++ "\n", ""⟩
  | .run options =>
    match options.session file with
    | .error report => report
    | .ok session =>
      match options.command with
      | some filter => session.once filter
      | none => session.interact input

end TagSelect.Shell
