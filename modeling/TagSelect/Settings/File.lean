import TagSelect.Settings.Document

/-!
# Loading files

Settings and tags are loaded from files. A file may be missing, may not be readable, or may hold
something else than the document that is asked for.
-/

namespace TagSelect

/-- Why a file that exists has no text. -/
inductive ReadFailure where
  | isDirectory
  | invalidEncoding
  | other (cause : String)
deriving DecidableEq, Repr

/-- The text of the failure. -/
def ReadFailure.message : ReadFailure → String
  | isDirectory => "Is a directory (os error 21)"
  | invalidEncoding => "stream did not contain valid UTF-8"
  | other cause => cause

/-- What there is at a path. -/
inductive FileContent where
  | missing
  | unreadable (failure : ReadFailure)
  | bytes (content : ByteArray)

/-- Why a file is not loaded. -/
inductive LoadError where
  | notFound (path : String)
  | unreadable (path : String) (failure : ReadFailure)
  | invalid (path : String) (fault : Json.Fault)
deriving DecidableEq, Repr

namespace LoadError

/-- The text of the error. -/
def message : LoadError → String
  | notFound path => "配置文件不存在: " ++ path
  | unreadable path failure => "无法读取配置文件 " ++ path ++ ": " ++ failure.message
  | invalid path fault => "无法解析JSON配置文件 " ++ path ++ ": " ++ fault.message

/-- The error as the only line of a report. -/
def annotate (e : LoadError) : String :=
  "error: " ++ e.message

/-- The text of the error, followed by that of the failure behind it, if there is one. -/
def causes (e : LoadError) : List String :=
  match e with
  | notFound _ => [e.message]
  | unreadable _ failure => [e.message, failure.message]
  | invalid _ fault => [e.message, fault.message]

end LoadError

/-- Reads the document of a file. -/
def FileContent.load {α : Type} (read : String → Except Json.Fault α) (path : String)
    (content : FileContent) : Except LoadError α :=
  match content with
  | missing => .error (.notFound path)
  | unreadable failure => .error (.unreadable path failure)
  | bytes content =>
    match String.fromUTF8? content with
    | none => .error (.unreadable path .invalidEncoding)
    | some s =>
      match read s with
      | .error fault => .error (.invalid path fault)
      | .ok a => .ok a

/-- Loads settings. -/
def Settings.load (path : String) (content : FileContent) : Except LoadError Settings :=
  content.load Settings.ofDocument path

/-- Loads tags. -/
def loadTags (path : String) (content : FileContent) : Except LoadError (List (String × String)) :=
  content.load tagsOfDocument path

end TagSelect
