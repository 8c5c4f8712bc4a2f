import ImportResolution.FileTree.Lookup
import ImportResolution.Json.Nesting
import ImportResolution.Relaxed.Reader
import ImportResolution.Text.Quoted

/-!
What can go wrong, by cause. Faults of the file system carry the path they arose on, those of a
configuration file its path and what is wrong with its content. The wording is here and nowhere
else.
-/
namespace ImportResolution

/-- Why the file system refuses a request. -/
inductive SystemCause where
  | missing
  | denied
  | notDirectory
  | isDirectory
  | nameTooLong
  | tooManyLinks
  deriving DecidableEq, Repr

/-- The number and the name of a cause. -/
def SystemCause.message : SystemCause → Text
  | missing => "[Errno 2] No such file or directory".toList
  | denied => "[Errno 13] Permission denied".toList
  | notDirectory => "[Errno 20] Not a directory".toList
  | isDirectory => "[Errno 21] Is a directory".toList
  | nameTooLong => "[Errno 36] File name too long".toList
  | tooManyLinks => "[Errno 40] Too many levels of symbolic links".toList

/-- Why the content of a file is no configuration. The faults of a notation stand with the text in
which they occur. -/
inductive ContentFault where
  | encoding (fault : Utf8.Fault)
  | strict (fault : Json.Fault) (document : Text)
  | relaxed (fault : Relaxed.Fault) (document : Text)
  deriving DecidableEq, Repr

/-- The text of a content fault. -/
def ContentFault.message : ContentFault → Text
  | encoding fault => fault.message
  | strict fault document => fault.message document
  | relaxed fault document => fault.message document

/-- What a run goes down into when there is no room left on the stack: a container of the strict
notation, a text in the relaxed notation, or the links of a path. -/
inductive Descent where
  | container (kind : Json.Container)
  | relaxed
  | links
  deriving DecidableEq, Repr

/-- What a run that has no room left on the stack ends with. -/
def Descent.message (descent : Descent) : Text :=
  "maximum recursion depth exceeded".toList ++
    match descent with
    | container .array => " while decoding a JSON array from a unicode string".toList
    | container .object => " while decoding a JSON object from a unicode string".toList
    | relaxed | links => []

/-- Why a file cannot be read as a value. -/
inductive ReadFault where
  | system (cause : SystemCause) (path : Text)
  | embeddedNull
  | content (fault : ContentFault)
  | exhausted (descent : Descent)
  deriving DecidableEq, Repr

/-- The text of a fault of the file system. -/
def systemMessage (cause : SystemCause) (path? : Option Text) : Text :=
  match path? with
  | none => cause.message
  | some path => cause.message ++ ": ".toList ++ path.quoted

/-- What a path is refused for that contains the null character. -/
def nullMessage : Text := "embedded null byte".toList

/-- The text of a read fault. -/
def ReadFault.message : ReadFault → Text
  | system cause path => systemMessage cause (some path)
  | embeddedNull => nullMessage
  | content fault => fault.message
  | exhausted descent => descent.message

/-- Why a request has no answer. -/
inductive Fault where
  /-- A value is used as a list or a text and is neither. -/
  | wrongType
  | system (cause : SystemCause) (path? : Option Text)
  | embeddedNull
  /-- A path cannot be resolved since a link leads back to itself. -/
  | linkLoop (path : Text)
  /-- An integer has too many digits to be written. -/
  | integerUnwritable
  /-- An integer in an argument has too many digits to be read. -/
  | integerUnreadable (digits : Nat)
  | configuration (path : Text) (fault : ContentFault)
  /-- There is no room left on the stack. -/
  | exhausted (descent : Descent)
  deriving DecidableEq, Repr

/-- There is no working directory to start from. -/
def Fault.noWorkingDirectory : Fault := .system .missing none

/-- The text of a fault; a wrong type has none. -/
def Fault.message : Fault → Text
  | wrongType => []
  | system cause path? => systemMessage cause path?
  | embeddedNull => nullMessage
  | linkLoop path => "Symlink loop from ".toList ++ path.quoted
  | integerUnwritable =>
    "Exceeds the limit (4300 digits) for integer string conversion; use ".toList
      ++ "sys.set_int_max_str_digits() to increase the limit".toList
  | integerUnreadable digits => (Json.Cause.integerTooLong digits).message
  | configuration path fault =>
    "Cannot parse ".toList ++ path ++ ": ".toList ++ fault.message
  | exhausted descent => descent.message

/-- A read fault of a file on which an answer depends. -/
def ReadFault.toFault (path : Text) : ReadFault → Fault
  | system cause path => .system cause (some path)
  | embeddedNull => .embeddedNull
  | content fault => .configuration path fault
  | exhausted descent => .exhausted descent

end ImportResolution
