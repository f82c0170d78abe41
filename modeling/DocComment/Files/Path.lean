import DocComment.Text.Quoted

/-!
# Paths and what stands at them

Paths are texts with slashes between the names.  A path leads to the octets of a file, to a
directory, or nowhere, for one of the reasons that an operating system gives.
-/

namespace DocComment

/-- Why a file cannot be read. -/
inductive Refusal where
  | missing
  | notDirectory
  | isDirectory
  | nameTooLong
  | denied
  /-- The path holds a null character, which no system call takes. -/
  | nullCharacter
deriving DecidableEq, Repr

/-- What stands at a path. -/
inductive FileState where
  | octets (content : List UInt8)
  | directory
  | refused (reason : Refusal)
deriving DecidableEq, Repr

/-- The octets at a path, if they can be read. -/
def FileState.read : FileState → Except Refusal (List UInt8)
  | .octets content => .ok content
  | .directory => .error .isDirectory
  | .refused reason => .error reason

/-- The number and the description of a refusal. -/
def Refusal.label : Refusal → String
  | .missing => "[Errno 2] No such file or directory"
  | .notDirectory => "[Errno 20] Not a directory"
  | .isDirectory => "[Errno 21] Is a directory"
  | .denied => "[Errno 13] Permission denied"
  | .nameTooLong => "[Errno 36] File name too long"
  | .nullCharacter => "embedded null byte"

/-- The message of a refusal at a path. -/
def Refusal.message (path : Text) (refusal : Refusal) : String :=
  refusal.label ++ ": " ++ String.ofList (Text.quoted path)

namespace Path

/-- The names in a path that lead somewhere else: neither empty nor a single dot. -/
def names (path : Text) : List Text :=
  (Text.pieces '/' path).filter fun name => !name.isEmpty && name != ['.']

/-- The slashes in front of an absolute path: two are kept, more count as one. -/
def root : Text → Text
  | '/' :: '/' :: '/' :: _ => ['/']
  | '/' :: '/' :: _ => ['/', '/']
  | '/' :: _ => ['/']
  | _ => []

/-- The path without what leads nowhere; a path that is left empty is a single dot. -/
def normalize (path : Text) : Text :=
  match root path ++ ['/'].intercalate (names path) with
  | [] => ['.']
  | normal => normal

end Path

end DocComment
