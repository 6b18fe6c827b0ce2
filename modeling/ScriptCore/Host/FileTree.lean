/-!
# Files

The part of a file system that the program can see: the files of its working
directory, and the directories, programs and devices that every host has. A
path is followed name by name, and the first name that leads nowhere says why.
-/

namespace ScriptCore

/-- Why a path cannot be read. -/
inductive FileError where
  | notFound
  | notDirectory
  | isDirectory
  | nameTooLong
deriving DecidableEq

namespace FileError

/-- The wording of the host. -/
def message : FileError → String
  | notFound => "No such file or directory (os error 2)"
  | notDirectory => "Not a directory (os error 20)"
  | isDirectory => "Is a directory (os error 21)"
  | nameTooLong => "File name too long (os error 36)"

end FileError

/-- What a path leads to. -/
inductive FileNode where
  | directory
  | file (content : String)
  | program
  | device
deriving DecidableEq

/-- The files of the working directory. -/
structure FileTree where
  files : List (String × String)

namespace FileTree

/-- A place on the way along a path. -/
inductive Place where
  /-- The working directory. -/
  | working
  /-- The directory with the given names from the root, innermost first. -/
  | below (names : List String)
  /-- A directory around the working directory. -/
  | around
  | file (content : String)
  | program
  | device
deriving DecidableEq

/-- Directories that every host has, from the root. -/
def commonDirectories : List (List String) :=
  [["bin"], ["dev"], ["etc"], ["home"], ["lib"], ["opt"], ["proc"], ["root"], ["run"], ["sbin"],
    ["sys"], ["tmp"], ["usr"], ["usr", "bin"], ["usr", "lib"], ["usr", "local"], ["usr", "sbin"],
    ["usr", "share"], ["var"], ["var", "tmp"]]

/-- Devices that every host has, from the root. -/
def commonDevices : List (List String) :=
  [["dev", "full"], ["dev", "null"], ["dev", "random"], ["dev", "tty"], ["dev", "urandom"],
    ["dev", "zero"]]

/-- Programs that every host has. -/
def commonPrograms : List String :=
  ["[", "basename", "bash", "cat", "chmod", "cp", "cut", "dash", "date", "dirname", "echo", "env",
    "expr", "false", "find", "grep", "head", "id", "kill", "ln", "ls", "mkdir", "mv", "nice",
    "printenv", "printf", "pwd", "rm", "rmdir", "sed", "seq", "sh", "sleep", "sort", "stat",
    "tail", "tee", "test", "timeout", "touch", "tr", "true", "uname", "uniq", "wc", "xargs",
    "yes"]

/-- Directories that hold the programs, from the root. -/
def programDirectories : List (List String) :=
  [["bin"], ["usr", "bin"]]

/-- Texts that every host has, from the root. -/
def commonTexts : List (List String) :=
  [["etc", "group"], ["etc", "hostname"], ["etc", "hosts"], ["etc", "passwd"]]

/-- Longest name of a file in bytes. -/
def maxNameLength : Nat := 255

/-- Longest path in bytes. -/
def maxPathLength : Nat := 4095

/-- Follow one name from a place. -/
def step (tree : FileTree) (place : Place) (name : String) : Except FileError Place :=
  match place with
  | .file _ => .error .notDirectory
  | .program => .error .notDirectory
  | .device => .error .notDirectory
  | .working =>
      if name = "" || name = "." then .ok .working
      else if name = ".." then .ok .around
      else if maxNameLength < name.utf8ByteSize then .error .nameTooLong
      else
        match tree.files.lookup name with
        | some content => .ok (.file content)
        | none => .error .notFound
  | .around =>
      if name = "" || name = "." || name = ".." then .ok .around
      else if maxNameLength < name.utf8ByteSize then .error .nameTooLong
      else .error .notFound
  | .below names =>
      if name = "" || name = "." then .ok (.below names)
      else if name = ".." then .ok (.below names.tail)
      else if maxNameLength < name.utf8ByteSize then .error .nameTooLong
      else
        let path := (name :: names).reverse
        if commonDirectories.contains path then .ok (.below (name :: names))
        else if commonDevices.contains path then .ok .device
        else if programDirectories.contains names.reverse && commonPrograms.contains name then
          .ok .program
        else if commonTexts.contains path then .ok (.file "")
        else .error .notFound

/-- What a path leads to. A path that starts with a slash starts at the root. -/
def find (tree : FileTree) (path : String) : Except FileError FileNode := do
  if path.isEmpty then throw .notFound
  if maxPathLength < path.utf8ByteSize then throw .nameTooLong
  let start := if path.startsWith "/" then Place.below [] else .working
  match ← (path.splitOn "/").foldlM tree.step start with
  | .file content => return .file content
  | .program => return .program
  | .device => return .device
  | .working | .around | .below _ => return .directory

/-- The text at a path. Programs and devices have none. -/
def read (tree : FileTree) (path : String) : Except FileError String := do
  match ← tree.find path with
  | .file content => return content
  | .program => return ""
  | .device => return ""
  | .directory => throw .isDirectory

/-- The text at a path, or the wording of the host. -/
def readText (tree : FileTree) (path : String) : Except String String :=
  (tree.read path).mapError FileError.message

end FileTree
end ScriptCore
