import BeamRun.Text

namespace BeamRun

inductive FileFault where
  | missing
  | notDirectory
  | isDirectory
  | nulInName
  | nameTooLong
  | other (reason : String)
  deriving DecidableEq, Repr

def FileFault.message : FileFault → String
  | missing => "No such file or directory (os error 2)"
  | notDirectory => "Not a directory (os error 20)"
  | isDirectory => "Is a directory (os error 21)"
  | nulInName => "file name contained an unexpected NUL byte"
  | nameTooLong => "File name too long (os error 36)"
  | other reason => reason

/-- What a name stands for, links followed. -/
inductive FileEntry where
  /-- A regular file, and what comes of reading it. -/
  | regular (content : Except FileFault ByteArray)
  | directory
  /-- A device, a pipe or a socket. -/
  | special (content : Except FileFault ByteArray)
  /-- Nothing, or nothing that may be looked at. -/
  | absent (fault : FileFault)

abbrev Files := String → FileEntry

namespace Files

def notText : String := "stream did not contain valid UTF-8"

def decode (bytes : ByteArray) : Except String String :=
  (String.fromUTF8? bytes).elim (.error notText) .ok

def read (files : Files) (path : String) : Except FileFault ByteArray :=
  match files path with
  | .regular content => content
  | .directory => .error .isDirectory
  | .special content => content
  | .absent fault => .error fault

def readText (files : Files) (path : String) : Except String String :=
  match files.read path with
  | .ok bytes => decode bytes
  | .error fault => .error fault.message

def isFile (files : Files) (path : String) : Bool :=
  match files path with
  | .regular _ => true
  | _ => false

/-- The names that were looked at beforehand; any other is missing. -/
def ofList (seen : List (String × FileEntry)) : Files := fun path =>
  (seen.lookup path).getD (.absent .missing)

end Files

/-- Files and directories below a working directory, each by the names on the way to it. -/
structure FileTree where
  files : List (List String × ByteArray)
  directories : List (List String)

namespace FileTree

def parts (path : String) : List String := Text.pieces '/' path

def upTo (names : List String) : List (List String) :=
  (List.range (names.length + 1)).map names.take

def addFile (t : FileTree) (path : String) (content : ByteArray) : FileTree :=
  let names := (parts path).filter (· ≠ "")
  { files := (names, content) :: t.files
    directories := upTo names.dropLast ++ t.directories }

def addDirectory (t : FileTree) (path : String) : FileTree :=
  { t with directories := upTo ((parts path).filter (· ≠ "")) ++ t.directories }

/-- The tree of some names; one that ends in a slash is a directory. -/
def ofList (entries : List (String × ByteArray)) : FileTree :=
  entries.foldl
    (fun t e => if e.1.toList.getLast? = some '/' then t.addDirectory e.1 else t.addFile e.1 e.2) ⟨[], [[]]⟩

inductive Place where
  | inside (names : List String)
  | file (content : ByteArray)
  /-- In a directory above the tree, where nothing else is known. -/
  | outside

/-- The greatest number of bytes in a part of a name. -/
def partLimit : Nat := 255

def pathLimit : Nat := 4096

/-- One part further. An empty part is what a slash at the end or a doubled one leaves. -/
def step (t : FileTree) (place : Place) (part : String) : Except FileFault Place :=
  match place with
  | .file _ => .error .notDirectory
  | .outside =>
    if part = "" ∨ part = "." ∨ part = ".." then .ok .outside
    else .error (if partLimit < part.utf8ByteSize then .nameTooLong else .missing)
  | .inside names =>
    if part = "" ∨ part = "." then .ok place
    else if part = ".." then .ok (if names.isEmpty then .outside else .inside names.dropLast)
    else if partLimit < part.utf8ByteSize then .error .nameTooLong
    else
      let names := names ++ [part]
      match t.files.lookup names with
      | some content => .ok (.file content)
      | none => if names ∈ t.directories then .ok (.inside names) else .error .missing

/-- Where a name leads, if it leads anywhere. -/
def find (t : FileTree) (path : String) : Except FileFault Place := do
  if Char.ofNat 0 ∈ path.toList then throw .nulInName
  if path = "" then throw .missing
  if pathLimit ≤ path.utf8ByteSize then throw .nameTooLong
  let start : Place := if path.toList.head? = some '/' then .outside else .inside []
  (parts path).foldlM t.step start

def read (t : FileTree) : Files := fun path =>
  match t.find path with
  | .ok (.file content) => .regular (.ok content)
  | .ok _ => .directory
  | .error fault => .absent fault

end FileTree
end BeamRun
