import PodReach.Text.Blank
import PodReach.Text.Surrogate
import PodReach.World.Basic

/-!
# Paths and files

A path is read relative to the current directory unless it starts at a root. It is followed part
by part, and every part that something comes after has to be a directory, also where a double dot
takes it back. A tilde at the start of a path stands for a home directory.
-/

namespace PodReach

namespace Path

/-- The home directories of accounts that every machine has. -/
def systemHomes : List (String × String) :=
  [("root", "/root"), ("daemon", "/usr/sbin"), ("bin", "/bin"), ("nobody", "/nonexistent")]

/-- A path that starts with a tilde, cut behind the name of an account. -/
def cutTilde? : List Char → Option (List Char × List Char)
  | '~' :: rest => some (rest.takeWhile (· != '/'), rest.dropWhile (· != '/'))
  | _ => none

/-- The home directory of an account, if it is known; without a name it is one's own. -/
def homeOf? (home : String) (account : List Char) : Option String :=
  if account.isEmpty then some home else systemHomes.lookup (String.ofList account)

/-- A directory without the slashes at its end. -/
def trimSlashes (directory : String) : String :=
  String.ofList (directory.toList.reverse.dropWhile (· == '/')).reverse

/-- The path with a leading tilde replaced by the home directory, or by that of the account whose
name follows it. A tilde before the name of an account that is not known stays. -/
def expandTilde (home path : String) : String :=
  match cutTilde? path.toList with
  | none => path
  | some (account, rest) =>
    match homeOf? home account with
    | none => path
    | some directory =>
      let expanded := trimSlashes directory ++ String.ofList rest
      if expanded.isEmpty then "/" else expanded

/-- Whether a character can be part of the name of an account. A byte that is no text is kept as
the half of a surrogate pair; other halves and the null character cannot be looked up. -/
def isNameable (c : Char) : Bool :=
  c != '\x00' && (!Text.isStandIn c || (0xDC80 ≤ Text.unitOfChar c && Text.unitOfChar c ≤ 0xDCFF))

/-- Whether the account that a path names, if it names one, can be looked up. -/
def hasNameableAccount (path : String) : Bool :=
  match cutTilde? path.toList with
  | none => true
  | some (account, _) => account.all isNameable

/-- Bytes with each one as the character of its number. -/
def ofBytes (bytes : List UInt8) : String :=
  String.ofList (bytes.map fun b => Char.ofNat b.toNat)

/-- The path of bytes with a leading tilde replaced. -/
def expandTildeBytes (home : String) (path : List UInt8) : List UInt8 :=
  (expandTilde (ofBytes home.toUTF8.toList) (ofBytes path)).toList.map fun c => UInt8.ofNat c.toNat

/-- A path inside a directory. -/
def inside (directory name : String) : String :=
  if directory.isEmpty || directory.endsWith "/" then directory ++ name
  else directory ++ "/" ++ name

/-- The place after one more part, both with the last part first. An empty part and a single dot
lead nowhere else, and a double dot takes back a part. -/
def enter (here : List String) (part : String) : List String :=
  if part.isEmpty || part == "." then here
  else if part == ".." then here.tail
  else part :: here

/-- The parts of a path without empty ones and dots. -/
def parts (path : String) : List String :=
  ((Text.split '/' path).foldl enter []).reverse

/-- The path to the same place without empty parts and dots. -/
def plain (path : String) : String :=
  (if path.startsWith "/" then "/" else "") ++ "/".intercalate (parts path)

/-- The directory that a path lies in, as far as the path says. -/
def directoryOf (path : String) : String :=
  "/".intercalate (Text.split '/' path).dropLast

/-- The largest number of bytes in a name. -/
def longestName : Nat := 255

/-- Whether something can have a name. -/
def isPossibleName (name : String) : Bool :=
  name.utf8ByteSize ≤ longestName && !name.toList.contains '\x00'

/-- The place that parts lead to from another one, both with the last part first, if each part
that something comes after leads to a directory. -/
def follow (isDirectory : List String → Bool) : List String → List String → Option (List String)
  | here, [] => some here
  | here, part :: rest =>
    if isDirectory here && isPossibleName part then follow isDirectory (enter here part) rest
    else none

end Path

namespace Lying

/-- The text that is read from what lies at a path. A directory cannot be opened for that, and
bytes that are no text cannot be decoded. -/
def read : Lying → Except Halt String
  | directory => .error (.fault (.os "Is a directory"))
  | locked => .error (.fault (.os "Permission denied"))
  | garbled => .error (.mistake .badValue)
  | file text => .ok text
  | sink => .ok ""

/-- Whether it is a file, whatever is in it. -/
def isFile : Lying → Bool
  | file _ | locked | garbled => true
  | directory | sink => false

end Lying

namespace World

/-- The directories that every machine has. -/
def standingDirectories : List String :=
  ["bin", "dev", "etc", "home", "lib", "opt", "proc", "root", "run", "sbin", "sys", "tmp", "usr",
    "var"]

/-- Whether a path does not depend on the current directory. -/
def isAbsolute (w : World) (path : String) : Bool :=
  path.startsWith "/" || path.startsWith w.home || path.startsWith w.directory

/-- The path that is meant in some directory. -/
def fullPath (w : World) (directory path : String) : String :=
  if w.isAbsolute path then path else Path.inside directory path

/-- The path of something beside a file, which is found relative to the file's directory. -/
def besidePath (w : World) (file path : String) : String :=
  Path.plain (w.fullPath (Path.directoryOf (w.fullPath w.directory file)) path)

/-- What lies at a place. A directory is there also if only something in it is. -/
def lyingAt? (w : World) (place : List String) : Option Lying :=
  match w.files.find? fun (name, _) => Path.parts name == place with
  | some (_, lying) => some lying
  | none =>
    let isStanding := place.isEmpty
      || (place.length == 1 && place.any standingDirectories.contains)
      || [w.home, w.directory].any fun directory => place.isPrefixOf (Path.parts directory)
    if isStanding || w.files.any (fun (name, _) => place.isPrefixOf (Path.parts name)) then
      some .directory
    else if place == ["dev", "null"] then some .sink
    else none

/-- Whether a place, with its last part first, is a directory. -/
def isDirectoryAt (w : World) (place : List String) : Bool :=
  w.lyingAt? place.reverse == some .directory

/-- The place that a path leads to, if everything on the way is a directory. -/
def placeOf? (w : World) (path : String) : Option (List String) :=
  if path.isEmpty then none
  else
    let steps := Text.split '/' (w.fullPath w.directory path)
    (Path.follow w.isDirectoryAt [] steps).map List.reverse

/-- What lies at a path. -/
def fileAt? (w : World) (path : String) : Option Lying :=
  (w.placeOf? path).bind w.lyingAt?

/-- Whether something lies at a path. -/
def existsAt (w : World) (path : String) : Bool :=
  (w.fileAt? path).isSome

/-- Whether a file lies at a path. -/
def isFileAt (w : World) (path : String) : Bool :=
  (w.fileAt? path).any (·.isFile)

/-- The world in which a file has a text. -/
def withFile (w : World) (path text : String) : World :=
  { w with files := (path, .file text) :: w.files.filter fun (name, _) => name != path }

/-- The world after a text was written to a path, unless no file can be written there. -/
def write? (w : World) (path text : String) : Option World := do
  let place ← w.placeOf? path
  match w.lyingAt? place with
  | some .directory | some .locked => none
  | some .sink => some w
  | some (.file _) | some .garbled | none =>
    some (w.withFile (w.fullPath w.directory path) text)

end World

example : Path.expandTilde "/home/me" "~/x" = "/home/me/x" := by decide +kernel
example : Path.expandTilde "/" "~/x" = "/x" := by decide +kernel
example : Path.expandTilde "/home/me" "~root" = "/root" := by decide +kernel
example : Path.expandTilde "/home/me" "~someone/x" = "~someone/x" := by decide +kernel

end PodReach
