import Troubleshooter.Python.Glob

-- Directories, files and symbolic links, as pathlib sees them on a POSIX system.
namespace Troubleshooter.Python

inductive Node where
  | file (readable : Bool)
  | directory (entries : List (String × Node))
  | link (target : String)

-- The names on the way from the root of all files.
abbrev Place := List String

-- What there is, and the bytes of the files at their own places.
structure FileTree where
  root : Node
  bytes : Place → List UInt8

namespace Node

def isDirectory : Node → Bool
  | .directory _ => true
  | _ => false

def entries : Node → List (String × Node)
  | .directory entries => entries
  | _ => []

-- The node at a place, where the place has no links on the way.
def at? (root : Node) (place : Place) : Option Node :=
  place.foldlM (fun node name => node.entries.lookup name) root

mutual

-- What is below a directory, and what of it is a directory: the entries of each directory in
-- order, and then what is below the last one first. No links are followed.
def inside : Node → List (Place × Bool)
  | .directory entries =>
    entries.map (fun entry => ([entry.1], entry.2.isDirectory)) ++ deeper entries
  | _ => []

def deeper : List (String × Node) → List (Place × Bool)
  | [] => []
  | (name, node) :: rest => deeper rest ++ node.inside.map fun (place, dir) => (name :: place, dir)

end

end Node

-- The parts of a path, without those for the place itself.
def pathParts (path : String) : List String :=
  ((path.toList.splitOn '/').map String.ofList).filter (· ∉ ["", "."])

def isAbsolute (path : String) : Bool := path.toList.head? = some '/'

section Paths

variable (root : Node)

-- A path from a place on, where a link is gone into by a function of its own.
def walk (enter : Place → List String → Option Place) : Place → List String → Option Place
  | place, [] => some place
  | place, name :: rest =>
    if name = ".." then walk enter place.dropLast rest
    else
      match root.at? (place ++ [name]) with
      | some (.directory _) => walk enter (place ++ [name]) rest
      | some (.link target) =>
        enter (if isAbsolute target then [] else place) (pathParts target ++ rest)
      | some (.file _) => if rest = [] then some (place ++ [name]) else none
      | none => none

-- A system gives up on a path with more links on its way.
def maxLinks : Nat := 40

def follow : Nat → Place → List String → Option Place
  | 0 => walk root fun _ _ => none
  | links + 1 => walk root (follow links)

-- os.path.realpath
def realpath (path : List String) : Option Place := follow root maxLinks [] path

-- path.resolve()
def resolve (path : List String) : Place := (realpath root path).getD path

def nodeAt (path : List String) : Option Node := (realpath root path).bind root.at?

def isDir (path : List String) : Bool := (nodeAt root path).any Node.isDirectory

def isFile (path : List String) : Bool :=
  (nodeAt root path).any fun node => match node with
    | .file _ => true
    | _ => false

-- The last part of a path may be a link to nowhere.
def lexists (path : List String) : Bool :=
  match path.getLast? with
  | none => true
  | some name =>
    if name = ".." then (realpath root path).isSome
    else ((nodeAt root path.dropLast).bind fun node => node.entries.lookup name).isSome

def entriesAt (path : List String) : List (String × Node) :=
  ((nodeAt root path).map Node.entries).getD []

def hasMagic (part : String) : Bool := part.toList.any fun letter => letter ∈ ['*', '?', '[']

-- The paths that the parts of a pattern lead to. Two stars stand for any number of directories,
-- and at the end of a pattern for everything in them.
def select : List String → List String → List (List String)
  | [], path => if lexists root path then [path] else []
  | part :: rest, path =>
    if part = "**" then
      if rest.head? = some "**" then select rest path
      else
        select rest path ++
          (((nodeAt root path).map Node.inside).getD []).flatMap fun (names, dir) =>
            if rest = [] then [path ++ names]
            else if dir then select rest (path ++ names)
            else []
    else if part = "" then if isDir root path then [path] else []
    else if hasMagic part then
      ((entriesAt root path).filter fun entry => fnmatch entry.1 part).flatMap fun (name, _) =>
        if rest = [] then [path ++ [name]]
        else if isDir root (path ++ [name]) then select rest (path ++ [name])
        else []
    else select rest (path ++ [part])

def glob (path : List String) (pattern : String) : Except String (List (List String)) :=
  if isAbsolute pattern then .error "Non-relative patterns are unsupported"
  else if pathParts pattern = [] then .error ("Unacceptable pattern: '" ++ pattern ++ "'")
  else
    let trailing := if pattern.toList.getLast? = some '/' then [""] else []
    .ok (select root (pathParts pattern ++ trailing) path)

end Paths

-- path.suffix
def suffix (name : String) : String :=
  let extension := name.toList.rtakeWhile (· ≠ '.')
  let stem := (name.toList.rdropWhile (· ≠ '.')).dropLast
  if stem = [] ∨ extension = [] then "" else String.ofList ('.' :: extension)

section Decoding

def isContinuation (byte : UInt8) : Bool := byte.toNat / 64 = 2

-- The letter that some bytes begin with, and how many of them it takes.
def decodeOne : List UInt8 → Option (Char × Nat)
  | [] => none
  | first :: rest =>
    let following := rest.takeWhile isContinuation
    let value := fun (start count : Nat) =>
      (following.take count).foldl (fun value byte => value * 64 + byte.toNat % 64) start
    let byte := first.toNat
    if byte < 0x80 then some (Char.ofNat byte, 1)
    else if 0xC2 ≤ byte ∧ byte < 0xE0 ∧ 1 ≤ following.length then
      some (Char.ofNat (value (byte % 32) 1), 2)
    else if 0xE0 ≤ byte ∧ byte < 0xF0 ∧ 2 ≤ following.length then
      let code := value (byte % 16) 2
      if 0x800 ≤ code ∧ (code < 0xD800 ∨ 0xE000 ≤ code) then some (Char.ofNat code, 3) else none
    else if 0xF0 ≤ byte ∧ byte < 0xF5 ∧ 3 ≤ following.length then
      let code := value (byte % 8) 3
      if 0x10000 ≤ code ∧ code < 0x110000 then some (Char.ofNat code, 4) else none
    else none

-- bytes.decode("utf-8", errors="ignore"), past the bytes still to be skipped
def decodeIgnore : Nat → List UInt8 → List Char
  | _, [] => []
  | skipped + 1, _ :: rest => decodeIgnore skipped rest
  | 0, byte :: rest =>
    match decodeOne (byte :: rest) with
    | some (letter, taken) => letter :: decodeIgnore (taken - 1) rest
    | none => decodeIgnore 0 rest

-- All ends of lines become those of a text file.
def universalNewlines : List Char → List Char
  | '\x0d' :: '\n' :: rest => '\n' :: universalNewlines rest
  | '\x0d' :: rest => '\n' :: universalNewlines rest
  | letter :: rest => letter :: universalNewlines rest
  | [] => []

-- path.read_text(encoding="utf-8", errors="ignore")
def readText (bytes : List UInt8) : String :=
  String.ofList (universalNewlines (decodeIgnore 0 bytes))

end Decoding

end Troubleshooter.Python
