import Switchboard.Text.Utf8

/-!
# Folders

The files a program is run beside, by their paths.

* `Folder.look`: what a path leads to; a path that starts with a slash leads away from the folder.
* `Folder.machine`: what is known of the rest of the machine.
-/

namespace Switchboard

/-- What is under a path. -/
inductive FolderItem where
  | file (bytes : List UInt8)
  | directory
  deriving DecidableEq

/-- The files and directories in a folder, by their paths with slashes. -/
abbrev Folder := List (Text × FolderItem)

namespace Folder

/-- The parts of a path, without those that lead nowhere. -/
def parts (path : Text) : List Text :=
  (Text.splitOn '/' path).filter fun part => part ≠ [] ∧ part ≠ ['.']

/-- What a list of parts names: an item itself, or a directory that an item is in. -/
def item? (folder : Folder) (parts : List Text) : Option FolderItem :=
  match folder.find? fun e => Folder.parts e.1 = parts with
  | some e => some e.2
  | none =>
    if parts.isEmpty ∨ folder.any (fun e => parts.isPrefixOf (Folder.parts e.1)) then
      some .directory
    else none

/-- Whether a list of parts names a directory. -/
def isDirectory (folder : Folder) (parts : List Text) : Bool := folder.item? parts = some .directory

/-! ## Paths -/

/-- Where a path has led so far. -/
inductive Spot where
  /-- To something in the folder, whose parts are given last first. -/
  | inside (parts : List Text)
  /-- To a directory that the folder is in. -/
  | above
  deriving DecidableEq

/-- What is at a spot. -/
def at? (folder : Folder) : Spot → Option FolderItem
  | .inside parts => folder.item? parts.reverse
  | .above => some .directory

/-- One part of a path, which has to start from a directory.  Of the directories above a folder
nothing is known but that they are there; the folder `machine` has none above it. -/
def move (folder : Folder) (isMachine : Bool) (spot : Spot) (part : Text) : Option Spot :=
  if folder.at? spot ≠ some .directory then none
  else if part = [] ∨ part = ['.'] then some spot
  else match spot, decide (part = "..".toList) with
    | .inside (_ :: parts), true => some (.inside parts)
    | .inside [], true => some (if isMachine then spot else .above)
    | .inside parts, false => some (.inside (part :: parts))
    | .above, true => some .above
    | .above, false => none

/-- What the parts of a path lead to from a folder itself. -/
def follow (folder : Folder) (isMachine : Bool) (path : Text) : Option FolderItem :=
  (Text.splitOn '/' path).foldlM (folder.move isMachine) (.inside []) >>= folder.at?

/-- The directories that every machine has, seen from its root. -/
def machine : Folder :=
  [ "bin", "boot", "dev", "etc", "home", "media", "mnt", "opt", "proc", "root", "run", "sbin", "srv",
    "sys", "tmp", "usr/bin", "usr/lib", "usr/local", "usr/sbin", "usr/share", "var/cache", "var/lib",
    "var/log", "var/tmp", "lib" ].map fun path => (path.toList, .directory)

/-- The number of bytes from which on a path is too long. -/
def pathLimit : Nat := 4096

/-- What a path leads to, if it leads anywhere. -/
def look (folder : Folder) (path : Text) : Option FolderItem :=
  if pathLimit ≤ path.size8 then none
  else if path.head? = some '/' then machine.follow true path
  else folder.follow false path

end Folder

end Switchboard
