/-
# ByteStream.Http.Files -- files of trusted certificates

A caller may name a file of certificates, and the request is not sent if it cannot be read. Which
files can be read is a property of the machine. The machine described here has nothing on it but
its root directory, where every relative path starts, and in it a directory of devices with the
null device, whose empty content is a list of no certificates.
-/

import ByteStream.Http.Host

namespace ByteStream.Http

/-- A machine's files, as far as reading one of them goes. -/
structure Files where
  /-- Why a file cannot be read; `none` if it can. -/
  trouble : String → Option String

namespace Files

/-- The places on a bare machine. -/
inductive Place
  | root
  | devices
  | nullDevice
deriving DecidableEq, Repr

/-- There is no such file. -/
def missing : String := "No such file or directory (os error 2)"

/-- The path goes on behind a file. -/
def notDirectory : String := "Not a directory (os error 20)"

/-- The path ends at a directory. -/
def directory : String := "Is a directory (os error 21)"

/-- The path cannot be a name. -/
def zeroInName : String := "file name contained an unexpected NUL byte"

/-- One step along a path. -/
def step (place : Place) (part : String) : Except String Place :=
  match place, part with
  | .nullDevice, _ => .error notDirectory
  | place, "" | place, "." => .ok place
  | _, ".." => .ok .root
  | .root, "dev" => .ok .devices
  | .devices, "null" => .ok .nullDevice
  | _, _ => .error missing

/-- Why the file at a path cannot be read on a bare machine. -/
def bareTrouble (path : String) : Option String :=
  if path.toList.contains '\x00' then some zeroInName
  else if path = "" then some missing
  else
    match ((Text.parts '/' path.toList).map String.ofList).foldlM step Place.root with
    | .error reason => some reason
    | .ok .nullDevice => none
    | .ok _ => some directory

/-- A machine with nothing on it. -/
def bare : Files := ⟨bareTrouble⟩

end Files

end ByteStream.Http
