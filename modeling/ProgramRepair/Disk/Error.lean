import ProgramRepair.Json.Value

/-!
# Errors of files and commands

Why a file cannot be read or written or a command cannot be started.
-/

namespace ProgramRepair.Disk

/-- The cause of a failed access to the disk. -/
inductive Error where
  | notFound
  | notDirectory
  | isDirectory
  | alreadyExists
  | notEmpty
  | permissionDenied
  /-- The directory itself is in use where it would have to be moved. -/
  | busy
  | tooManyLinks
  | nameTooLong
  | invalidArgument
  | badDescriptor
  | brokenPipe
  | noSpace
  | noProcess
  /-- What is to be copied is no file with contents. -/
  | notRegular
  /-- The file holds bytes that are no text. -/
  | notText
  /-- The command holds a character that ends command lines. -/
  | nulInCommand
  /-- The path holds a character that ends paths. -/
  | nulInPath
  /-- The file holds text that is not the JSON it should be. -/
  | notJson (e : Json.Error)
  /-- The scratch directory was given up. -/
  | scratchRemoved
deriving DecidableEq, Repr

namespace Error

/-- The number of the errors that the system itself reports. -/
def systemNumber : Error → Option Nat
  | notFound => some 2
  | noProcess => some 3
  | badDescriptor => some 9
  | permissionDenied => some 13
  | busy => some 16
  | alreadyExists => some 17
  | notDirectory => some 20
  | isDirectory => some 21
  | invalidArgument => some 22
  | noSpace => some 28
  | brokenPipe => some 32
  | nameTooLong => some 36
  | notEmpty => some 39
  | tooManyLinks => some 40
  | _ => none

/-- The cause in words, as the system puts it. -/
def systemText : Error → String
  | notFound => "No such file or directory"
  | permissionDenied => "Permission denied"
  | busy => "Device or resource busy"
  | alreadyExists => "File exists"
  | notDirectory => "Not a directory"
  | isDirectory => "Is a directory"
  | invalidArgument => "Invalid argument"
  | badDescriptor => "Bad file descriptor"
  | brokenPipe => "Broken pipe"
  | noSpace => "No space left on device"
  | noProcess => "No such process"
  | nameTooLong => "File name too long"
  | notEmpty => "Directory not empty"
  | tooManyLinks => "Too many levels of symbolic links"
  | notRegular => "the source path is neither a regular file nor a symlink to a regular file"
  | notText => "stream did not contain valid UTF-8"
  | nulInCommand => "nul byte found in provided data"
  | nulInPath => "file name contained an unexpected NUL byte"
  | notJson e => e.message
  | scratchRemoved => "Scratch directory removed"

/-- The message, with the system's number where there is one. -/
def message (e : Error) : String :=
  match e.systemNumber with
  | some n => e.systemText ++ " (os error " ++ toString n ++ ")"
  | none => e.systemText

/-- The kind of error that a cause belongs to. -/
def kind : Error → String
  | notFound | scratchRemoved => "NotFound"
  | permissionDenied => "PermissionDenied"
  | busy => "ResourceBusy"
  | alreadyExists => "AlreadyExists"
  | notDirectory => "NotADirectory"
  | isDirectory => "IsADirectory"
  | notEmpty => "DirectoryNotEmpty"
  | tooManyLinks => "FilesystemLoop"
  | nameTooLong => "InvalidFilename"
  | invalidArgument | notRegular | nulInCommand | nulInPath => "InvalidInput"
  | brokenPipe => "BrokenPipe"
  | noSpace => "StorageFull"
  | badDescriptor | noProcess => "Uncategorized"
  | notText | notJson _ => "InvalidData"

end Error

end ProgramRepair.Disk
