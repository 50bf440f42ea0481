/-!
# Faults of the host

What a file system or an operating system answers when it cannot do what it was asked.
-/

namespace Buildwright

/-- Why the host did not do what it was asked. -/
inductive HostFault where
  | notFound
  | permissionDenied
  | alreadyExists
  | notDirectory
  | isDirectory
  /-- A file was started that is no program. -/
  | notExecutable
  | nameTooLong
  /-- Files name each other as interpreters without end. -/
  | tooManyLinks
  /-- A program was given more than it can take. -/
  | argumentsTooLong
  | notPermitted
  | noProcess
  | noChild
  /-- A signal came while something was waited for. -/
  | interrupted
  | noDevice
  /-- Nothing is open under a number, or not in such a way. -/
  | badDescriptor
  | busy
  | invalid
  /-- A program was started while something may write to it. -/
  | textBusy
  | noSpace
  /-- What is open has no positions. -/
  | noPositions
  | brokenPipe
  | notEmpty
  /-- A file was read as text that is no UTF-8. -/
  | notText
  /-- The name of a file holds a character that ends it. -/
  | nulInName
  /-- An argument of a program holds a character that ends it. -/
  | nulInArgument
  | other (text : String)
  deriving DecidableEq, Repr, Inhabited

namespace HostFault

/-- What a fault says. -/
def reason : HostFault → String
  | notFound => "No such file or directory"
  | permissionDenied => "Permission denied"
  | alreadyExists => "File exists"
  | notDirectory => "Not a directory"
  | isDirectory => "Is a directory"
  | notExecutable => "Exec format error"
  | nameTooLong => "File name too long"
  | tooManyLinks => "Too many levels of symbolic links"
  | argumentsTooLong => "Argument list too long"
  | notPermitted => "Operation not permitted"
  | noProcess => "No such process"
  | noChild => "No child processes"
  | interrupted => "Interrupted system call"
  | noDevice => "No such device or address"
  | badDescriptor => "Bad file descriptor"
  | busy => "Device or resource busy"
  | invalid => "Invalid argument"
  | textBusy => "Text file busy"
  | noSpace => "No space left on device"
  | noPositions => "Illegal seek"
  | brokenPipe => "Broken pipe"
  | notEmpty => "Directory not empty"
  | notText => "stream did not contain valid UTF-8"
  | nulInName => "file name contained an unexpected NUL byte"
  | nulInArgument => "nul byte found in provided data"
  | other text => text

/-- The number that the operating system gives a fault of its own. -/
def number? : HostFault → Option Nat
  | notFound => some 2
  | permissionDenied => some 13
  | alreadyExists => some 17
  | notDirectory => some 20
  | isDirectory => some 21
  | notExecutable => some 8
  | nameTooLong => some 36
  | tooManyLinks => some 40
  | argumentsTooLong => some 7
  | notPermitted => some 1
  | noProcess => some 3
  | noChild => some 10
  | interrupted => some 4
  | noDevice => some 6
  | badDescriptor => some 9
  | busy => some 16
  | invalid => some 22
  | textBusy => some 26
  | noSpace => some 28
  | noPositions => some 29
  | brokenPipe => some 32
  | notEmpty => some 39
  | notText | nulInName | nulInArgument | other _ => none

/-- The text of a fault: what it says, and its number if it has one. -/
def message (fault : HostFault) : String :=
  match fault.number? with
  | some number => fault.reason ++ " (os error " ++ toString number ++ ")"
  | none => fault.reason

end HostFault

end Buildwright
