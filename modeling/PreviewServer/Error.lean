import PreviewServer.Net.Address
import PreviewServer.Text.Quoted

/-!
# Errors

Why a server could not be started or kept running. Each error has a message for people and a report
that shows its parts.

## Main definitions

* `SystemError`: what the operating system or a library reported
* `Error`: why serving failed
* `Error.message`, `Error.report`, `Error.source?`: what an error tells
-/

namespace PreviewServer

/-- The classes of system errors that matter here. -/
inductive ErrorKind where
  | notFound
  | permissionDenied
  | invalidInput
  | tooManyOpenFiles
  | addressInUse
  | addressNotAvailable
  | networkUnreachable
  | connectionRefused
  | other
  | uncategorized
  deriving DecidableEq, Repr

/-- The name of a class in reports. -/
def ErrorKind.name : ErrorKind → String
  | .notFound => "NotFound"
  | .permissionDenied => "PermissionDenied"
  | .invalidInput => "InvalidInput"
  | .tooManyOpenFiles => "TooManyOpenFiles"
  | .addressInUse => "AddrInUse"
  | .addressNotAvailable => "AddrNotAvailable"
  | .networkUnreachable => "NetworkUnreachable"
  | .connectionRefused => "ConnectionRefused"
  | .other => "Other"
  | .uncategorized => "Uncategorized"

/-- An error that the system reports by a number, or a library by a text. -/
inductive SystemError where
  | code (number : Nat)
  | text (description : String)
  deriving DecidableEq, Repr

namespace SystemError

/-- The class of an error. The numbers told apart are those that opening a socket usually gives; the
system knows more of them. -/
def kind : SystemError → ErrorKind
  | .code 1 => .permissionDenied
  | .code 2 => .notFound
  | .code 13 => .permissionDenied
  | .code 22 => .invalidInput
  | .code 24 => .tooManyOpenFiles
  | .code 98 => .addressInUse
  | .code 99 => .addressNotAvailable
  | .code 101 => .networkUnreachable
  | .code 111 => .connectionRefused
  | .code _ => .uncategorized
  | .text _ => .other

/-- What the system says about one of the numbers that `kind` tells apart. -/
def description (number : Nat) : String :=
  match number with
  | 1 => "Operation not permitted"
  | 2 => "No such file or directory"
  | 13 => "Permission denied"
  | 22 => "Invalid argument"
  | 24 => "Too many open files"
  | 98 => "Address already in use"
  | 99 => "Cannot assign requested address"
  | 101 => "Network is unreachable"
  | 111 => "Connection refused"
  | n => "Unknown error " ++ decimal n

/-- The message of an error. -/
def message : SystemError → String
  | .code number => description number ++ " (os error " ++ decimal number ++ ")"
  | .text description => description

/-- The report of an error. -/
def report (e : SystemError) : String :=
  match e with
  | .code number =>
    "Os \x7b code: " ++ decimal number ++ ", kind: " ++ e.kind.name ++ ", message: " ++
      quoted (description number) ++ " \x7d"
  | .text description =>
    "Custom \x7b kind: " ++ e.kind.name ++ ", error: " ++ quoted description ++ " \x7d"

/-- The process has no descriptor left for a socket. -/
def noDescriptors : SystemError := .code 24

/-- Another listener holds the port. -/
def addressInUse : SystemError := .code 98

/-- The address is none of the machine. -/
def addressNotAvailable : SystemError := .code 99

end SystemError

/-- Why serving failed. -/
inductive Error where
  /-- Another listener holds the port. -/
  | addressInUse (port : Port)
  /-- Listening at an address failed for another reason. -/
  | bind (address : SocketAddress) (source : SystemError)
  /-- A header policy holds an illegal name or value. -/
  | invalidHeader (text : String)
  /-- Accepting connections failed. -/
  | serve (source : SystemError)
  deriving DecidableEq, Repr

namespace Error

/-- The message of an error. -/
def message : Error → String
  | .addressInUse port => "port " ++ port.text ++ " is already in use"
  | .bind address source => "failed to bind " ++ address.text ++ ": " ++ source.message
  | .invalidHeader text => "invalid header `" ++ text ++ "`"
  | .serve source => "server error: " ++ source.message

/-- The report of an error. -/
def report : Error → String
  | .addressInUse port => "AddrInUse(" ++ port.text ++ ")"
  | .bind address source =>
    "Bind \x7b addr: " ++ address.text ++ ", source: " ++ source.report ++ " \x7d"
  | .invalidHeader text => "InvalidHeader(" ++ quoted text ++ ")"
  | .serve source => "Serve(" ++ source.report ++ ")"

/-- The system error behind an error. -/
def source? : Error → Option SystemError
  | .addressInUse _ => none
  | .bind _ source => some source
  | .invalidHeader _ => none
  | .serve source => some source

end Error

end PreviewServer
