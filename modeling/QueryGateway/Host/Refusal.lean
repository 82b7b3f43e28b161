/-!
# Refusals

What the operating system refuses to the program, and the two forms in which a refusal is told: with its number
after the text, and with its parts in braces.
-/

namespace QueryGateway.Host

/-- Why the operating system refuses something. -/
inductive Refusal where
  | notFound
  | permissionDenied
  | noSuchDevice
  | notADirectory
  | isADirectory
  | invalidArgument
  | nameTooLong
  | addressInUse
  | addressNotAvailable
  deriving DecidableEq, Repr

namespace Refusal

/-- The number of a refusal. -/
def code : Refusal → Nat
  | notFound => 2
  | permissionDenied => 13
  | noSuchDevice => 19
  | notADirectory => 20
  | isADirectory => 21
  | invalidArgument => 22
  | nameTooLong => 36
  | addressInUse => 98
  | addressNotAvailable => 99

/-- The kind that a refusal is counted to. -/
def kind : Refusal → String
  | notFound => "NotFound"
  | permissionDenied => "PermissionDenied"
  | noSuchDevice => "Uncategorized"
  | notADirectory => "NotADirectory"
  | isADirectory => "IsADirectory"
  | invalidArgument => "InvalidInput"
  | nameTooLong => "InvalidFilename"
  | addressInUse => "AddrInUse"
  | addressNotAvailable => "AddrNotAvailable"

/-- What a refusal says. -/
def text : Refusal → String
  | notFound => "No such file or directory"
  | permissionDenied => "Permission denied"
  | noSuchDevice => "No such device"
  | notADirectory => "Not a directory"
  | isADirectory => "Is a directory"
  | invalidArgument => "Invalid argument"
  | nameTooLong => "File name too long"
  | addressInUse => "Address already in use"
  | addressNotAvailable => "Cannot assign requested address"

/-- The text of a refusal with its number. -/
def message (refusal : Refusal) : String :=
  refusal.text ++ " (os error " ++ toString refusal.code ++ ")"

/-- The parts of a refusal. -/
def inspect (refusal : Refusal) : String :=
  "Os \x7b code: " ++ toString refusal.code ++ ", kind: " ++ refusal.kind
    ++ ", message: \"" ++ refusal.text ++ "\" \x7d"

end Refusal

end QueryGateway.Host
