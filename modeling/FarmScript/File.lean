import FarmScript.Fault

/-! # Files

What reading or writing a file comes to. A `Shelf` is a place where files and directories lie
under their names; reading from it gives the text of a file or the `Failure` that stands in its
way.
-/

namespace FarmScript.File
set_option autoImplicit false

/-- Why a file could not be used. -/
inductive Cause where
  | notFound
  | permissionDenied
  | other
deriving DecidableEq

/-- A failed use of a file, in the words of the system. -/
structure Failure where
  cause : Cause
  message : String
deriving DecidableEq

namespace Failure

/-- There is nothing under the name. -/
def missing : Failure where
  cause := .notFound
  message := "No such file or directory (os error 2)"

/-- There is a directory under the name. -/
def directory : Failure where
  cause := .other
  message := "Is a directory (os error 21)"

/-- The file may not be used. -/
def forbidden : Failure where
  cause := .permissionDenied
  message := "Permission denied (os error 13)"

/-- The bytes of the file are no text. -/
def notText : Failure where
  cause := .other
  message := "stream did not contain valid UTF-8"

/-- The kind of fault that a failure is. -/
def kind (failure : Failure) : Fault.Kind :=
  match failure.cause with
  | .notFound => .fileNotFound
  | .permissionDenied => .permissionDenied
  | .other => .ioFailed

/-- The fault that reports a failure. -/
def fault (failure : Failure) : Fault :=
  ((Fault.of failure.kind failure.message).withOperation "io").withSource failure.message

/-- The fault that reports a failure of `operation` on the file at `path`. -/
def faultAt (failure : Failure) (operation path : String) : Fault :=
  (failure.fault.withOperation operation).withContext "path" path

end Failure

/-- What lies under a name: a file, or something that cannot be used as one. -/
inductive Entry where
  | bytes (content : ByteArray)
  | blocked (failure : Failure)

/-- Files and directories with their names. -/
abbrev Shelf := List (String × Entry)

namespace Shelf

/-- The entry under a name. -/
def find? (shelf : Shelf) (name : String) : Option Entry := shelf.lookup name

/-- The text of a file. -/
def read (shelf : Shelf) (name : String) : Except Failure String :=
  match shelf.find? name with
  | none => .error .missing
  | some (.blocked failure) => .error failure
  | some (.bytes content) =>
    match String.fromUTF8? content with
    | some text => .ok text
    | none => .error .notText

/-- The shelf with a text under a name, in place of the file that was there. A new file needs a
name without a directory in it. -/
def write (shelf : Shelf) (name text : String) : Except Failure Shelf :=
  match shelf.find? name with
  | some (.blocked failure) => .error failure
  | some (.bytes _) =>
    .ok (shelf.map fun entry => if entry.1 = name then (name, .bytes text.toUTF8) else entry)
  | none =>
    if name = "" ∨ '/' ∈ name.toList then .error .missing
    else .ok (shelf ++ [(name, .bytes text.toUTF8)])

end Shelf

end FarmScript.File
