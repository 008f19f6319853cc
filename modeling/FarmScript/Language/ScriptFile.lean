import FarmScript.File
import FarmScript.Language.Script

/-! # Script files

A script is loaded from the text of a file; a script with more than `Script.maxLines` lines is
refused.
-/

namespace FarmScript.Script
set_option autoImplicit false

/-- The script of a file, given what reading it came to. -/
def load (path : String) (content : Except File.Failure String) : Except Fault Script :=
  match content with
  | .error failure => .error (failure.faultAt "script::from_file" path)
  | .ok text =>
    let script := parse text
    if maxLines < script.length then
      .error (((tooLarge script.length maxLines).withOperation "script::from_file").withContext
        "path" path)
    else .ok script

end FarmScript.Script
