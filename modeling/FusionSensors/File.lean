/-
# FusionSensors.File -- files as a program finds them

A file that cannot be opened and one that cannot be read are told apart, since
they are reported differently.
-/
import FusionSensors.Text.Lines

namespace FusionSensors

set_option autoImplicit false

/-- What a path leads to. -/
inductive File where
  /-- cannot be opened -/
  | absent (reason : String)
  /-- opens but cannot be read -/
  | unreadable (reason : String)
  | content (bytes : ByteArray)

namespace File

/-- The reason of a path that leads nowhere. -/
def noSuchFile : String := "No such file or directory (os error 2)"

/-- The reason of a path that leads to a directory. -/
def isDirectory : String := "Is a directory (os error 21)"

/-- The reason of bytes that are not UTF-8. -/
def notText : String := "stream did not contain valid UTF-8"

def missing : File := .absent noSuchFile

def directory : File := .unreadable isDirectory

/-- The text of a file, or why it has none. -/
def text : File → Except String String
  | .absent reason => .error reason
  | .unreadable reason => .error reason
  | .content bytes =>
    match String.fromUTF8? bytes with
    | some text => .ok text
    | none => .error notText

end File

end FusionSensors
