import DeviceManagement.Text.Utf8

/-!
# Text files

Reading a file as text, where the file is given by its bytes if it exists.
-/

namespace DeviceManagement.Text

/-- Why a file cannot be read as text. -/
inductive FileFault where
  | notFound
  | notText
  deriving DecidableEq, Repr

/-- The wording of a fault. -/
def FileFault.message : FileFault → String
  | notFound => "No such file or directory (os error 2)"
  | notText => "stream did not contain valid UTF-8"

/-- The text of a file. -/
def readFile : Option (List UInt8) → Except FileFault String
  | none => .error .notFound
  | some bytes =>
    match ofUtf8 bytes with
    | .ok text => .ok text
    | .error _ => .error .notText

end DeviceManagement.Text
