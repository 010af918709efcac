import TableStore.Checksum
import TableStore.CommandLine

/-!
# The program

Runs one invocation of the command line on a file of the system.  How the words of
the command line become options and a command is up to whoever calls it.
-/

set_option autoImplicit false

namespace TableStore.CommandLine

/-- The content of a file, which is created empty if it is missing; none if that
is not possible. -/
def load (path : String) : IO (Option ByteArray) := do
  try
    return some (← IO.FS.readBinFile path)
  catch _ =>
    try
      IO.FS.writeBinFile path .empty
      return some .empty
    catch _ => return none

def report (outcome : Outcome) : IO UInt32 := do
  match outcome with
  | .output text =>
      IO.print text
      return 0
  | .failure text chain =>
      IO.print text
      IO.eprint (errorText chain)
      return 1

def runOnContent (options : Options) (command : Command) (content : ByteArray) : IO UInt32 := do
  let path := (← IO.FS.realPath options.path).toString
  let target : Target := ⟨"table", ⟨Checksum.crc32 (Text.utf8 path)⟩⟩
  let before := content.data.toList
  let (outcome, disk) :=
    invoke { options with path } target command
      ((∅ : Disk).insert target.file (.ofBytes before))
  let after := ((disk.get? target.file).getD ∅).bytes
  if after ≠ before then IO.FS.writeBinFile options.path ⟨after.toArray⟩
  report outcome

def runOnFile (options : Options) (command : Command) : IO UInt32 := do
  match options.settings.validate with
  | .error error => report (.failure "" error.chain)
  | .ok () =>
      match ← load options.path with
      | some content => runOnContent options command content
      | none => report (.failure "" (DatabaseError.opening options.path (.io .noSuchPath)).chain)

/-- Runs the invocation that the arguments are read as; wrong arguments have a
status of their own. -/
def run (read : List String → Option (Options × Command)) (arguments : List String) :
    IO UInt32 :=
  match read arguments with
  | some (options, command) => runOnFile options command
  | none => return 2

end TableStore.CommandLine
