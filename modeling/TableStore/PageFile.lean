import TableStore.Fault
import TableStore.FileBytes

/-!
# Page files

A file seen as an array of pages of one size.  Page `n` begins at byte
`n * pageSize`; a rest that is shorter than a page belongs to no page.  A write
goes to a page of the file or to the one behind the last, so the file grows by
at most one page at a time.

Offsets are words of 64 bits.  No file is longer than a word can say, so the
offsets of its own pages are, and only those of pages far behind its end may
not be.
-/

set_option autoImplicit false

namespace TableStore

structure PageFile where
  pageSize : Nat
  content : FileBytes
deriving DecidableEq, Repr

namespace PageFile

/-- The first number that is no offset. -/
def offsetLimit : Nat := UInt64.size

def bufferLimit : Nat := UInt64.size / 2

def wholePages (file : PageFile) : Nat := file.content.length / file.pageSize

/-- The number of whole pages as a word. -/
def count (file : PageFile) : Except IoFault UInt32 :=
  if file.pageSize = 0 then .error .zeroPageSize
  else .ok (UInt32.ofNat file.wholePages)

def offset (file : PageFile) (page : UInt32) : Nat := page.toNat * file.pageSize

/-- Reads a page into a buffer of the given length.  The page is missing if the
file ends before it does. -/
def read (file : PageFile) (page : UInt32) (bufferLength : Nat) : Except IoFault Bytes :=
  if bufferLength ≠ file.pageSize then
    .error (.bufferSize file.pageSize bufferLength)
  else
    let last := file.offset page + file.pageSize
    if last ≤ file.content.length then
      .ok (file.content.slice (file.offset page) file.pageSize)
    else if last < offsetLimit then .error (.missingPage page)
    else .error .offsetOverflow

def write (file : PageFile) (page : UInt32) (data : Bytes) : Except IoFault PageFile :=
  if data.length ≠ file.pageSize then
    .error (.bufferSize file.pageSize data.length)
  else if file.offset page ≤ file.content.length then
    .ok { file with content := file.content.overwrite (file.offset page) data }
  else if file.offset page < offsetLimit then .error (.pastEnd page file.wholePages)
  else .error .offsetOverflow

/-- Appends a page of zeros.  Answers its number.  A page that no buffer holds is
in no file either. -/
def allocate (file : PageFile) : Except IoFault (UInt32 × PageFile) := do
  let page ← file.count
  if bufferLimit ≤ file.pageSize ∧ file.wholePages = 0 then .error .noBuffer
  else
    let file ← file.write page (Bytes.zeros file.pageSize)
    return (page, file)

/-- The content of a file with a piece written at an offset.  A gap before the
piece is filled with zeros; a piece without bytes leaves the content as it is. -/
def patch (content : FileBytes) (offset : Nat) (piece : Bytes) : FileBytes :=
  if piece.isEmpty then content else content.overwrite offset piece

/-- The content of a file cut or filled up to a length, if one is given, and
then with pieces written over it. -/
def edit (content : FileBytes) (length : Option Nat) (pieces : List (Nat × Bytes)) :
    FileBytes :=
  let start := match length with
    | some length => content.resize length
    | none => content
  pieces.foldl (fun content (offset, piece) => patch content offset piece) start

end PageFile

end TableStore
