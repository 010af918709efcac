import TableStore.Page
import TableStore.PageFile
import TableStore.SortedMap

/-!
# Tables

A table is a schema over a file of pages.  The files are kept by name; two
tables may share a file.  Reads and writes here go straight to the file.
-/

set_option autoImplicit false

namespace TableStore

abbrev Disk := SortedMap String FileBytes

/-- An open table: its identity, the name of its file, the layout of its rows
and the size of its pages. -/
structure Table where
  id : TableId
  file : String
  schema : Schema
  pageSize : Nat
deriving DecidableEq, Repr

namespace Table

variable (table : Table)

def page (number : UInt32) : PageId := ⟨table.id, number⟩

def pages (disk : Disk) : PageFile := ⟨table.pageSize, (disk.get? table.file).getD ∅⟩

def pageCount (disk : Disk) : Except StoreError UInt32 :=
  match (table.pages disk).count with
  | .ok count => .ok count
  | .error fault => .error (.io fault)

def checkPage (page : PageId) : Except StoreError Unit :=
  if page.table = table.id then .ok () else .error (.badPageId page table.id)

def readPage (disk : Disk) (page : PageId) : Except StoreError Page := do
  table.checkPage page
  let count ← table.pageCount disk
  if page.number < count then
    match (table.pages disk).read page.number table.pageSize with
    | .ok data => Page.decode page table.schema table.pageSize data
    | .error fault => .error (.io fault)
  else .error (.pageNotFound page)

def writePage (disk : Disk) (page : Page) : Except StoreError Disk := do
  table.checkPage page.id
  let data ← page.encode
  match (table.pages disk).write page.id.number data with
  | .ok file => .ok (disk.insert table.file file.content)
  | .error fault => .error (.io fault)

def allocatePage (disk : Disk) : Except StoreError (PageId × Disk) :=
  match (table.pages disk).allocate with
  | .ok (number, file) => .ok (table.page number, disk.insert table.file file.content)
  | .error fault => .error (.io fault)

end Table

end TableStore
