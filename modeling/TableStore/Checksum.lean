import TableStore.Bytes

/-!
# Checksums

The cyclic redundancy check of 32 bits with the reflected polynomial
`0xEDB88320`.  A table on the command line is identified by the checksum of the
absolute path of its file.
-/

set_option autoImplicit false

namespace TableStore.Checksum

/-- The register after one more bit. -/
def shift (register : UInt32) : UInt32 :=
  if register &&& 1 = 1 then (register >>> 1) ^^^ 0xEDB88320 else register >>> 1

def feed (register : UInt32) (byte : UInt8) : UInt32 :=
  (List.range 8).foldl (fun register _ => shift register) (register ^^^ byte.toUInt32)

def crc32 (bytes : Bytes) : UInt32 := bytes.foldl feed 0xFFFFFFFF ^^^ 0xFFFFFFFF

example : crc32 [0x31, 0x32, 0x33, 0x34, 0x35, 0x36, 0x37, 0x38, 0x39] = 0xCBF43926 := by
  decide +kernel

end TableStore.Checksum
