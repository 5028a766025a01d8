/-!
# Archives

An archive holds its members one after another, each behind a header that gives its name, size and
checksum, then a directory that says where each member starts, then a record that says where the
directory starts. Members are stored as they are, without compression, and carry a fixed time, so
equal members make equal archives.
-/

namespace SpecBundle.Zip

/-- A member of an archive. -/
structure Member where
  /-- The name. -/
  name : String
  /-- The bytes. -/
  content : ByteArray

/-- A number in so many bytes, lowest first. -/
def littleEndian (width value : Nat) : ByteArray :=
  ⟨((List.range width).map fun i => UInt8.ofNat (value >>> (8 * i))).toArray⟩

/-- Numbers with their widths, one after another. -/
def fields (values : List (Nat × Nat)) : ByteArray :=
  values.foldl (fun bytes field => bytes ++ littleEndian field.1 field.2) ByteArray.empty

/-- One bit of the checksum: a division by the polynomial of the format. -/
def shift (remainder : UInt32) : UInt32 :=
  if remainder &&& 1 = 1 then (remainder >>> 1) ^^^ 0xEDB88320 else remainder >>> 1

/-- One byte of the checksum. -/
def absorb (remainder : UInt32) (byte : UInt8) : UInt32 :=
  (List.range 8).foldl (fun r _ => shift r) (remainder ^^^ byte.toUInt32)

/-- The checksum of bytes. -/
def checksum (bytes : ByteArray) : UInt32 :=
  (bytes.foldl absorb 0xFFFFFFFF) ^^^ 0xFFFFFFFF

/-- The version that is needed to read the format. -/
def version : Nat := 20

/-- The flag that says that names are UTF-8. -/
def flags : Nat := 0x800

/-- The first of January 1980. -/
def firstDay : Nat := 33

/-- What the headers of a member share: its flags, method, time, date, checksum, sizes and the
lengths of its name and of nothing more. -/
def description (m : Member) : List (Nat × Nat) := [
  (2, flags), (2, 0), (2, 0), (2, firstDay), (4, (checksum m.content).toNat),
  (4, m.content.size), (4, m.content.size), (2, m.name.utf8ByteSize), (2, 0)]

/-- A member behind its header. -/
def localRecord (m : Member) : ByteArray :=
  fields ((4, 0x04034B50) :: (2, version) :: description m) ++ m.name.toUTF8 ++ m.content

/-- The entry of the directory for a member that starts at the given offset. -/
def directoryRecord (offset : Nat) (m : Member) : ByteArray :=
  fields ((4, 0x02014B50) :: (2, version) :: (2, version) :: description m ++
    [(2, 0), (2, 0), (2, 0), (4, 0), (4, offset)]) ++ m.name.toUTF8

/-- The members and the directory. -/
def records (members : List Member) : ByteArray × ByteArray :=
  members.foldl
    (fun (stored, directory) m =>
      (stored ++ localRecord m, directory ++ directoryRecord stored.size m))
    (ByteArray.empty, ByteArray.empty)

/-- The bytes of an archive with the given members, in order. -/
def encode (members : List Member) : ByteArray :=
  let (stored, directory) := records members
  stored ++ directory ++ fields [
    (4, 0x06054B50), (2, 0), (2, 0), (2, members.length), (2, members.length),
    (4, directory.size), (4, stored.size), (2, 0)]

end SpecBundle.Zip
