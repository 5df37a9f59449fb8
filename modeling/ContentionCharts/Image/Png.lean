import ContentionCharts.Image.Checksum
import ContentionCharts.Image.Format

/-!
A blank sheet as a PNG file: one bit per pixel, all of them white, stored without compression. It
holds the size of a chart, which is what a directory keeps of it.
-/
namespace ContentionCharts.Image

def bigEndian (n : UInt32) : List UInt8 :=
  [(n >>> 24).toUInt8, (n >>> 16).toUInt8, (n >>> 8).toUInt8, n.toUInt8]

def littleEndian (n : UInt16) : List UInt8 :=
  [n.toUInt8, (n >>> 8).toUInt8]

def ofList (bytes : List UInt8) : ByteArray := ⟨bytes.toArray⟩

/-- The length counts the data only, the checksum covers the name as well. -/
def chunk (name : String) (data : ByteArray) : ByteArray :=
  let named := name.toUTF8 ++ data
  ofList (bigEndian data.size.toUInt32) ++ named ++ ofList (bigEndian (crc32 named))

def longestBlock : Nat := 65535

def storedBlocks (data : ByteArray) : Nat → Nat → ByteArray → ByteArray
  | 0, _, out => out
  | left + 1, start, out =>
    let block := data.extract start (start + longestBlock)
    let size := block.size.toUInt16
    let mark : UInt8 := if left = 0 then 1 else 0
    storedBlocks data left (start + longestBlock)
      (out ++ ofList (mark :: littleEndian size ++ littleEndian (size ^^^ 0xFFFF)) ++ block)

def stored (data : ByteArray) : ByteArray :=
  let blocks := max 1 ((data.size + longestBlock - 1) / longestBlock)
  ofList [0x78, 0x01] ++ storedBlocks data blocks 0 .empty ++ ofList (bigEndian (adler32 data))

def whiteRow (width : UInt32) : List UInt8 :=
  0 :: List.replicate ((width.toNat + 7) / 8) 0xFF

def whiteRows (size : Extent) : ByteArray :=
  let row := ofList (whiteRow size.width)
  (List.range size.height.toNat).foldl (fun rows _ => rows ++ row) .empty

def blankPng (size : Extent) : ByteArray :=
  ofList pngSignature ++
    chunk "IHDR" (ofList (bigEndian size.width ++ bigEndian size.height ++ [1, 0, 0, 0, 0])) ++
    chunk "IDAT" (stored (whiteRows size)) ++ chunk "IEND" .empty

end ContentionCharts.Image
