/-!
The two checksums of a PNG file: CRC-32 over a chunk and Adler-32 over the data before compression.
-/
namespace ContentionCharts.Image

def crcByte (register : UInt32) : UInt32 :=
  (List.range 8).foldl (fun r _ =>
    if r % 2 = 1 then (r >>> 1) ^^^ 0xEDB88320 else r >>> 1) register

def crc32 (bytes : ByteArray) : UInt32 :=
  let all : UInt32 := 0xFFFFFFFF
  let step (r : UInt32) (byte : UInt8) : UInt32 :=
    (r >>> 8) ^^^ crcByte ((r ^^^ byte.toUInt32) &&& 0xFF)
  bytes.foldl step all ^^^ all

def adler32 (bytes : ByteArray) : UInt32 :=
  let (a, b) := bytes.foldl (fun (a, b) byte =>
    let a := (a + byte.toUInt32) % 65521
    (a, (b + a) % 65521)) ((1 : UInt32), (0 : UInt32))
  (b <<< 16) ||| a

end ContentionCharts.Image
