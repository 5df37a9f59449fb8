import ContentionCharts.Settings

/-!
Formats of image files. The extension of a file's name decides its format, in any case; a name
that consists of an extension alone has none. Many formats are known by their extensions, three of
them can be written.
-/
namespace ContentionCharts

inductive ImageFormat where
  | png | jpeg | bmp
  | avif | dds | exr | farbfeld | gif | hdr | ico | pnm | qoi | tga | tiff | webp
  deriving DecidableEq, Repr

def extension? (name : String) : Option String :=
  let reversed := name.toList.reverse
  match reversed.dropWhile fun c => c != '.' with
  | '.' :: _ :: _ => some (String.ofList (reversed.takeWhile fun c => c != '.').reverse)
  | _ => none

namespace ImageFormat

def ofExtension? : String → Option ImageFormat
  | "png" => some png
  | "jpg" | "jpeg" => some jpeg
  | "bmp" => some bmp
  | "avif" => some avif
  | "dds" => some dds
  | "exr" => some exr
  | "ff" | "farbfeld" => some farbfeld
  | "gif" => some gif
  | "hdr" => some hdr
  | "ico" => some ico
  | "pbm" | "pgm" | "ppm" | "pam" => some pnm
  | "qoi" => some qoi
  | "tga" => some tga
  | "tif" | "tiff" => some tiff
  | "webp" => some webp
  | _ => none

def ofName? (name : String) : Option ImageFormat :=
  (extension? name).bind fun extension =>
    ofExtension? (String.ofList (extension.toList.map Char.toLower))

/-- Whether an image of this size can be written. The sides of a JPEG image are numbers of sixteen
bits. -/
def holds (format : ImageFormat) (size : Extent) : Bool :=
  match format with
  | png | bmp => true
  | jpeg => decide (size.width.toNat < UInt16.size ∧ size.height.toNat < UInt16.size)
  | _ => false

end ImageFormat

def pngSignature : List UInt8 := [0x89, 0x50, 0x4E, 0x47, 0x0D, 0x0A, 0x1A, 0x0A]

def wordAt (bytes : List UInt8) (start : Nat) : UInt32 :=
  ((bytes.drop start).take 4).foldl (fun word byte => (word <<< 8) ||| byte.toUInt32) 0

/-- The size that a PNG file states in its header. A file that ends with the size is too short to
be one. -/
def pngSize? (bytes : ByteArray) : Option Extent :=
  let header := (bytes.extract 0 25).toList
  if header.length = 25 ∧ header.take 8 = pngSignature then
    some ⟨wordAt header 16, wordAt header 20⟩
  else none

end ContentionCharts
