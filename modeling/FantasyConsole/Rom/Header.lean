import FantasyConsole.Journal
import FantasyConsole.Text.Utf8
import FantasyConsole.Word

/-!
# ROM headers

An image may begin with a page of 256 bytes that describes the rest: a signature
and the name of the system, a version, a title and an author padded with zeros,
the checksum of all that follows the page, the number of pages with this one, and
the time of creation. Words are big-endian, the time is little-endian.
-/
namespace FantasyConsole

/-! ## Checksums

The checksum of a byte string is the exclusive or of its big-endian words, an odd
last byte being the high byte of a word. -/

/-- Word `i` of a byte string, zero beyond its end. -/
def wordAt (bytes : Array UInt8) (i : Nat) : UInt16 :=
  word (bytes.getD (2 * i) 0) (bytes.getD (2 * i + 1) 0)

def checksum (bytes : Array UInt8) : UInt16 :=
  Nat.fold ((bytes.size + 1) / 2) (fun i _ sum => sum ^^^ wordAt bytes i) 0

/-! ## Headers -/

inductive HeaderError where
  | short (size : Nat)
  | unsigned
  | longTitle (size : Nat)
  | longAuthor (size : Nat)
  deriving DecidableEq, Repr

structure Header where
  system : String
  version : UInt16
  title : String
  author : String
  checksum : UInt16
  pageCount : UInt16
  created : Int64
  deriving DecidableEq, Repr

namespace Header

def pageSize : Nat := 256
def titleSize : Nat := 48
def authorSize : Nat := 32

/-- The version of an image that gives none. -/
def standardVersion : UInt16 := 0x0100

end Header

def HeaderError.message (e : HeaderError) : String :=
  "invalid ROM header: " ++ match e with
  | .short size => "image is " ++ toString size ++ " bytes, shorter than one page"
  | .unsigned => "missing UXNR signature"
  | .longTitle size =>
    "title is " ++ toString size ++ " bytes, field holds " ++ toString Header.titleSize
  | .longAuthor size =>
    "author is " ++ toString size ++ " bytes, field holds " ++ toString Header.authorSize

namespace Header

def signature : List UInt8 := [0x55, 0x58, 0x4E, 0x52]

def systemName : List UInt8 := [0x42, 0x36, 0x58]

def wordBytes (w : UInt16) : List UInt8 := [highByte w, lowByte w]

def wordOf : List UInt8 → UInt16
  | high :: low :: _ => word high low
  | _ => 0

/-- The eight bytes of a time, low byte first. -/
def timeBytes (t : Int64) : List UInt8 :=
  (List.range 8).map fun i => (t.toUInt64 >>> UInt64.ofNat (8 * i)).toUInt8

def timeOf (bytes : List UInt8) : Int64 :=
  (bytes.foldr (fun b (t : UInt64) => t <<< 8 ||| b.toUInt64) 0).toInt64

/-- A text field ends at its first zero. -/
def textOf (bytes : List UInt8) : String := Utf8.decodeLossy (bytes.takeWhile (· != 0))

/-- `bytes` and zeros up to `size` bytes. -/
def pad (size : Nat) (bytes : List UInt8) : List UInt8 :=
  bytes ++ List.replicate (size - bytes.length) 0

def isSigned (image : Array UInt8) : Bool := (image.extract 0 4).toList == signature

def parse (image : Array UInt8) : Except HeaderError Header :=
  if image.size < pageSize then .error (.short image.size)
  else if !isSigned image then .error .unsigned
  else
    let field (start size : Nat) : List UInt8 := (image.extract start (start + size)).toList
    .ok {
      system := textOf (field 0x04 3)
      version := wordOf (field 0x0E 2)
      title := textOf (field 0x10 titleSize)
      author := textOf (field 0x40 authorSize)
      checksum := wordOf (field 0x60 2)
      pageCount := wordOf (field 0x62 2)
      created := timeOf (field 0x70 8) }

/-- Whether an image, its first page included, has the recorded checksum. -/
def verify (h : Header) (image : Array UInt8) : Bool :=
  pageSize ≤ image.size && FantasyConsole.checksum (image.extract pageSize image.size) == h.checksum

end Header

/-- What reports about images say. -/
inductive RomEvent where
  | headerRejected (e : HeaderError)
  | payloadCut (pages kept : Nat)
  deriving DecidableEq, Repr

instance : Loggable RomEvent where
  topic _ := .rom
  level _ := .warn
  message
    | .headerRejected e => "rom: " ++ e.message
    | .payloadCut pages kept =>
      "stamp: " ++ toString pages ++ " pages exceed the maximum of " ++ toString kept ++
        "; truncating"

/-- The bytes of a ROM file. -/
structure Rom where
  bytes : Array UInt8
  deriving DecidableEq

namespace Rom

/-- Where the code of an image with a header begins. -/
def headedEntry : UInt16 := 0x0100

/-- The header of a signed image; a header that cannot be read is reported. -/
def readHeader (rom : Rom) (j : Journal) : Option Header × Journal :=
  if !Header.isSigned rom.bytes then (none, j)
  else
    match Header.parse rom.bytes with
    | .ok h => (some h, j)
    | .error e => (none, j.note (RomEvent.headerRejected e))

/-- Where execution starts when the image lies at address 0. -/
def entry (rom : Rom) (j : Journal) : UInt16 × Journal :=
  let (h, j) := rom.readHeader j
  (if h.isSome then headedEntry else 0, j)

end Rom

end FantasyConsole
