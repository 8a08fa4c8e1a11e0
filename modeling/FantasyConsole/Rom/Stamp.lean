import FantasyConsole.Rom.Header

/-!
# Stamping

Stamping pads a payload to whole pages and puts a header page before it. At most
65535 pages of payload are kept, and the page count is recorded modulo 65536.
-/
namespace FantasyConsole

structure HeaderInfo where
  title : String
  author : String
  version : UInt16
  created : Int64
  deriving DecidableEq, Repr

namespace HeaderInfo

def maxPages : Nat := 0xFFFF

def utf8 (s : String) : List UInt8 := s.toUTF8.data.toList

def pagesOf (payload : Array UInt8) : Nat := (payload.size + Header.pageSize - 1) / Header.pageSize

/-- The kept part of a payload, padded with zeros to whole pages. -/
def body (payload : Array UInt8) : Array UInt8 :=
  let pages := min (pagesOf payload) maxPages
  let kept := payload.extract 0 (maxPages * Header.pageSize)
  kept ++ Array.replicate (pages * Header.pageSize - kept.size) 0

/-- The header page of a padded payload. -/
def page (info : HeaderInfo) (body : Array UInt8) : List UInt8 :=
  Header.signature ++ Header.systemName ++ List.replicate 7 0
    ++ Header.wordBytes info.version
    ++ Header.pad Header.titleSize (utf8 info.title)
    ++ Header.pad Header.authorSize (utf8 info.author)
    ++ Header.wordBytes (checksum body)
    ++ Header.wordBytes (UInt16.ofNat (body.size / Header.pageSize + 1))
    ++ List.replicate 12 0
    ++ Header.timeBytes info.created
    ++ List.replicate 136 0

/-- The image of a payload with its header. A title that does not fit is reported before an
author. -/
def stamp (info : HeaderInfo) (payload : Array UInt8) : Except HeaderError (Array UInt8) :=
  let title := (utf8 info.title).length
  let author := (utf8 info.author).length
  if Header.titleSize < title then .error (.longTitle title)
  else if Header.authorSize < author then .error (.longAuthor author)
  else
    let body := body payload
    .ok ((info.page body).toArray ++ body)

def noteCut (payload : Array UInt8) (j : Journal) : Journal :=
  if maxPages < pagesOf payload then j.note (RomEvent.payloadCut (pagesOf payload) maxPages) else j

end HeaderInfo

end FantasyConsole
