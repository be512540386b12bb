/-
# ByteStream.Address -- what an address asks for

An address is what a caller types. Two marks may stand in front of it and are cut off, each once
and in this order: `lavf://`, then `ffmpeg://`. What is left is either not a byte stream, and a
demuxer has to handle it (`rtsp:`), or it is opened as it is, except that the old names of
streaming over HTTP, `mms://` and `mmshttp://`, become `mmsh://`.
-/

import ByteStream.Error
import ByteStream.Text.AsciiCase
import ByteStream.Text.Split

namespace ByteStream

/-- Which demuxer, and which format, the layer above should take. -/
structure DemuxerHint where
  demuxer : String
  format : String
deriving DecidableEq, Repr

namespace DemuxerHint

/-- For cameras. -/
def rtsp : DemuxerHint := ⟨"lavf", "rtsp"⟩

/-- For what comes over `rtmp`. -/
def flv : DemuxerHint := ⟨"lavf", "flv"⟩

/-- The hint for a stream that was opened at `url`. -/
def forOpened (url : String) : Option DemuxerHint :=
  if Text.startsWith "rtmp".toList url.toList then some flv else none

end DemuxerHint

namespace Address

/-- The marks that are cut off, in order. -/
def marks : List String := ["lavf://", "ffmpeg://"]

/-- The schemes that the library offers; whether one can be opened is the backend's say. -/
def schemes : List String :=
  ["lavf", "ffmpeg", "rtmp", "rtsp", "http", "https", "mms", "mmst", "mmsh", "mmshttp", "udp",
   "ftp", "rtp", "httpproxy", "hls", "rtmpe", "rtmps", "rtmpt", "rtmpte", "rtmpts", "srtp", "tcp",
   "tls", "unix", "sftp", "md5"]

/-- What addresses that are not byte streams start with. -/
def delegated : String := "rtsp:"

/-- The old names of streaming over HTTP. -/
def legacy : List String := ["mms://", "mmshttp://"]

/-- The name they are opened under. -/
def streamingOverHttp : String := "mmsh://"

/-- What an address turns out to be. -/
inductive Target
  | openAt (url : String)
  | delegate (hint : DemuxerHint)
deriving DecidableEq, Repr

/-- Cuts one mark off, if it is there. -/
def dropMark (mark : String) (cs : List Char) : List Char :=
  (Text.after? mark.toList cs).getD cs

/-- Cuts the marks off, each once and in order. -/
def dropMarks (cs : List Char) : List Char := marks.foldl (fun cs mark => dropMark mark cs) cs

/-- What follows the first of the old names that `cs` starts with. -/
def afterLegacy? (cs : List Char) : Option (List Char) :=
  legacy.findSome? fun name => Text.after? name.toList cs

/-- What an address without marks turns out to be. -/
def classify (cs : List Char) : Target :=
  if Text.startsWith delegated.toList cs then .delegate .rtsp
  else
    match afterLegacy? cs with
    | some tail => .openAt (String.ofList (streamingOverHttp.toList ++ tail))
    | none => .openAt (String.ofList cs)

/-- What an address turns out to be; there has to be one. -/
def normalize (address : String) : Except StreamError Target :=
  if address = "" then .error (.input "no URL")
  else .ok (classify (dropMarks address.toList))

/-- The scheme is one of those offered, in any case. -/
def supports (scheme : String) : Bool := schemes.any fun s => Text.sameName s scheme

/-- A character of a scheme name. -/
def isSchemeChar (c : Char) : Bool := c.isAlphanum || c == '+' || c == '-' || c == '.'

/-- The scheme of a URL: what stands before its first colon, if that is a name. -/
def scheme? (url : String) : Option String :=
  match Text.cutAt ':' url.toList with
  | some (name, _) =>
    if name ≠ [] ∧ name.all isSchemeChar then some (String.ofList name) else none
  | none => none

end Address

/-- The library offers writing; a backend may still refuse it. -/
def canWrite : Bool := true

end ByteStream
