import MusicLibrary.Catalogue.Item
import MusicLibrary.Session

/-!
# Where images and streams are found

The addresses on the server that a listener's device fetches by itself. They carry the token of the
session, since such a device sends no headers of its own.
-/

namespace MusicLibrary.Session

open Catalogue

/-- The kind of image that stands for an item. -/
def primaryImage : String := "Primary"

/-- The greatest bitrate of a stream, in bits per second. -/
def greatestBitrate : String := "140000000"

/-- Where the image of an item is found, if it has one. -/
def thumbnailUrl? (s : Session) (item : Item) : Option String :=
  (item.imageTag? primaryImage).map fun tag =>
    s.baseUrl ++ "Items/" ++ item.id ++ "/Images/" ++ primaryImage ++ "?Tag=" ++ tag ++ "&api_key=" ++ s.accessToken

/-- Where the stream of an item of the given identifier is found. -/
def streamUrl (s : Session) (id : String) : String :=
  s.baseUrl ++ "Audio/" ++ id ++ "/universal?UserId=" ++ s.userId ++ "&DeviceId=" ++ s.deviceId ++
    "&api_key=" ++ s.accessToken ++ "&MaxStreamingBitrate=" ++ greatestBitrate

end MusicLibrary.Session
