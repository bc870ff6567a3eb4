import EdgeAgent.Http.Uri
import EdgeAgent.Net.Url
import EdgeAgent.Platform.Reply

/-! The address of a collection of the platform: a base without slashes at its end, and the name of
the collection. It can be asked for only if it is an address of the web that can be written as that
of a request. -/

namespace EdgeAgent

/-- What is asked for to get a collection. -/
def platformAddress (base collection : String) : Except PlatformError Uri :=
  let s := dropTrailing '/' base.toList ++ '/' :: collection.toList
  match (Url.ofText? s).bind fun u => Uri.ofBytes? u.bytes with
  | some uri => .ok uri
  | none => .error .unsendable

end EdgeAgent
