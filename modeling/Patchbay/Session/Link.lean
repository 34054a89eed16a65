import Patchbay.Session.Restore
import Patchbay.Share.Link

namespace Patchbay.Session

def payload (session : Session) (deflate : Deflate.Packer) : String :=
  Payload.encode deflate session.snapshot

def shareLink (session : Session) (deflate : Deflate.Packer) (base : String) :
    Except UrlError String :=
  Link.make base session.shareParam (session.payload deflate)

def ofPayload (payload : String) (runner : Runner) (settings : Settings) :
    Except PayloadError Session :=
  match Payload.decode payload with
  | .ok state => .ok (ofState state runner settings)
  | .error error => .error error

/-- The session that a link carries; the starter graph if it carries none. -/
def ofLink (link : String) (runner : Runner) (settings : Settings) : Session :=
  match Link.payload? link settings.shareParam with
  | none => starterGraph runner settings
  | some payload =>
      match ofPayload payload runner settings with
      | .ok session => session
      | .error _ => starterGraph runner settings

end Patchbay.Session
