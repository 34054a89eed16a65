import Patchbay.Share.Payload
import Patchbay.Url.Parser

namespace Patchbay.Link

/-- The address with the parameter set to a payload, in place of all its former values; the other
parameters stay in order. -/
def withPayload (url : Url) (param payload : String) : Url :=
  let kept := url.queryPairs.filter fun pair => pair.1 ≠ param
  { url with query := some (Url.Query.encode (kept ++ [(param, payload)])) }

def make (base param payload : String) : Except UrlError String :=
  match Url.parse base with
  | .ok url => .ok (withPayload url param payload).text
  | .error error => .error error

def errorMessage (error : UrlError) : String :=
  "Failed to parse base url: " ++ error.message

/-- The payload of a link: the first value of the parameter that is not empty. -/
def payload? (link param : String) : Option String :=
  match Url.parse link with
  | .ok url => (url.queryPairs.find? fun pair => pair.1 == param && !pair.2.isEmpty).map (·.2)
  | .error _ => none

/-- The state in a link, or in a text that is a payload itself. -/
def decode (text param : String) : Except PayloadError State :=
  Payload.decode ((payload? text param).getD (Text.trim text))

end Patchbay.Link
