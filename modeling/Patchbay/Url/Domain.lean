import Patchbay.Url.Label

namespace Patchbay.Url

def labels? (domain : List Char) : Option (List (List Char)) :=
  (fold? domain).bind fun folded => ((Text.normalize folded).splitOn '.').mapM Label.read?

/-- A host name as it is sent, if its labels are valid and nobody can mistake their order. -/
def domainToAscii? (domain : List Char) : Option (List Char) :=
  match labels? domain with
  | none => none
  | some labels =>
      if labels.all Label.isValid
          && (!labels.any Label.hasRightToLeft || labels.all Label.hasOneDirection) then
        some (['.'].intercalate (labels.map Label.toAscii))
      else none

end Patchbay.Url
