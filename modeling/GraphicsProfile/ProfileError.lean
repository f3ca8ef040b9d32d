import GraphicsProfile.Document.Fault

namespace GraphicsProfile

inductive ProfileError where
  | missingBinding (name : String)
  | unknownType (name : String)
  | badDocument (error : Document.DocumentError)
  deriving DecidableEq

def ProfileError.message : ProfileError → String
  | missingBinding name => "no enum binding registered for " ++ Text.quote name
  | unknownType name => "unknown accessor type " ++ Text.quote name
  | badDocument _ => "malformed profile document"

end GraphicsProfile
