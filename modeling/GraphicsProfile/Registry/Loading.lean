import GraphicsProfile.Document.Reading
import GraphicsProfile.Event
import GraphicsProfile.Preset
import GraphicsProfile.ProfileError

namespace GraphicsProfile.Registry

def preset : Registry :=
  ⟨WebGL.profileName, .ofList WebGL.codes⟩

def loadPreset : Logged Registry :=
  ⟨preset, [.presetLoaded preset.name preset.size]⟩

/-- Loads a registry from a document. A document that is refused leaves no trace in the log. -/
def load (document : String) : Logged (Except ProfileError Registry) :=
  match ofDocument document with
  | .ok registry => ⟨.ok registry, [.documentLoaded registry.name registry.size]⟩
  | .error error => ⟨.error (.badDocument error), []⟩

end GraphicsProfile.Registry
