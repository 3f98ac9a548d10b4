import PatternAudit.Config.OfToml
import PatternAudit.Config.OfYaml
import PatternAudit.Text.Blank

/-! Reading configurations from text. -/

namespace PatternAudit.Configuration

/-- The configuration that a TOML text describes. -/
def parseToml? (text : String) : Option Configuration :=
  (Toml.parse? text).bind ofToml?

/-- The configuration that a YAML text describes. A blank text describes the empty one. -/
def parseYaml? (text : String) : Option Configuration :=
  if text.toList.all Text.isBlank then some {}
  else (Yaml.Document.parse? text).bind ofYaml?

/-- The configuration that a text describes. -/
def parse? (format : Format) (text : String) : Option Configuration :=
  match format with
  | .toml => parseToml? text
  | .yaml => parseYaml? text

end PatternAudit.Configuration
