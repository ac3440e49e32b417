import TuningAdvisor.Number.Decimal
import TuningAdvisor.Text.Blank
import TuningAdvisor.Document.Decoder
/-!
# Environment entries: `RecommendationConfigEnv`

What a recommendation comes to in the end: a name and a value such as `-XX:MaxRAMPercentage=75.0`.
The number that an entry carries is what stands behind the last equals sign of its value.
-/

namespace TuningAdvisor

structure EnvEntry where
  name : String
  value : String
deriving DecidableEq, Repr

namespace EnvEntry

/-- The text behind the last equals sign, or all of it. -/
def valueText (value : String) : List Char :=
  (value.toList.reverse.takeWhile (· != '=')).reverse

def number? (e : EnvEntry) : Option Float :=
  readFloat? (String.ofList (trimChars (valueText e.value)))

def withFlag (flag : String) (e : EnvEntry) : EnvEntry := { e with value := flag ++ " " ++ e.value }

/-- Several entries as one, their values in order. -/
def combine (name : String) (parts : List EnvEntry) : Option EnvEntry :=
  if parts.isEmpty then none
  else some { name, value := " ".intercalate (parts.map (·.value)) }

def toText (e : EnvEntry) : String := e.name ++ "=" ++ e.value

def encode (e : EnvEntry) : Doc := .obj [("name", .str e.name), ("value", .str e.value)]

def record : Record EnvEntry :=
  .mk <$> .required "name" Decode.text <*> .required "value" Decode.text

def decode : Decoder EnvEntry := record.decoder "RecommendationConfigEnv"

end EnvEntry

end TuningAdvisor
