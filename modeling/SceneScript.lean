import SceneScript.Compile.Action
import SceneScript.Compile.Behavior
import SceneScript.Compile.Build
import SceneScript.Compile.Component
import SceneScript.Compile.Creation
import SceneScript.Compile.Data
import SceneScript.Compile.Entity
import SceneScript.Compile.Event
import SceneScript.Compile.Fragment
import SceneScript.Compile.Ids
import SceneScript.Compile.Kinds
import SceneScript.Compile.Light
import SceneScript.Compile.Network
import SceneScript.Compile.Params
import SceneScript.Compile.Space
import SceneScript.Config.Game
import SceneScript.Config.Toml
import SceneScript.Json.Derive
import SceneScript.Json.Loose
import SceneScript.Json.Reader
import SceneScript.Json.Value
import SceneScript.Json.Writer
import SceneScript.Number.Binary64
import SceneScript.Number.Layout
import SceneScript.Number.Reading
import SceneScript.Number.Shortest
import SceneScript.Run.Fault
import SceneScript.Scene.Extract
import SceneScript.Scene.Flow
import SceneScript.Scene.Node
import SceneScript.Script.Literal
import SceneScript.Script.Writer
import SceneScript.Text.Blank
import SceneScript.Text.Case
import SceneScript.Text.Digit
import SceneScript.Value.Color
import SceneScript.Value.Transform
import SceneScript.Proofs.Faultless
import SceneScript.Proofs.IdAssignment
import SceneScript.Proofs.Compilers
import SceneScript.Proofs.Builds
import SceneScript.Proofs.LineFeeds
import SceneScript.Proofs.OutputLines
import SceneScript.Proofs.FlowReading
import SceneScript.Proofs.Extraction
import SceneScript.Proofs.WireTransform
import SceneScript.Proofs.Rounding
import SceneScript.Proofs.UnitColors
import SceneScript.Proofs.Blocks
import SceneScript.Proofs.Attachments
import SceneScript.Proofs.SpawnPoint
import SceneScript.Proofs.NearestDatum
import SceneScript.Proofs.ShortestDecimal
import SceneScript.Proofs.QuotedStrings
import SceneScript.Proofs.NumberTokens
import SceneScript.Proofs.LiteralDecoding
import SceneScript.Proofs.ColorNotations
import SceneScript.Proofs.ColorSpelling
import SceneScript.Proofs.TransformReading
import SceneScript.Proofs.RegistryNames
import SceneScript.Proofs.TimerDelay
import SceneScript.Proofs.CompactReading
import SceneScript.Proofs.CandidatePaths
import SceneScript.Proofs.ServerSettings
import SceneScript.Proofs.ParameterBounds
import SceneScript.Proofs.Indentation
