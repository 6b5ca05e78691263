import TexelFormats.Device.Config
import TexelFormats.Json.Forms
import TexelFormats.Json.Reader
import TexelFormats.Session
import TexelFormats.Yaml.Mapping
import TexelFormats.Proofs.FlagSets
import TexelFormats.Proofs.OfferedFeatures
import TexelFormats.Proofs.Responses
import TexelFormats.Proofs.ResponseReuse
import TexelFormats.Proofs.Support
import TexelFormats.Proofs.Compression
import TexelFormats.Proofs.ModifierList
import TexelFormats.Proofs.AdvertisedFeatures
import TexelFormats.Proofs.ModifierTilings
import TexelFormats.Proofs.TilingErrata
import TexelFormats.Proofs.LesserQueries
import TexelFormats.Proofs.CubicFiltering
import TexelFormats.Proofs.DeviceSettings
import TexelFormats.Proofs.Decisions
import TexelFormats.Proofs.TableRows
import TexelFormats.Proofs.CoherentFeatures
import TexelFormats.Proofs.Violations
import TexelFormats.Proofs.QueryLog
import TexelFormats.Proofs.ExternalMemory
import TexelFormats.Proofs.JsonGrammar
import TexelFormats.Proofs.JsonLiterals
import TexelFormats.Proofs.JsonReading
import TexelFormats.Proofs.JsonWriting
import TexelFormats.Proofs.JsonDecoding
import TexelFormats.Proofs.Records
import TexelFormats.Proofs.Configuration
import TexelFormats.Proofs.FormatTables
import TexelFormats.Proofs.LegacyView
import TexelFormats.Proofs.StageEncodings
import TexelFormats.Proofs.ChipNames
import TexelFormats.Proofs.Environment
import TexelFormats.Proofs.TableIndex
import TexelFormats.Proofs.RuleGrants
import TexelFormats.Proofs.YamlBlocks
import TexelFormats.Proofs.ConfigurationTexts
import TexelFormats.Proofs.ChannelSums
