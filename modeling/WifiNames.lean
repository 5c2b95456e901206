import WifiNames.Main
import WifiNames.Files.Tree
import WifiNames.Registry.Request
import WifiNames.Proofs.Utf8.Reading
import WifiNames.Proofs.Shape
import WifiNames.Proofs.Gb18030
import WifiNames.Proofs.Converter
import WifiNames.Proofs.History
import WifiNames.Proofs.Registry
import WifiNames.Proofs.Session
import WifiNames.Proofs.Direction
import WifiNames.Proofs.Agreement
import WifiNames.Proofs.Shape.Units
import WifiNames.Proofs.Classification
import WifiNames.Proofs.Utf8.Slice
import WifiNames.Proofs.Layout
import WifiNames.Proofs.Tiling
import WifiNames.Proofs.Insertion
import WifiNames.Proofs.Annotation
import WifiNames.Proofs.Gb18030.Distinct
import WifiNames.Proofs.Identity
import WifiNames.Proofs.Cut
import WifiNames.Proofs.PlainName
import WifiNames.Proofs.Precedence
import WifiNames.Proofs.LineBreaks
import WifiNames.Proofs.Order
import WifiNames.Proofs.Settings
import WifiNames.Proofs.Stability
import WifiNames.Proofs.Styles
import WifiNames.Proofs.Field
import WifiNames.Proofs.Ways
import WifiNames.Proofs.Dialogue
import WifiNames.Proofs.Files.Path
import WifiNames.Proofs.Files.Tree
import WifiNames.Proofs.Files.Growth
import WifiNames.Proofs.Settings.Store
import WifiNames.Proofs.Shape.Grammar
import WifiNames.Proofs.Converter.Longest
import WifiNames.Proofs.Gb18030.Codes
import WifiNames.Proofs.Yaml.Folding
import WifiNames.Proofs.Yaml.Line
import WifiNames.Proofs.Yaml.Plain
import WifiNames.Proofs.Yaml.Quoted
import WifiNames.Proofs.Yaml.Literal
import WifiNames.Proofs.Yaml.Fields
import WifiNames.Proofs.Yaml.Mapping
import WifiNames.Proofs.Settings.Written
import WifiNames.Proofs.Settings.Reload
import WifiNames.Proofs.Shape.Pairs
import WifiNames.Proofs.Escape
import WifiNames.Proofs.Scan.Run
import WifiNames.Proofs.Scan.Pattern
import WifiNames.Proofs.Scan.Maximal
import WifiNames.Proofs.Scan.Coverage
import WifiNames.Proofs.Scan.Word
import WifiNames.Proofs.Hex
import WifiNames.Proofs.Hex.Reader
import WifiNames.Proofs.Scan.FieldToken
import WifiNames.Proofs.Escape.Spelling
import WifiNames.Proofs.Utf8.Ascii
import WifiNames.Proofs.Escape.Round
import WifiNames.Proofs.Escape.Bytewise
