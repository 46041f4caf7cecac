import DocTag.Address.Basic
import DocTag.Registry
import DocTag.Service.Standard
import DocTag.Settings.Standard
import DocTag.Proofs.Character
import DocTag.Proofs.Blank
import DocTag.Proofs.Datum
import DocTag.Proofs.Dedent
import DocTag.Proofs.Json
import DocTag.Proofs.Respaced
import DocTag.Proofs.Trailing
import DocTag.Proofs.Indentation
import DocTag.Proofs.Depth
import DocTag.Proofs.Scope
import DocTag.Proofs.Pattern
import DocTag.Proofs.Ty.Read
import DocTag.Proofs.Ty.Piece
import DocTag.Proofs.Ty.Settled
import DocTag.Proofs.Ty.Rendering
import DocTag.Proofs.Ty.WellFormed
import DocTag.Proofs.Ty.Recursion
import DocTag.Proofs.Ty.Reread
import DocTag.Proofs.Ty.Hollow
import DocTag.Proofs.Ty.Classes
import DocTag.Proofs.Ty.Interchange
import DocTag.Proofs.Ty.Expression
import DocTag.Proofs.Tag.Signature
import DocTag.Proofs.Tag.Grammar
import DocTag.Proofs.Tag.Parameter
import DocTag.Proofs.Tag.Reading
import DocTag.Proofs.Tag.Layout
import DocTag.Proofs.Tag.Written
import DocTag.Proofs.Tag.Normal
import DocTag.Proofs.Tag.Body
import DocTag.Proofs.Tag.Rewritten
import DocTag.Proofs.Tag.Refusal
import DocTag.Proofs.Tag.Draft
import DocTag.Proofs.Tag.Spacing
import DocTag.Proofs.Tag.Author
import DocTag.Proofs.Tag.Byline
import DocTag.Proofs.Tag.Outer
import DocTag.Proofs.Tag.Legacy
import DocTag.Proofs.Registry.Line
import DocTag.Proofs.Registry.Scope
import DocTag.Proofs.Registry.Fallback
import DocTag.Proofs.Registry.Run
import DocTag.Proofs.Service.Agreement
import DocTag.Proofs.Service.Run
import DocTag.Proofs.Service.Told
import DocTag.Proofs.Yaml
import DocTag.Proofs.Settings.Support
import DocTag.Proofs.Settings.Layer
import DocTag.Proofs.Settings.Fields
import DocTag.Proofs.Settings.Standard
import DocTag.Proofs.Settings.Load
import DocTag.Proofs.Settings.Alias
