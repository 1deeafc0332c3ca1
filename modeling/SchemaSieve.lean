import SchemaSieve.Main
import SchemaSieve.Files.Store
import SchemaSieve.Filter.PerDeclaration
import SchemaSieve.Proofs.KeyOrder
import SchemaSieve.Proofs.Storing
import SchemaSieve.Proofs.Lines
import SchemaSieve.Proofs.LineClass
import SchemaSieve.Proofs.Words
import SchemaSieve.Proofs.Reading
import SchemaSieve.Proofs.Blocks
import SchemaSieve.Proofs.BlockReading
import SchemaSieve.Proofs.Header
import SchemaSieve.Proofs.ParsedLines
import SchemaSieve.Proofs.Rereading
import SchemaSieve.Proofs.WrittenText
import SchemaSieve.Proofs.Filtering
import SchemaSieve.Proofs.RoundTrip
import SchemaSieve.Proofs.DescriptionText
import SchemaSieve.Proofs.EmptyBlocks
import SchemaSieve.Proofs.Cutting
import SchemaSieve.Proofs.CleanUp
import SchemaSieve.Proofs.Visiting
import SchemaSieve.Proofs.Passing
import SchemaSieve.Proofs.Entries
import SchemaSieve.Proofs.Failing
import SchemaSieve.Proofs.BlankLines
import SchemaSieve.Proofs.Sections
import SchemaSieve.Proofs.PreservedText
import SchemaSieve.Proofs.Normalizing
import SchemaSieve.Proofs.Accounting
import SchemaSieve.Proofs.Appending
import SchemaSieve.Proofs.Signatures
import SchemaSieve.Proofs.Describing
import SchemaSieve.Proofs.Attaching
import SchemaSieve.Proofs.Paths
import SchemaSieve.Proofs.Locating
import SchemaSieve.Proofs.Replacing
import SchemaSieve.Proofs.AllOrNothing
import SchemaSieve.Proofs.Backups
import SchemaSieve.Proofs.FieldGroups
import SchemaSieve.Proofs.WholeLines
import SchemaSieve.Proofs.Hoisting
import SchemaSieve.Proofs.Placement
import SchemaSieve.Proofs.BrokenRemovals
import SchemaSieve.Proofs.Deciding
import SchemaSieve.Proofs.Reordering
import SchemaSieve.Proofs.Auditing
import SchemaSieve.Proofs.Captioning
import SchemaSieve.Proofs.FieldNames
import SchemaSieve.Proofs.OpenLists
import SchemaSieve.Proofs.Literals
import SchemaSieve.Proofs.Framing
import SchemaSieve.Proofs.Configuring
import SchemaSieve.Proofs.Templates
import SchemaSieve.Proofs.DescriptionOrder
import SchemaSieve.Proofs.Groups
import SchemaSieve.Proofs.FirstColon
