import SlotGrid.Main
import SlotGrid.Proofs.Numbering
import SlotGrid.Proofs.Placement
import SlotGrid.Proofs.Changes
import SlotGrid.Proofs.TagCut
import SlotGrid.Proofs.PageTags
import SlotGrid.Proofs.Entities
import SlotGrid.Proofs.UniqueReading
import SlotGrid.Proofs.TextParts
import SlotGrid.Proofs.Segments
import SlotGrid.Proofs.TokenScan
import SlotGrid.Proofs.WrittenRows
import SlotGrid.Proofs.QuotedStrings
import SlotGrid.Proofs.ConfigText
import SlotGrid.Proofs.UniqueSnapshots
import SlotGrid.Proofs.Arguments
import SlotGrid.Proofs.SlotFates
import SlotGrid.Proofs.RawText
import SlotGrid.Proofs.AppendedRows
import SlotGrid.Proofs.HandingOut
import SlotGrid.Proofs.StylesheetText
import SlotGrid.Proofs.MarkupText
import SlotGrid.Proofs.ComposedTrees
import SlotGrid.Proofs.JsonGrammar
import SlotGrid.Proofs.JsonTokens
import SlotGrid.Proofs.SkippedValues
import SlotGrid.Proofs.RecordTrees
import SlotGrid.Proofs.RecordReading
import SlotGrid.Proofs.WrittenValues
import SlotGrid.Proofs.ConfigTrees
import SlotGrid.Proofs.ConfigObjects
import SlotGrid.Proofs.ConfigSources
import SlotGrid.Proofs.AttributeArguments
import SlotGrid.Proofs.BlankMargins
import SlotGrid.Proofs.BuiltElements
import SlotGrid.Proofs.LastChanges
import SlotGrid.Proofs.RowStyles
import SlotGrid.Proofs.JoinedSegments
import SlotGrid.Proofs.Counters
