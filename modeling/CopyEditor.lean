import CopyEditor.Main
import CopyEditor.Proofs.Scenario.SecondRun
import CopyEditor.Proofs.Catalog.SecondRun
import CopyEditor.Proofs.Catalog.Order
import CopyEditor.Proofs.Scenario.PlainText
import CopyEditor.Proofs.Catalog.PlainText
import CopyEditor.Proofs.Scenario.Block
import CopyEditor.Proofs.Command.Writing
import CopyEditor.Proofs.Caret
import CopyEditor.Proofs.Command.Checking
import CopyEditor.Proofs.Command.InPlace
import CopyEditor.Proofs.Scenario.FixedPoint
import CopyEditor.Proofs.Scenario.SecondBranch
import CopyEditor.Proofs.Files.Place
import CopyEditor.Proofs.Command.Mirror
import CopyEditor.Proofs.Command.Output
import CopyEditor.Proofs.Catalog.TargetLine
import CopyEditor.Proofs.Catalog.Neutral
import CopyEditor.Proofs.Scenario.Location
import CopyEditor.Proofs.Scenario.Paragraph
import CopyEditor.Proofs.Scenario.Matching
import CopyEditor.Proofs.Scenario.Neutral
import CopyEditor.Proofs.Typography.Runs
import CopyEditor.Proofs.Typography.StraightQuotes
import CopyEditor.Proofs.Citation
import CopyEditor.Proofs.Rule.NearName
import CopyEditor.Proofs.ContentCaret
import CopyEditor.Proofs.Rule.DoubledSpace
import CopyEditor.Proofs.Scenario.NoBreakSpace
import CopyEditor.Proofs.Typography.AnyOrder
import CopyEditor.Proofs.Rule.Search
import CopyEditor.Proofs.Scenario.Speaker
import CopyEditor.Proofs.Settings
import CopyEditor.Proofs.Text.Terminator
import CopyEditor.Proofs.Command.Printing
