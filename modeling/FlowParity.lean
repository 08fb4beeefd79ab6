import FlowParity.Main
import FlowParity.RuleFile.Writing
import FlowParity.Text.Inspected
import FlowParity.Proofs.Absorption
import FlowParity.Proofs.Grouping
import FlowParity.Proofs.Conservation
import FlowParity.Proofs.Chaining
import FlowParity.Proofs.SplitTransparency
import FlowParity.Proofs.SplitRecovery
import FlowParity.Proofs.Ties
import FlowParity.Proofs.RowOrder
import FlowParity.Proofs.TieBreaking
import FlowParity.Proofs.Sweep
import FlowParity.Proofs.GapCounting
import FlowParity.Proofs.Isolation
import FlowParity.Proofs.Reordering
import FlowParity.Proofs.Arrangement
import FlowParity.Proofs.RuleAgreement
import FlowParity.Proofs.RuleFaults
import FlowParity.Proofs.DeclaredNames
import FlowParity.Proofs.Rounding
import FlowParity.Proofs.ExactPass
import FlowParity.Proofs.Batches
import FlowParity.Proofs.Verdicts
import FlowParity.Proofs.RowReading
import FlowParity.Proofs.TableReading
import FlowParity.Proofs.Numerals
import FlowParity.Proofs.AddressReading
import FlowParity.Proofs.FieldText
import FlowParity.Proofs.TableWriting
import FlowParity.Proofs.Overriding
import FlowParity.Proofs.Inspecting
import FlowParity.Proofs.Dates
import FlowParity.Proofs.Labels
import FlowParity.Proofs.Renderings
import FlowParity.Proofs.Membership
import FlowParity.Proofs.Coarsening
import FlowParity.Proofs.Translation
import FlowParity.Proofs.LogLayers
import FlowParity.Proofs.Statistics
import FlowParity.Proofs.Closeness
import FlowParity.Proofs.InstantReading
import FlowParity.Proofs.Reversals
import FlowParity.Proofs.BothWays
import FlowParity.Proofs.AddressSpellings
import FlowParity.Proofs.NetworkReading
import FlowParity.Proofs.DateTimeTexts
import FlowParity.Proofs.InstantTexts
import FlowParity.Proofs.Assembly
import FlowParity.Proofs.SortedTables
import FlowParity.Proofs.JsonNumerals
import FlowParity.Proofs.JsonTexts
import FlowParity.Proofs.RuleFileTexts
import FlowParity.Proofs.Correlation
