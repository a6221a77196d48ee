import FormulaOcr.Launch
import FormulaOcr.Main
import FormulaOcr.Session
import FormulaOcr.Proofs.Encoding.Utf8
import FormulaOcr.Proofs.Dictionary
import FormulaOcr.Proofs.Json.Everywhere
import FormulaOcr.Proofs.Json.Numbers
import FormulaOcr.Proofs.Json.Strings
import FormulaOcr.Proofs.Json.RoundTrip
import FormulaOcr.Proofs.Json.Layout
import FormulaOcr.Proofs.Action
import FormulaOcr.Proofs.Usage.File
import FormulaOcr.Proofs.Usage.Counting
import FormulaOcr.Proofs.Localization.Shipped
import FormulaOcr.Proofs.Recognition.Protocol
import FormulaOcr.Proofs.Agreement
import FormulaOcr.Proofs.Commands
import FormulaOcr.Proofs.Leads
import FormulaOcr.Proofs.Localization.Tables
import FormulaOcr.Proofs.Steps
import FormulaOcr.Proofs.Session.Steady
import FormulaOcr.Proofs.Session.Reachable
import FormulaOcr.Proofs.Usage.Holding
import FormulaOcr.Proofs.Store.Stocked
import FormulaOcr.Proofs.Channel.Replies
import FormulaOcr.Proofs.Usage.Quota
import FormulaOcr.Proofs.Number.Overflow
import FormulaOcr.Proofs.Recognition.Failures
import FormulaOcr.Proofs.Session.Kept
import FormulaOcr.Proofs.Session.Restart
import FormulaOcr.Proofs.Store.Credentials
import FormulaOcr.Proofs.Store.Typing
import FormulaOcr.Proofs.Store.Writing
import FormulaOcr.Proofs.Rest.Shapes
import FormulaOcr.Proofs.Rest.Surfaces
import FormulaOcr.Proofs.SiliconFlow.Listing
import FormulaOcr.Proofs.Recognition.Spacing
import FormulaOcr.Proofs.Recognition.Tokens
import FormulaOcr.Proofs.Recognition.Checks
import FormulaOcr.Proofs.SiliconFlow.Ranking
import FormulaOcr.Proofs.Coupling
import FormulaOcr.Proofs.Parallel
import FormulaOcr.Proofs.Disk.Likeness
import FormulaOcr.Proofs.Session.Abreast
import FormulaOcr.Proofs.Localization.Languages
import FormulaOcr.Proofs.Localization.Loading
import FormulaOcr.Proofs.Session.Secrecy
import FormulaOcr.Proofs.Disk
import FormulaOcr.Proofs.Json.Spelling
import FormulaOcr.Proofs.Likeness
import FormulaOcr.Proofs.Localization.Messages
import FormulaOcr.Proofs.Localization.Wording
import FormulaOcr.Proofs.Localization.Speech
import FormulaOcr.Proofs.Recognition.Endings
import FormulaOcr.Proofs.SimpleTex.Classes
import FormulaOcr.Proofs.SimpleTex.Verdicts
import FormulaOcr.Proofs.SimpleTex.Clearing
import FormulaOcr.Proofs.SiliconFlow.Answers
import FormulaOcr.Proofs.Localization.Layers
import FormulaOcr.Proofs.Encoding.Base64
import FormulaOcr.Proofs.SimpleTex.Pictures
import FormulaOcr.Proofs.Number.Numerals
import FormulaOcr.Proofs.SiliconFlow.PriceList
import FormulaOcr.Proofs.Store.Rewriting
import FormulaOcr.Proofs.Store.Saving
import FormulaOcr.Proofs.Link.Opening
import FormulaOcr.Proofs.SimpleTex.Bookkeeping
import FormulaOcr.Proofs.SimpleTex.Attribution
import FormulaOcr.Proofs.Recognition.Complaints
import FormulaOcr.Proofs.Recognition.Selectors
import FormulaOcr.Proofs.Recognition.Offers
import FormulaOcr.Proofs.Text.Search
import FormulaOcr.Proofs.Text.Trimming
import FormulaOcr.Proofs.SiliconFlow.Classification
import FormulaOcr.Proofs.SimpleTex.Results
import FormulaOcr.Proofs.Text.Lines
import FormulaOcr.Proofs.Store.View
import FormulaOcr.Proofs.Store.Vouchers
import FormulaOcr.Proofs.StateFiles
import FormulaOcr.Proofs.SiliconFlow.Accounts
